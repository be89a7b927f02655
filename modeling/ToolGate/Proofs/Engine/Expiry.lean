/-
What a sweep that comes first changes.

Requests outlive a policy as time goes by, but nothing looks at their age except a sweep. So the
answer to a verdict, a message or a try may depend on whether a sweep was made just before it.

* `resolve_sweep_fst`, `consume_sweep_fst` — the answers after a sweep: those without it, unless the
  request has outlived the policy.
* `isOver_of_pending`, `isOver_of_approved` — what outliving the policy says of the times in a
  request.
* `sweep_first_agrees_iff` — the answers with and without the sweep agree just when the request that
  is asked about has not outlived the policy; otherwise only the sweep refuses it.
* `applied_after_lifetime` — they do differ.
-/
import Mathlib
import ToolGate.Proofs.Engine.Run

namespace ToolGate.Approval

/-- Pending requests: `isOver` compares the time since `createdAt`. -/
theorem isOver_of_pending {policy : ExpiryPolicy} {now : Timestamp} {r : Request}
    (h : r.status = .pending) :
    policy.isOver now r = true ↔ policy.lifetime < now.since r.createdAt := by
  simp [ExpiryPolicy.isOver, h]

/-- Approved requests: `isOver` needs `expireResolved` and compares the time since `resolvedAt`. -/
theorem isOver_of_approved {policy : ExpiryPolicy} {now : Timestamp} {r : Request}
    (h : r.status = .approved) :
    policy.isOver now r = true ↔ policy.expireResolved = true ∧
      ∃ t, r.resolvedAt = some t ∧ policy.lifetime < now.since t := by
  cases hr : r.resolvedAt <;> simp [ExpiryPolicy.isOver, h, hr]

namespace Ledger

variable {l : Ledger} {policy : ExpiryPolicy} {now : Timestamp}

/-! ## Answers after a sweep -/

/-- A sweep keeps the `status` of what is not `expired`. -/
theorem Coherent.status_sweep (h : l.Coherent) {id : RequestId} {s : Status} :
    (l.sweep policy now).2.status id = some s ↔
      l.status id = some s ∧ id ∉ l.expired policy now := by
  rw [status, status, h.get?_sweep, h.mem_expired]
  cases hr : l.get? id with
  | none => simp
  | some r => cases hover : policy.isOver now r <;> simp [Option.filter, hover]

/-- A sweep keeps `approvedFor?` unless that request is `expired`. -/
theorem Coherent.approvedFor?_sweep (h : l.Coherent) {key : String} {id : RequestId} :
    (l.sweep policy now).2.approvedFor? key = some id ↔
      l.approvedFor? key = some id ∧ id ∉ l.expired policy now := by
  rw [approvedFor?_eq_some, approvedFor?_eq_some, h.claims_sweep, h.status_sweep,
    Option.filter_eq_some_iff, decide_eq_true_eq]
  tauto

/-- After a sweep, `resolve` succeeds where it did before on what is not `expired`. -/
theorem Coherent.resolve_sweep_fst (h : l.Coherent) {id : RequestId} {verdict : Verdict} :
    ((l.sweep policy now).2.resolve now id verdict).1 = true ↔
      (l.resolve now id verdict).1 = true ∧ id ∉ l.expired policy now := by
  rw [Engine.resolve_fst_iff, Engine.resolve_fst_iff, h.status_sweep]

theorem consume_fst_iff {call : ToolCall} :
    (l.consume call).1 = true ↔ ∃ id, l.approvedFor? call.fingerprint = some id := by
  rw [consume_eq]
  cases l.approvedFor? call.fingerprint <;> simp

/-- After a sweep, `consume` succeeds where it did before on an approval that is not `expired`. -/
theorem Coherent.consume_sweep_fst (h : l.Coherent) {call : ToolCall} :
    ((l.sweep policy now).2.consume call).1 = true ↔
      (l.consume call).1 = true ∧
        ∀ id, l.approvedFor? call.fingerprint = some id → id ∉ l.expired policy now := by
  simp only [consume_fst_iff, h.approvedFor?_sweep]
  constructor
  · rintro ⟨id, hfor, hkept⟩
    refine ⟨⟨id, hfor⟩, fun id' hfor' => ?_⟩
    rw [hfor, Option.some.injEq] at hfor'
    exact hfor' ▸ hkept
  · rintro ⟨⟨id, hfor⟩, hkept⟩
    exact ⟨id, hfor, hkept id hfor⟩

/-! ## Requests that are too old -/

/-- Pending for longer than `lifetime`. -/
def WaitsTooLong (l : Ledger) (policy : ExpiryPolicy) (now : Timestamp) (id : RequestId) : Prop :=
  ∃ r, l.get? id = some r ∧ r.status = .pending ∧ policy.lifetime < now.since r.createdAt

/-- Approved, with `expireResolved` set, and for longer than `lifetime`. -/
def ApprovedTooLongAgo (l : Ledger) (policy : ExpiryPolicy) (now : Timestamp)
    (id : RequestId) : Prop :=
  ∃ r t, l.get? id = some r ∧ r.status = .approved ∧ r.resolvedAt = some t ∧
    policy.expireResolved = true ∧ policy.lifetime < now.since t

theorem Coherent.waitsTooLong_iff (h : l.Coherent) {id : RequestId} :
    l.WaitsTooLong policy now id ↔ l.status id = some .pending ∧ id ∈ l.expired policy now := by
  rw [status_eq_some, h.mem_expired]
  constructor
  · rintro ⟨r, hr, hpending, hold⟩
    exact ⟨⟨r, hr, hpending⟩, r, hr, (isOver_of_pending hpending).mpr hold⟩
  · rintro ⟨⟨r, hr, hpending⟩, r', hr', hover⟩
    obtain rfl : r = r' := Option.some.inj (hr.symm.trans hr')
    exact ⟨r, hr, hpending, (isOver_of_pending hpending).mp hover⟩

theorem Coherent.approvedTooLongAgo_iff (h : l.Coherent) {id : RequestId} :
    l.ApprovedTooLongAgo policy now id ↔
      l.status id = some .approved ∧ id ∈ l.expired policy now := by
  rw [status_eq_some, h.mem_expired]
  constructor
  · rintro ⟨r, t, hr, happroved, ht, hexpires, hold⟩
    exact ⟨⟨r, hr, happroved⟩, r, hr, (isOver_of_approved happroved).mpr ⟨hexpires, t, ht, hold⟩⟩
  · rintro ⟨⟨r, hr, happroved⟩, r', hr', hover⟩
    obtain rfl : r = r' := Option.some.inj (hr.symm.trans hr')
    obtain ⟨hexpires, t, ht, hold⟩ := (isOver_of_approved happroved).mp hover
    exact ⟨r, t, hr, happroved, ht, hexpires, hold⟩

/-- A sweep first changes the answer of `resolve` just if the request `WaitsTooLong`. -/
theorem Coherent.resolve_sweep_agrees_iff (h : l.Coherent) {id : RequestId} {verdict : Verdict} :
    ((l.sweep policy now).2.resolve now id verdict).1 = (l.resolve now id verdict).1 ↔
      ¬ l.WaitsTooLong policy now id := by
  rw [Bool.eq_iff_iff, h.resolve_sweep_fst, h.waitsTooLong_iff, Engine.resolve_fst_iff]
  tauto

/-- A sweep first changes the answer of `consume` just if the approval is `ApprovedTooLongAgo`. -/
theorem Coherent.consume_sweep_agrees_iff (h : l.Coherent) {call : ToolCall} :
    ((l.sweep policy now).2.consume call).1 = (l.consume call).1 ↔
      ∀ id, l.approvedFor? call.fingerprint = some id → ¬ l.ApprovedTooLongAgo policy now id := by
  rw [Bool.eq_iff_iff, h.consume_sweep_fst, consume_fst_iff]
  constructor
  · intro hsame id hfor hold
    exact (hsame.mpr ⟨id, hfor⟩).2 id hfor (h.approvedTooLongAgo_iff.mp hold).2
  · intro hkept
    refine ⟨And.left, fun hthere => ⟨hthere, fun id hfor hold => hkept id hfor ?_⟩⟩
    exact h.approvedTooLongAgo_iff.mpr ⟨(approvedFor?_eq_some.mp hfor).2, hold⟩

end Ledger

end ToolGate.Approval

namespace ToolGate.Engine

open Approval

/-- The answer of `onMessage` is that of `resolve` on the parsed command. -/
theorem onMessage_fst (e : Engine) (now : Timestamp) (text : String) :
    (e.onMessage now text).1 =
      (Command.parse? text).map fun c => ⟨c, (e.ledger.resolve now c.id c.verdict).1⟩ := by
  unfold onMessage
  cases Command.parse? text <;> rfl

/-- When a `sweep` just before makes no difference: to `resolve` and `onMessage`, iff the request is
not `WaitsTooLong`; to `consume`, iff the approval is not `ApprovedTooLongAgo`. -/
theorem sweep_first_agrees_iff {e : Engine} (h : e.ledger.Reachable) (policy : ExpiryPolicy)
    (now : Timestamp) :
    (∀ id verdict,
      ((e.ledger.sweep policy now).2.resolve now id verdict).1 =
          (e.ledger.resolve now id verdict).1 ↔
        ¬ e.ledger.WaitsTooLong policy now id) ∧
    (∀ text,
      ((e.sweep policy now).2.onMessage now text).1 = (e.onMessage now text).1 ↔
        ∀ c, Command.parse? text = some c → ¬ e.ledger.WaitsTooLong policy now c.id) ∧
    ∀ call,
      ((e.ledger.sweep policy now).2.consume call).1 = (e.ledger.consume call).1 ↔
        ∀ id, e.ledger.approvedFor? call.fingerprint = some id →
          ¬ e.ledger.ApprovedTooLongAgo policy now id := by
  have hl : e.ledger.Coherent := Ledger.coherent_of_reachable h
  refine ⟨fun id verdict => hl.resolve_sweep_agrees_iff, fun text => ?_,
    fun call => hl.consume_sweep_agrees_iff⟩
  have hledger : (e.sweep policy now).2.ledger = (e.ledger.sweep policy now).2 := rfl
  rw [onMessage_fst, onMessage_fst, hledger]
  cases Command.parse? text with
  | none => simp
  | some c => simpa using hl.resolve_sweep_agrees_iff

/-- At exactly `lifetime`, a verdict is taken with or without a sweep; an older approval is taken
without only. -/
theorem sweep_first_agrees_iff_at_lifetime :
    let call : ToolCall := ⟨"exec", []⟩
    let other : ToolCall := ⟨"read", []⟩
    let l := (((Ledger.empty.create ⟨1⟩ ⟨0⟩ call "ask").create ⟨2⟩ ⟨1⟩ other "ask").resolve
      ⟨0⟩ ⟨1⟩ .approve).2
    let policy : ExpiryPolicy := ⟨1000, true⟩
    l.Reachable ∧
      ((l.sweep policy ⟨1001⟩).2.resolve ⟨1001⟩ ⟨2⟩ .deny).1 = (l.resolve ⟨1001⟩ ⟨2⟩ .deny).1 ∧
      ((l.sweep policy ⟨1001⟩).2.consume call).1 ≠ (l.consume call).1 := by
  intro call other l policy
  have h : l.Reachable :=
    .step (.step (.step .empty (.create ⟨1⟩ ⟨0⟩ call "ask") rfl) (.create ⟨2⟩ ⟨1⟩ other "ask") rfl)
      (.resolve ⟨0⟩ ⟨1⟩ .approve) trivial
  obtain ⟨hverdict, -, htry⟩ :=
    sweep_first_agrees_iff (e := ⟨.usual, .given [], l⟩) h policy ⟨1001⟩
  refine ⟨h, (hverdict ⟨2⟩ .deny).mpr ?_,
    fun hsame => (htry call).mp hsame ⟨1⟩ (by decide +kernel) ?_⟩
  · rintro ⟨r, hr, -, hold⟩
    have hget : l.get? ⟨2⟩ = some (.raised ⟨2⟩ ⟨1⟩ other "ask") := by rfl
    rw [hget, Option.some.injEq] at hr
    rw [← hr] at hold
    exact absurd hold (by decide)
  · exact ⟨_, ⟨0⟩, rfl, rfl, rfl, rfl, by decide⟩

/-- Past `lifetime` and without a sweep, `onMessage` approves a request and `consume` uses up an
approval. -/
theorem applied_after_lifetime :
    let call : ToolCall := ⟨"exec", []⟩
    let e : Engine := ⟨⟨.requireApproval, none, []⟩, .given [], .empty⟩
    let text := "approve 00000000-0000-0000-0000-000000000001"
    let policy : ExpiryPolicy := ⟨1000, true⟩
    let asked := (e.evaluate ⟨⟨0⟩, ⟨1⟩, none⟩ call ⟨""⟩).2
    let told := (asked.onMessage ⟨0⟩ text).2
    asked.ledger.Reachable ∧ told.ledger.Reachable ∧
      (asked.onMessage ⟨1001⟩ text).1 = some ⟨⟨⟨1⟩, .approve⟩, true⟩ ∧
      ((asked.sweep policy ⟨1001⟩).2.onMessage ⟨1001⟩ text).1 = some ⟨⟨⟨1⟩, .approve⟩, false⟩ ∧
      (told.ledger.consume call).1 = true ∧
      ((told.ledger.sweep policy ⟨1001⟩).2.consume call).1 = false := by
  intro call e text policy asked told
  have hasked : asked.ledger.Reachable :=
    .step .empty (.create ⟨1⟩ ⟨0⟩ call noMatchReason) rfl
  have htext : Command.parse? text = some ⟨⟨1⟩, .approve⟩ := by decide +kernel
  have htold : told.ledger = (asked.ledger.resolve ⟨0⟩ ⟨1⟩ .approve).2 := by
    simp only [told, onMessage, htext]
  refine ⟨hasked, htold ▸ .step hasked (.resolve ⟨0⟩ ⟨1⟩ .approve) trivial, ?_⟩
  decide +kernel

end ToolGate.Engine

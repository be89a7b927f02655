/-
What one decision does to the ledger.

Most decisions do nothing to it. Only where the rules ask for approval is it looked at, and then
either one request goes, with the claim that led to it, or one comes and takes the claim.

* `Ledger.Loses`, `Ledger.Gains` — one request went, or came, and nothing else changed in either
  table.
* `Effect` — what is told about a call, and what became of the ledger, for each check that may
  decide. `effect_evaluate`: there is nothing else.
* `Guarded.perform` — the effects of an executor that has some.
* `evaluation_effect` — the effect of deciding about a call, and of running it if it is allowed.
-/
import Mathlib
import ToolGate.Proofs.Approval.Conservation
import ToolGate.Proofs.Engine.Run

namespace ToolGate.Approval.Ledger

variable {l : Ledger}

/-- From `l` to `l'`, the request `id` went with its claim to `key`, and nothing else changed. -/
structure Loses (l l' : Ledger) (key : String) (id : RequestId) : Prop where
  request : ∀ i, l'.get? i = if i = id then none else l.get? i
  claim : ∀ k, l'.claims.get? k = if k = key then none else l.claims.get? k
  size : l'.size + 1 = l.size

/-- From `l` to `l'`, the request `r` came with the claim to `r.key`, and nothing else changed. -/
structure Gains (l l' : Ledger) (r : Request) : Prop where
  request : ∀ i, l'.get? i = if i = r.id then some r else l.get? i
  claim : ∀ k, l'.claims.get? k = if k = r.key then some r.id else l.claims.get? k
  size : l.get? r.id = none → l'.size = l.size + 1

theorem Coherent.loses_remove (h : l.Coherent) {call : ToolCall} {id : RequestId}
    (hfor : l.approvedFor? call.fingerprint = some id) :
    l.Loses (l.remove id) call.fingerprint id where
  request i := by
    rw [get?_remove]
    exact if_congr eq_comm rfl rfl
  claim k := by
    obtain ⟨hclaim, -⟩ := approvedFor?_eq_some.mp hfor
    obtain ⟨r, hr, -⟩ := h.claimed hclaim
    have hown : l.claims.get? k = some id ↔ k = call.fingerprint := by
      constructor
      · intro hk
        exact (h.key_of_claim hk hr).symm.trans (h.key_of_claim hclaim hr)
      · rintro rfl
        exact hclaim
    rw [claims_remove h]
    exact if_congr hown rfl rfl
  size := by
    have hnew : (Op.consume call).IsFresh l := trivial
    have hsize := h.size_after hnew
    simp only [Op.newId?, reported, usesUp, sweptBy, Ledger.after, consume_eq, hfor,
      Option.toList_none, List.length_nil, if_true] at hsize
    omega

theorem Coherent.gains_create (h : l.Coherent) (id : RequestId) (now : Timestamp) (call : ToolCall)
    (reason : String) : l.Gains (l.create id now call reason) (.raised id now call reason) where
  request i := by
    rw [get?_create]
    exact if_congr eq_comm rfl rfl
  claim k := by
    rw [claims_create]
    exact if_congr eq_comm rfl rfl
  size hnone := by
    have hnew : (Op.create id now call reason).IsFresh l := hnone
    have hsize := h.size_after hnew
    simp only [Op.newId?, reported, usesUp, sweptBy, Ledger.after, Option.toList_some,
      List.length_singleton, Bool.false_eq_true, if_false] at hsize
    omega

end ToolGate.Approval.Ledger

namespace ToolGate

/-- The executor's step on a state, taken if `guard` allowed the call. -/
def Guarded.perform {σ β : Type} (g : Guarded (StateM σ β)) (s : σ) : Option β × σ :=
  match g.output with
  | some action => (some (action s).1, (action s).2)
  | none => (none, s)

namespace Engine

open Approval

/-- What `evaluate` tells and does to the ledger, one field for each of its exits. -/
structure Effect (e : Engine) (m : Moment) (call : ToolCall) (intent : Intent) (told : Evaluation)
    (after : Ledger) : Prop where
  /-- The exit `exempts`. -/
  internalTool : e.policy.exempts call.tool = true →
    told = ⟨.allow, "internal tool: " ++ call.tool, none⟩ ∧ after = e.ledger
  /-- The exit `forbids`. -/
  protectedPath : e.policy.exempts call.tool = false → e.policy.forbids call = true →
    told = ⟨.block, Protection.reason, none⟩ ∧ after = e.ledger
  /-- Rules that block. -/
  blocked : e.policy.exempts call.tool = false → e.policy.forbids call = false →
    (e.found m call intent).decision = .block →
    told = ⟨.block, (e.found m call intent).reason, none⟩ ∧ after = e.ledger
  /-- Rules that allow. An approval that may be there is kept. -/
  allowed : e.policy.exempts call.tool = false → e.policy.forbids call = false →
    (e.found m call intent).decision = .allow →
    told = ⟨.allow, (e.found m call intent).reason, none⟩ ∧ after = e.ledger
  /-- Rules that ask, and an approved request in `claims`: it is used up. -/
  approved : e.AsksApproval m call intent → ∀ id,
    e.ledger.claims.get? call.fingerprint = some id → e.ledger.status id = some .approved →
    told = ⟨.allow, Ruling.approvedReason, none⟩ ∧ e.ledger.Loses after call.fingerprint id
  /-- Rules that ask, and no approved request in `claims`: the ledger `Gains` one. -/
  requested : e.AsksApproval m call intent →
    (∀ id, e.ledger.claims.get? call.fingerprint = some id → e.ledger.status id ≠ some .approved) →
    told = ⟨.requiresApproval, requestMessage (e.found m call intent).reason m.freshId,
      some m.freshId⟩ ∧
    e.ledger.Gains after ⟨m.freshId, call.tool, call.args, .pending, (e.found m call intent).reason,
      m.now, none, call.fingerprint⟩

/-- On `Coherent` ledgers, `Effect` describes `evaluate`. -/
theorem effect_evaluate {e : Engine} (h : e.ledger.Coherent) (m : Moment) (call : ToolCall)
    (intent : Intent) :
    Effect e m call intent (e.evaluate m call intent).1 (e.evaluate m call intent).2.ledger where
  internalTool hexempts := by
    rw [evaluate, judge_of_exempts hexempts]
    exact ⟨rfl, rfl⟩
  protectedPath hexempts hforbids := by
    rw [evaluate, judge_of_forbids hexempts hforbids]
    exact ⟨rfl, rfl⟩
  blocked hexempts hforbids hfound := by
    rw [evaluate, judge_of_passes hexempts hforbids, Policy.ruleMatched, hfound]
    exact ⟨rfl, rfl⟩
  allowed hexempts hforbids hfound := by
    rw [evaluate, judge_of_passes hexempts hforbids, Policy.ruleMatched, hfound]
    exact ⟨rfl, rfl⟩
  approved hasks id hclaim hstatus := by
    have hfor := Ledger.approvedFor?_eq_some.mpr ⟨hclaim, hstatus⟩
    rw [evaluate, judge_of_approvedFor? hasks hfor]
    exact ⟨rfl, h.loses_remove hfor⟩
  requested hasks hnone := by
    have hfor : e.ledger.approvedFor? call.fingerprint = none := by
      refine Option.eq_none_iff_forall_ne_some.mpr fun id hid => ?_
      obtain ⟨hclaim, hstatus⟩ := Ledger.approvedFor?_eq_some.mp hid
      exact hnone id hclaim hstatus
    rw [evaluate, judge_of_approvedFor?_eq_none hasks hfor]
    exact ⟨rfl, h.gains_create ..⟩

section

variable {e : Engine} {m : Moment} {call : ToolCall} {intent : Intent}

/-- On `.block`, `evaluate` leaves the ledger alone. -/
theorem ledger_of_block (hblock : (e.evaluate m call intent).1.decision = .block) :
    (e.evaluate m call intent).2.ledger = e.ledger := by
  simp only [evaluate] at hblock ⊢
  have hcases := judge_cases e m call intent
  generalize e.judge m call intent = outcome at hblock hcases
  obtain ⟨r, e'⟩ := outcome
  cases hcases with
  | blocked => rfl
  | protectedPath => rfl
  | _ => cases hblock

/-- A `requestId` is told just with `.requiresApproval`. -/
theorem requestId_evaluate :
    (e.evaluate m call intent).1.requestId ≠ none ↔
      (e.evaluate m call intent).1.decision = .requiresApproval := by
  simp only [evaluate]
  cases (e.judge m call intent).1 <;> simp [Ruling.evaluation, Ruling.requestId, Ruling.decision]

/-- In terms of `evaluate`: `guard` runs the executor iff the decision is `.allow`. -/
theorem guard_eq {β : Type} (execute : ToolCall → β) :
    e.guard m call intent execute =
      (⟨(e.evaluate m call intent).1,
        if (e.evaluate m call intent).1.decision = .allow then some (execute call) else none⟩,
        (e.evaluate m call intent).2) := rfl

/-- Stateful executors take one step of `perform` if the decision is `.allow`, and none
otherwise. -/
theorem perform_guard {σ β : Type} (execute : ToolCall → StateM σ β) (s : σ) :
    (e.guard m call intent execute).1.perform s =
      if (e.evaluate m call intent).1.decision = .allow then
        (some (execute call s).1, (execute call s).2) else (none, s) := by
  rw [guard_eq]
  by_cases hallow : (e.evaluate m call intent).1.decision = .allow
  · simp only [hallow, if_true, Guarded.perform]
  · simp only [hallow, if_false, Guarded.perform]

end

/-- On `Reachable` ledgers every exit of `evaluate` has exactly its `Effect`, and `guard` decides as
`evaluate` does and runs the executor once iff the decision is `.allow`. -/
theorem evaluation_effect {e : Engine} (h : e.ledger.Reachable) (m : Moment) (call : ToolCall)
    (intent : Intent) :
    let told := (e.evaluate m call intent).1
    let after := (e.evaluate m call intent).2
    Effect e m call intent told after.ledger ∧
      (told.decision = .block → after.ledger = e.ledger) ∧
      (told.requestId ≠ none ↔ told.decision = .requiresApproval) ∧
      (∀ {β : Type} (execute : ToolCall → β), e.guard m call intent execute =
        (⟨told, if told.decision = .allow then some (execute call) else none⟩, after)) ∧
      (∀ {σ β : Type} (execute : ToolCall → StateM σ β) (s : σ),
        (e.guard m call intent execute).1.perform s =
          if told.decision = .allow then (some (execute call s).1, (execute call s).2)
          else (none, s)) :=
  ⟨effect_evaluate (Ledger.coherent_of_reachable h) m call intent, ledger_of_block,
    requestId_evaluate, guard_eq, perform_guard⟩

/-- An approval is at hand: a call that the rules allow keeps it, its own call uses it up, another
one raises a request. -/
theorem evaluation_effect_of_approved :
    let call : ToolCall := ⟨"exec", []⟩
    let other : ToolCall := ⟨"read", []⟩
    let m : Moment := ⟨⟨7⟩, ⟨2⟩, none⟩
    let l := ((Ledger.empty.create ⟨1⟩ ⟨0⟩ call "ask").resolve ⟨5⟩ ⟨1⟩ .approve).2
    let asks : Engine := ⟨⟨.requireApproval, none, []⟩, .given [], l⟩
    let allows : Engine := ⟨⟨.allow, none, []⟩, .given [], l⟩
    let log : ToolCall → StateM (List ToolCall) Unit := fun c => modify (· ++ [c])
    l.Reachable ∧ (allows.evaluate m call ⟨""⟩).2.ledger.get? ⟨1⟩ ≠ none ∧
      l.Loses (asks.evaluate m call ⟨""⟩).2.ledger call.fingerprint ⟨1⟩ ∧
      (asks.guard m call ⟨""⟩ log).1.perform [] = (some (), [call]) ∧
      (asks.evaluate m other ⟨""⟩).1.requestId = some ⟨2⟩ ∧
      (asks.evaluate m other ⟨""⟩).2.ledger.size = 2 ∧
      (asks.guard m other ⟨""⟩ log).1.perform [] = (none, []) := by
  intro call other m l asks allows log
  have h : l.Reachable :=
    .step (.step .empty (.create ⟨1⟩ ⟨0⟩ call "ask") rfl) (.resolve ⟨5⟩ ⟨1⟩ .approve) trivial
  obtain ⟨hkept, -⟩ := evaluation_effect (e := allows) h m call ⟨""⟩
  obtain ⟨hused, -, -, -, hrun⟩ := evaluation_effect (e := asks) h m call ⟨""⟩
  obtain ⟨hraised, -, -, -, hnotRun⟩ := evaluation_effect (e := asks) h m other ⟨""⟩
  obtain ⟨htold, hloses⟩ :=
    hused.approved ⟨rfl, rfl, rfl⟩ ⟨1⟩ (by decide +kernel) (by decide +kernel)
  obtain ⟨hasked, hgains⟩ := hraised.requested ⟨rfl, rfl, rfl⟩ (by decide +kernel)
  obtain ⟨-, hsame⟩ := hkept.allowed rfl rfl rfl
  refine ⟨h, ?_, hloses, ?_, by rw [hasked], (hgains.size rfl).trans rfl, ?_⟩
  · rw [hsame]
    decide +kernel
  · rw [hrun log [], htold]
    rfl
  · rw [hnotRun log [], hasked]
    rfl

end Engine

end ToolGate

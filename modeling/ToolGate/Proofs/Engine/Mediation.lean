/-
Nothing runs that was not exempt, allowed by the rules, or approved once for just this call.

* `Traced.request_of_approvedFor?` — an approved request that speaks for a call was raised for the
  same call, whatever else stands in the ledger.
* `Traced.once` — a request that is used up was approved earlier in the run, and neither used up nor
  swept before.
* `guard_is_mediated` — what is behind every guarded call that runs, at any place of any run.
-/
import Mathlib
import ToolGate.Proofs.Approval.Fingerprint
import ToolGate.Proofs.Engine.History

namespace ToolGate.Engine

open Approval Json

section

variable {e : Engine} {past : List Event} {ev : Event} {id : RequestId}

/-- What an event `Consumes` is the `approvedFor?` of its call. -/
theorem Traced.approvedFor?_of_consumes (h : Traced e past) (hc : (e.run past).Consumes ev id) :
    ∃ call, ev.call? = some call ∧ (e.run past).ledger.approvedFor? call.fingerprint = some id := by
  obtain ⟨hnot, hthere, hnone⟩ := hc
  rcases request_cases h.coherent ev id with hsame | ⟨-, now, call, reason, -, hget⟩ |
    ⟨now, verdict, r, -, hr, hget⟩ | ⟨-, hfor⟩ | ⟨hsweep, -⟩
  · exact absurd (hsame ▸ hnone) hthere
  · simp [hget] at hnone
  · simp [hget] at hnone
  · exact hfor
  · simp [hnot] at hsweep

/-- On `WellFormed` arguments, the `approvedFor?` of a call was raised for the `Same` call. -/
theorem Traced.request_of_approvedFor? (h : Traced e past) {call : ToolCall}
    (hcall : WellFormed (.object call.args))
    (hstored : ∀ id r, (e.run past).ledger.get? id = some r → WellFormed (.object r.args))
    (hfor : (e.run past).ledger.approvedFor? call.fingerprint = some id) :
    ∃ r, (e.run past).ledger.get? id = some r ∧ r.status = .approved ∧ r.tool = call.tool ∧
      Same (.object r.args) (.object call.args) := by
  obtain ⟨hclaim, hstatus⟩ := Ledger.approvedFor?_eq_some.mp hfor
  obtain ⟨r, hr, happroved⟩ := Ledger.status_eq_some.mp hstatus
  have hkey : fingerprint r.tool r.args = fingerprint call.tool call.args :=
    (h.coherent.key_eq hr).symm.trans (h.coherent.key_of_claim hclaim hr)
  obtain ⟨htool, hsame⟩ := same_of_fingerprint_eq (hstored id r hr) hcall hkey
  exact ⟨r, hr, happroved, htool, hsame⟩

/-- What an event `Consumes` is `.approved`, had an event that `Approves` it, and was neither
consumed nor swept before. -/
theorem Traced.once (h : Traced e past) (hc : (e.run past).Consumes ev id) :
    (e.run past).ledger.status id = some .approved ∧ Happened Approves e past id ∧
      ¬ Happened Consumes e past id ∧ ¬ Happened Sweeps e past id := by
  obtain ⟨call, -, hfor⟩ := h.approvedFor?_of_consumes hc
  have hstatus := (Ledger.approvedFor?_eq_some.mp hfor).2
  refine ⟨hstatus, h.approved hstatus, fun hbefore => ?_, fun hbefore => ?_⟩
  · exact hc.2.1 (h.gone (.inl hbefore)).2
  · exact hc.2.1 (h.gone (.inr hbefore)).2

end

/-- A step that leaves the ledger of `consume` is one that `Consumes` the `approvedFor?`. -/
theorem consumes_of_approved {e : Engine} {call : ToolCall} {ev : Event} {id : RequestId}
    (hsweep : ev.isSweep = false) (hfor : e.ledger.approvedFor? call.fingerprint = some id)
    (hafter : (e.after ev).ledger = (e.ledger.consume call).2) : e.Consumes ev id := by
  obtain ⟨r, hr, -⟩ := Ledger.status_eq_some.mp (Ledger.approvedFor?_eq_some.mp hfor).2
  refine ⟨hsweep, by simp [hr], ?_⟩
  rw [hafter, Ledger.consume_eq, hfor]
  simp [Ledger.get?_remove]

theorem approvedFor?_of_consume {l : Ledger} {call : ToolCall} (h : (l.consume call).1 = true) :
    ∃ id, l.approvedFor? call.fingerprint = some id := by
  rw [Ledger.consume_eq] at h
  cases hfor : l.approvedFor? call.fingerprint with
  | none => simp [hfor] at h
  | some id => exact ⟨id, rfl⟩

/-- Complete mediation. In a run from an empty ledger, `guard` runs a call only if the policy
`exempts` its tool, or if it does not forbid the path and the rules allow the call, or ask and the
event `Consumes` a request that was raised for the `Same` call and approved before. No event
`Consumes` a request twice, or after a sweep. -/
theorem guard_is_mediated {e : Engine} (hempty : e.ledger = .empty)
    {past rest : List Event} {ev : Event} (hfresh : FreshIds e (past ++ ev :: rest))
    (hevents : ∀ ev' ∈ past ++ ev :: rest, ev'.WellFormed) :
    (∀ {β : Type} (m : Moment) (call : ToolCall) (intent : Intent) (execute : ToolCall → β),
      ev = .guard m call intent execute →
      ((e.run past).guard m call intent execute).1.executed = true →
      (e.run past).policy.exempts call.tool = true ∨
        ((e.run past).policy.forbids call = false ∧
          ((e.run past).found m call intent).decision = .allow) ∨
        ((e.run past).policy.forbids call = false ∧
          ((e.run past).found m call intent).decision = .requiresApproval ∧
          ∃ id r, (e.run past).Consumes ev id ∧ Happened Approves e past id ∧
            (e.run past).ledger.get? id = some r ∧ r.tool = call.tool ∧
            Same (.object r.args) (.object call.args))) ∧
      ∀ id, (e.run past).Consumes ev id →
        (e.run past).ledger.status id = some .approved ∧ Happened Approves e past id ∧
          ¬ Happened Consumes e past id ∧ ¬ Happened Sweeps e past id := by
  have hpast : Traced e past := traced_run hempty hfresh.prefix
  refine ⟨fun {β} m call intent execute hev hran => ?_, fun id hc => hpast.once hc⟩
  have hafter : (e.run past).after ev = ((e.run past).judge m call intent).2 := by rw [hev]; rfl
  have hallowed : ((e.run past).judge m call intent).1.decision = .allow := by
    simp only [guard, Guarded.executed, evaluate, Ruling.evaluation] at hran
    by_contra hnot
    simp [hnot] at hran
  have hcases := judge_cases (e.run past) m call intent
  generalize (e.run past).judge m call intent = outcome at hafter hallowed hcases
  obtain ⟨r, e'⟩ := outcome
  cases hcases with
  | internalTool h => exact .inl h
  | allowed _ hforbids hfound => exact .inr (.inl ⟨hforbids, hfound⟩)
  | approved _ hforbids hfound hconsume =>
    obtain ⟨id, hfor⟩ := approvedFor?_of_consume hconsume
    have hc : (e.run past).Consumes ev id :=
      consumes_of_approved (by rw [hev]; rfl) hfor (by rw [hafter])
    have hcall : WellFormed (.object call.args) := hevents ev (by simp) call (by rw [hev]; rfl)
    have hstored := wellFormed_args hempty hfresh.prefix fun ev' hmem =>
      hevents ev' (List.mem_append_left _ hmem)
    obtain ⟨r, hr, -, htool, hargs⟩ := hpast.request_of_approvedFor? hcall hstored hfor
    exact .inr (.inr ⟨hforbids, hfound, id, r, hc, (hpast.once hc).2.1, hr, htool, hargs⟩)
  | protectedPath | blocked | requested => exact absurd hallowed (by simp [Ruling.decision])

/-- A call that was approved runs with its keys in another order. -/
theorem guard_is_mediated_after_approval :
    let call : ToolCall := ⟨"exec", [("a", .null), ("b", .null)]⟩
    let retry : ToolCall := ⟨"exec", [("b", .null), ("a", .null)]⟩
    let e : Engine := ⟨⟨.requireApproval, none, []⟩, .given [], .empty⟩
    let m : Moment := ⟨⟨9⟩, ⟨2⟩, none⟩
    let past : List Event := [.evaluate ⟨⟨0⟩, ⟨1⟩, none⟩ call ⟨""⟩, .resolve ⟨5⟩ ⟨1⟩ .approve]
    let ev : Event := .guard m retry ⟨""⟩ fun _ => true
    ((e.run past).guard m retry ⟨""⟩ fun _ => true).1.executed = true ∧
      ∃ id r, (e.run past).Consumes ev id ∧ Happened Approves e past id ∧
        ¬ Happened Consumes e past id ∧ (e.run past).ledger.get? id = some r ∧ r.tool = retry.tool ∧
        Same (.object r.args) (.object retry.args) := by
  intro call retry e m past ev
  have hargs : ∀ k v, (k, v) ∈ call.args → WellFormed v := by
    simp only [call, List.mem_cons, Prod.mk.injEq, List.not_mem_nil, or_false]
    rintro k v (⟨-, rfl⟩ | ⟨-, rfl⟩) <;> exact .null
  have hcall : WellFormed (.object call.args) := .object (by decide) hargs
  have hretry : WellFormed (.object retry.args) :=
    .object (by decide) fun k v hmem => hargs k v (List.mem_reverse.mp hmem)
  have hkey : retry.fingerprint = call.fingerprint :=
    fingerprint_congr "exec" hretry hcall (same_of_perm hretry (List.Perm.swap _ _ []))
  have hsettings : (e.run past).policy = e.policy ∧ (e.run past).source = .given [] :=
    settings_run (by simp [past]) rfl
  have hask : (e.run past).AsksApproval m retry ⟨""⟩ := by
    refine ⟨?_, ?_, ?_⟩ <;> simp only [found, hsettings.1, hsettings.2] <;> rfl
  have hfirst : e.AsksApproval ⟨⟨0⟩, ⟨1⟩, none⟩ call ⟨""⟩ := ⟨rfl, rfl, rfl⟩
  have hfor : (e.run past).ledger.approvedFor? retry.fingerprint = some ⟨1⟩ := by
    have hledger : (e.run past).ledger =
        ((Ledger.empty.create ⟨1⟩ ⟨0⟩ call noMatchReason).resolve ⟨5⟩ ⟨1⟩ .approve).2 := by
      simp only [past, run_cons, run_nil, after, evaluate, judge_of_approvedFor?_eq_none hfirst rfl]
      rfl
    obtain ⟨hnot, -⟩ | ⟨r, hr, -, heq⟩ :=
      (Ledger.empty.create ⟨1⟩ ⟨0⟩ call noMatchReason).resolve_cases ⟨5⟩ ⟨1⟩ .approve
    · exact absurd rfl hnot
    · cases hr
      rw [hledger, heq, hkey]
      exact Ledger.approvedFor?_settle ..
  have hran : ((e.run past).guard m retry ⟨""⟩ fun _ => true).1.executed = true := by
    rw [guard, evaluate, judge_of_approvedFor? hask hfor]
    rfl
  have hevents : ∀ ev' ∈ past ++ ev :: [], ev'.WellFormed := by
    intro ev' hmem call' hcall'
    simp only [past, ev, List.cons_append, List.nil_append, List.mem_cons, List.not_mem_nil,
      or_false] at hmem
    rcases hmem with rfl | rfl | rfl <;>
      simp only [Event.call?, Option.some.injEq, reduceCtorEq] at hcall'
    · exact hcall' ▸ hcall
    · exact hcall' ▸ hretry
  obtain ⟨hmediated, honce⟩ :=
    guard_is_mediated (rfl : e.ledger = .empty) (freshIds_of_nodup (by decide)) hevents
  refine ⟨hran, ?_⟩
  rcases hmediated m retry ⟨""⟩ (fun _ => true) rfl hran with hexempts | ⟨-, hallow⟩ |
    ⟨-, -, id, r, hc, happroved, hr, htool, hargs⟩
  · simp [hask.exempts] at hexempts
  · simp [hask.found] at hallow
  · exact ⟨id, r, hc, happroved, (honce id hc).2.2.1, hr, htool, hargs⟩

end ToolGate.Engine

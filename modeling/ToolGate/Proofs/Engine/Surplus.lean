/-
How many approvals of one call can be used.

Several requests for one call may be approved, but only one of them speaks for the call at a time.
The one that is approved last takes the call over, and nothing ever gives the call back to another
one.

* `Superseded` — an approved request that does not speak for its call. `superseded_after`: no step
  gives the call back to it, so `never_used_of_superseded`: it is never used up, whatever happens
  later.
* `tries`, `AsksEachTime`, `UsesEachTime` — a call that is tried again and again, is left to a
  person each time, and uses up an approval each time. `UsesEachTime.speaks`, `AsksEachTime.uses`:
  it does just when all approvals speak for it.
* `approvals_used_iff` — a call is allowed as often as it has approvals if and only if they all
  speak for it, which two of them cannot.
-/
import Mathlib
import ToolGate.Proofs.Engine.Mediation
import ToolGate.Proofs.Engine.RoundTrip

namespace ToolGate.Approval.Ledger

open Json (Same WellFormed)

variable {l : Ledger}

/-! ## Approvals that do not speak for their call -/

/-- An approved request that was raised for the `Same` call. -/
def IsApprovalOf (l : Ledger) (call : ToolCall) (id : RequestId) : Prop :=
  ∃ r, l.get? id = some r ∧ r.status = .approved ∧ r.tool = call.tool ∧
    Same (.object r.args) (.object call.args)

/-- An approved request that is not the `approvedFor?` of its key. -/
def Superseded (l : Ledger) (id : RequestId) : Prop :=
  ∃ r, l.get? id = some r ∧ r.status = .approved ∧ l.claims.get? r.key ≠ some id

/-- What `IsApprovalOf` a call has its fingerprint. -/
theorem Coherent.key_of_isApprovalOf (h : l.Coherent) {call : ToolCall}
    {id : RequestId} {r : Request} (hcall : WellFormed (.object call.args))
    (hargs : WellFormed (.object r.args)) (hr : l.get? id = some r) (htool : r.tool = call.tool)
    (hsame : Same (.object r.args) (.object call.args)) : r.key = call.fingerprint := by
  rw [h.key_eq hr, ToolCall.fingerprint, htool]
  exact fingerprint_congr call.tool hargs hcall hsame

/-- No `approvedFor?` is `Superseded`. -/
theorem Coherent.not_superseded (h : l.Coherent) {key : String} {id : RequestId}
    (hfor : l.approvedFor? key = some id) : ¬ l.Superseded id := by
  rintro ⟨r, hr, -, hnot⟩
  have hclaim := (approvedFor?_eq_some.mp hfor).1
  exact hnot (h.key_of_claim hclaim hr ▸ hclaim)

/-- Step lemma: `Superseded` requests stay so, or a sweep takes them. -/
theorem Coherent.superseded_after (h : l.Coherent) {op : Op} (hnew : op.IsFresh l) {id : RequestId}
    (hs : l.Superseded id) : (l.after op).Superseded id ∨ (l.after op).get? id = none := by
  obtain ⟨r, hr, happroved, hnot⟩ := hs
  cases op with
  | create i now call reason =>
    have hi : i ≠ id := by
      rintro rfl
      simp [Op.IsFresh, hr] at hnew
    refine .inl ⟨r, by rw [Ledger.after, get?_create, if_neg hi, hr], happroved, ?_⟩
    rw [Ledger.after, claims_create]
    split
    · simpa using hi
    · exact hnot
  | resolve now i verdict =>
    obtain ⟨-, heq⟩ | ⟨r', hr', hpending, heq⟩ := l.resolve_cases now i verdict
    · exact .inl (by rw [Ledger.after, heq]; exact ⟨r, hr, happroved, hnot⟩)
    · have hi : i ≠ id := by
        rintro rfl
        rw [hr, Option.some.injEq] at hr'
        rw [← hr', happroved] at hpending
        exact absurd hpending (by decide)
      rw [Ledger.after, heq]
      refine .inl ⟨r, by rw [get?_settle, if_neg hi, hr], happroved, ?_⟩
      rw [claims_settle]
      split
      · simpa using hi
      · exact hnot
  | consume call =>
    rw [Ledger.after, consume_eq]
    cases hfor : l.approvedFor? call.fingerprint with
    | none => exact .inl ⟨r, hr, happroved, hnot⟩
    | some i =>
      have hi : i ≠ id := by
        rintro rfl
        exact h.not_superseded hfor ⟨r, hr, happroved, hnot⟩
      refine .inl ⟨r, by rw [get?_remove, if_neg hi, hr], happroved, ?_⟩
      rw [claims_remove h]
      split
      · simp
      · exact hnot
  | sweep policy now =>
    rw [Ledger.after, h.get?_sweep, hr]
    cases hover : policy.isOver now r with
    | true => exact .inr (by simp [Option.filter, hover])
    | false =>
      refine .inl ⟨r, by rw [h.get?_sweep, hr]; simp [Option.filter, hover], happroved, ?_⟩
      rw [h.claims_sweep]
      exact fun hclaim => hnot (Option.filter_eq_some_iff.mp hclaim).1

end ToolGate.Approval.Ledger

namespace ToolGate.Engine

open Approval Json

section

variable {e : Engine} {past : List Event} {ev : Event} {id : RequestId}

/-- No event `Consumes` what is `Superseded`. -/
theorem Traced.not_consumes_of_superseded (h : Traced e past)
    (hs : (e.run past).ledger.Superseded id) : ¬ (e.run past).Consumes ev id := by
  intro hc
  obtain ⟨call, -, hfor⟩ := h.approvedFor?_of_consumes hc
  exact h.coherent.not_superseded hfor hs

/-- What is gone stays gone, unless an event `Mints` it. -/
theorem Traced.get?_after_eq_none (h : Traced e past) (hgone : (e.run past).ledger.get? id = none)
    (hnot : ¬ (e.run past).Mints ev id) : ((e.run past).after ev).ledger.get? id = none := by
  rcases request_cases h.coherent ev id with hsame | ⟨hmints, -⟩ | ⟨now, verdict, r, -, hr, -⟩ |
    ⟨⟨-, -, hget⟩, -⟩ | ⟨-, -, hget⟩
  · rw [hsame, hgone]
  · exact absurd hmints hnot
  · simp [hgone] at hr
  · exact hget
  · exact hget

end

/-- Run lemma: `Superseded` requests stay so while they are there. -/
theorem superseded_run {e : Engine} (hempty : e.ledger = .empty) {past later : List Event}
    {id : RequestId} (hfresh : FreshIds e (past ++ later))
    (hs : (e.run past).ledger.Superseded id) :
    (e.run (past ++ later)).ledger.Superseded id ∨
      (e.run (past ++ later)).ledger.get? id = none := by
  have hminted : Happened Mints e past id := by
    obtain ⟨r, hr, -⟩ := hs
    exact (traced_run hempty hfresh.prefix).minted (by simp [hr])
  induction later using List.reverseRecOn with
  | nil => exact .inl (by rwa [List.append_nil])
  | append_singleton later ev ih =>
    rw [← List.append_assoc] at hfresh ⊢
    have htraced := traced_run hempty hfresh.prefix
    have hnew := htraced.isFresh fun i hmints => hfresh _ ev [] rfl i hmints
    rw [run_snoc]
    rcases ih hfresh.prefix with hsuperseded | hgone
    · rw [ledger_after]
      cases hop : (e.run (past ++ later)).ledgerOp? ev with
      | none => exact .inl hsuperseded
      | some op => exact htraced.coherent.superseded_after (hnew op hop) hsuperseded
    · refine .inr (htraced.get?_after_eq_none hgone fun hmints => ?_)
      obtain ⟨earlier, ev', rest, rfl, hmints'⟩ := hminted
      exact hfresh _ ev [] rfl id hmints ⟨earlier, ev', rest ++ later, by simp, hmints'⟩

/-- No later event `Consumes` a `Superseded` request. -/
theorem never_used_of_superseded {e : Engine} (hempty : e.ledger = .empty) {past later : List Event}
    {id : RequestId} (hfresh : FreshIds e (past ++ later))
    (hs : (e.run past).ledger.Superseded id) :
    ¬ Happened Consumes (e.run past) later id := by
  rintro ⟨earlier, ev, rest, rfl, hc⟩
  rw [← run_append] at hc
  rw [← List.append_assoc] at hfresh
  have hearlier := hfresh.prefix
  rcases superseded_run hempty hearlier hs with hsuperseded | hgone
  · exact (traced_run hempty hearlier).not_consumes_of_superseded hsuperseded hc
  · exact hc.2.1 hgone

/-! ## Trying a call again and again -/

/-- When, and for what, a call is tried. -/
abbrev Occasion := Moment × Intent

/-- One `.evaluate` of the call for each `Occasion`. -/
def tries (call : ToolCall) (occasions : List Occasion) : List Event :=
  occasions.map fun o => .evaluate o.1 call o.2

/-- Each of the `tries` meets an engine that `AsksApproval`. -/
def AsksEachTime (e : Engine) (call : ToolCall) : List Occasion → Prop
  | [] => True
  | o :: later =>
    e.AsksApproval o.1 call o.2 ∧ (e.after (.evaluate o.1 call o.2)).AsksEachTime call later

/-- Each of the `tries` is allowed and `Consumes` one of `ids`. -/
def UsesEachTime (e : Engine) (call : ToolCall) (ids : List RequestId) : List Occasion → Prop
  | [] => True
  | o :: later =>
    (e.evaluate o.1 call o.2).1.decision = .allow ∧
      (∃ id ∈ ids, e.Consumes (.evaluate o.1 call o.2) id) ∧
      (e.after (.evaluate o.1 call o.2)).UsesEachTime call ids later

section

variable {e : Engine} {m : Moment} {call : ToolCall} {intent : Intent} {id : RequestId}

/-- With an `approvedFor?`, a call that `AsksApproval` is allowed and `Consumes` it. -/
theorem AsksApproval.uses (h : e.AsksApproval m call intent)
    (hfor : e.ledger.approvedFor? call.fingerprint = some id) :
    (e.evaluate m call intent).1.decision = .allow ∧ e.Consumes (.evaluate m call intent) id ∧
      (e.after (.evaluate m call intent)).ledger = e.ledger.remove id := by
  have hjudge := judge_of_approvedFor? h hfor
  have hafter : (e.after (.evaluate m call intent)).ledger = e.ledger.remove id := by
    rw [after, evaluate, hjudge]
  have hconsume : (e.ledger.consume call).2 = e.ledger.remove id := by rw [Ledger.consume_eq, hfor]
  refine ⟨by rw [evaluate, hjudge]; rfl, ?_, hafter⟩
  exact consumes_of_approved rfl hfor (hafter.trans hconsume.symm)

/-- A call that `AsksApproval` is allowed only with an `approvedFor?`. -/
theorem AsksApproval.exists_of_allowed (h : e.AsksApproval m call intent)
    (hallowed : (e.evaluate m call intent).1.decision = .allow) :
    ∃ id, e.ledger.approvedFor? call.fingerprint = some id := by
  cases hfor : e.ledger.approvedFor? call.fingerprint with
  | some id => exact ⟨id, rfl⟩
  | none =>
    rw [evaluate, judge_of_approvedFor?_eq_none h hfor] at hallowed
    simp [Ruling.evaluation, Ruling.decision] at hallowed

/-- Two `tries` in a row are never both allowed. -/
theorem not_allowed_twice (hcoherent : e.ledger.Coherent) {ids : List RequestId} {o o' : Occasion}
    {later : List Occasion} (hasks : e.AsksEachTime call (o :: o' :: later)) :
    ¬ e.UsesEachTime call ids (o :: o' :: later) := by
  rintro ⟨hallowed, -, hagain, -⟩
  obtain ⟨hfirst, hsecond, -⟩ := hasks
  obtain ⟨id, hfor⟩ := hfirst.exists_of_allowed hallowed
  obtain ⟨id', hfor'⟩ := hsecond.exists_of_allowed hagain
  rw [(hfirst.uses hfor).2.2, hcoherent.approvedFor?_remove hfor] at hfor'
  cases hfor'

end

section

variable {e : Engine} {call : ToolCall} {occasions : List Occasion} {ids : List RequestId}

/-- If as many `tries` as `ids` use them up, `claims` points at each of them. -/
theorem UsesEachTime.speaks (hcoherent : e.ledger.Coherent)
    (hids : ∀ id, e.ledger.approvedFor? call.fingerprint = some id → id ∈ ids)
    (hasks : e.AsksEachTime call occasions) (hlength : occasions.length = ids.length)
    (huses : e.UsesEachTime call ids occasions) :
    ∀ id ∈ ids, e.ledger.claims.get? call.fingerprint = some id := by
  intro id hid
  match occasions, hlength, huses, hasks with
  | [], hlength, _, _ =>
    rw [List.length_nil, eq_comm, List.length_eq_zero_iff] at hlength
    simp [hlength] at hid
  | o :: o' :: later, _, huses, hasks => exact absurd huses (not_allowed_twice hcoherent hasks)
  | [o], hlength, huses, hasks =>
    -- the one request there is has to be the one that was used up
    obtain ⟨used, hfor⟩ := hasks.1.exists_of_allowed huses.1
    have hused := hids used hfor
    obtain ⟨only, rfl⟩ := List.length_eq_one_iff.mp hlength.symm
    rw [List.mem_singleton] at hid hused
    rw [hid, ← hused]
    exact (Ledger.approvedFor?_eq_some.mp hfor).1

/-- If `claims` points at each of the `ids`, as many `tries` use them up. -/
theorem AsksEachTime.uses (hnodup : ids.Nodup)
    (hstatus : ∀ id ∈ ids, e.ledger.status id = some .approved)
    (hasks : e.AsksEachTime call occasions) (hlength : occasions.length = ids.length)
    (hspeak : ∀ id ∈ ids, e.ledger.claims.get? call.fingerprint = some id) :
    e.UsesEachTime call ids occasions := by
  match ids, hnodup with
  | [], _ =>
    rw [List.length_nil, List.length_eq_zero_iff] at hlength
    rw [hlength]
    trivial
  | [id], _ =>
    obtain ⟨o, rfl⟩ := List.length_eq_one_iff.mp hlength
    have hfor := Ledger.approvedFor?_eq_some.mpr ⟨hspeak id (by simp), hstatus id (by simp)⟩
    obtain ⟨hallowed, hconsumes, -⟩ := hasks.1.uses hfor
    exact ⟨hallowed, ⟨id, by simp, hconsumes⟩, trivial⟩
  | id :: id' :: _, hnodup =>
    -- the call maps to one request only
    have heq := (hspeak id (by simp)).symm.trans (hspeak id' (by simp))
    simp [Option.some.inj heq] at hnodup

end

/-- After any run with `FreshIds`, let `ids` be all that `IsApprovalOf` the call, and let as many
`tries` ask each time. They `UsesEachTime` just if `claims` points at all of `ids`, so that there is
one at most; every other one of them is consumed by no later event. -/
theorem approvals_used_iff {e : Engine} (hempty : e.ledger = .empty) {past : List Event}
    {call : ToolCall} {occasions : List Occasion} {ids : List RequestId}
    (hfresh : FreshIds e (past ++ tries call occasions)) (hevents : ∀ ev ∈ past, ev.WellFormed)
    (hcall : WellFormed (.object call.args)) (hnodup : ids.Nodup)
    (hids : ∀ id, id ∈ ids ↔ (e.run past).ledger.IsApprovalOf call id)
    (hasks : (e.run past).AsksEachTime call occasions) (hlength : occasions.length = ids.length) :
    ((e.run past).UsesEachTime call ids occasions ↔
      ∀ id ∈ ids, (e.run past).ledger.claims.get? call.fingerprint = some id) ∧
    ∀ id ∈ ids, (e.run past).ledger.claims.get? call.fingerprint ≠ some id →
      ∀ later, FreshIds e (past ++ later) → ¬ Happened Consumes (e.run past) later id := by
  have htraced : Traced e past := traced_run hempty hfresh.prefix
  have hstored := wellFormed_args hempty hfresh.prefix hevents
  refine ⟨⟨?_, ?_⟩, fun id hid hnot later hlater => ?_⟩
  · refine UsesEachTime.speaks htraced.coherent (fun id hfor => ?_) hasks hlength
    obtain ⟨r, hr, hstatus, htool, hsame⟩ := htraced.request_of_approvedFor? hcall hstored hfor
    exact (hids id).mpr ⟨r, hr, hstatus, htool, hsame⟩
  · refine AsksEachTime.uses hnodup (fun id hid => ?_) hasks hlength
    obtain ⟨r, hr, hstatus, -⟩ := (hids id).mp hid
    exact Ledger.status_eq_some.mpr ⟨r, hr, hstatus⟩
  · obtain ⟨r, hr, hstatus, htool, hsame⟩ := (hids id).mp hid
    have hkey := htraced.coherent.key_of_isApprovalOf hcall (hstored id r hr) hr htool hsame
    exact never_used_of_superseded hempty hlater ⟨r, hr, hstatus, hkey ▸ hnot⟩

/-- Two requests for one call, the older one approved: the next try uses it up. -/
theorem approvals_used_iff_of_one :
    let call : ToolCall := ⟨"exec", []⟩
    let e : Engine := ⟨⟨.requireApproval, none, []⟩, .given [], .empty⟩
    let past : List Event := [.evaluate ⟨⟨0⟩, ⟨1⟩, none⟩ call ⟨""⟩,
      .evaluate ⟨⟨1⟩, ⟨2⟩, none⟩ call ⟨""⟩,
      .message ⟨2⟩ "approve 00000000-0000-0000-0000-000000000001"]
    (e.run past).UsesEachTime call [⟨1⟩] [(⟨⟨3⟩, ⟨3⟩, none⟩, ⟨""⟩)] := by
  intro call e past
  have hcall : WellFormed (.object call.args) := .object (by decide) (by simp [call])
  have htext : Command.parse? "approve 00000000-0000-0000-0000-000000000001" =
      some ⟨⟨1⟩, .approve⟩ := by
    decide +kernel
  have hledger : (e.run past).ledger =
      ((Ledger.empty.create ⟨1⟩ ⟨0⟩ call noMatchReason).create ⟨2⟩ ⟨1⟩ call noMatchReason).settle
        ⟨2⟩ ⟨1⟩ (.raised ⟨1⟩ ⟨0⟩ call noMatchReason) .approve := by
    simp only [past, run_cons, run_nil, after, onMessage, htext]
    rfl
  have hsettings : (e.run past).policy = e.policy ∧ (e.run past).source = .given [] :=
    settings_run (by simp [past]) rfl
  have hasks : (e.run past).AsksApproval ⟨⟨3⟩, ⟨3⟩, none⟩ call ⟨""⟩ := by
    refine ⟨?_, ?_, ?_⟩ <;> simp only [found, hsettings.1, hsettings.2] <;> rfl
  have hids : ∀ id, id ∈ [(⟨1⟩ : RequestId)] ↔ (e.run past).ledger.IsApprovalOf call id := by
    intro id
    rw [List.mem_singleton, hledger]
    constructor
    · rintro rfl
      exact ⟨_, by rw [Ledger.get?_settle, if_pos rfl], rfl, rfl, Same.refl hcall⟩
    · rintro ⟨r, hr, happroved, -⟩
      rw [Ledger.get?_settle, Ledger.get?_create, Ledger.get?_create, Ledger.get?_empty] at hr
      split_ifs at hr with h₁ h₂
      · exact h₁.symm
      · cases hr
        cases happroved
  have hasksEach : (e.run past).AsksEachTime call [(⟨⟨3⟩, ⟨3⟩, none⟩, ⟨""⟩)] := ⟨hasks, trivial⟩
  refine (approvals_used_iff (rfl : e.ledger = .empty) (freshIds_of_nodup (by decide)) ?_ hcall
    (by simp) hids hasksEach rfl).1.mpr ?_
  · simp [past, Event.WellFormed, Event.call?, hcall]
  · simp only [List.mem_singleton, forall_eq]
    rw [hledger, Ledger.claims_settle]
    simp [Request.raised]

/-- Both requests for a call are approved. Of the next two tries, both left to a person, only the
first is allowed; the older request stays `.approved`. -/
theorem second_approval_unused :
    let call : ToolCall := ⟨"exec", []⟩
    let e : Engine := ⟨⟨.requireApproval, none, []⟩, .given [], .empty⟩
    let past : List Event := [.evaluate ⟨⟨0⟩, ⟨1⟩, none⟩ call ⟨""⟩,
      .evaluate ⟨⟨1⟩, ⟨2⟩, none⟩ call ⟨""⟩,
      .message ⟨2⟩ "approve 00000000-0000-0000-0000-000000000001",
      .message ⟨3⟩ "approve 00000000-0000-0000-0000-000000000002"]
    let first : Event := .evaluate ⟨⟨4⟩, ⟨3⟩, none⟩ call ⟨""⟩
    (e.run past).ledger.IsApprovalOf call ⟨1⟩ ∧ (e.run past).ledger.IsApprovalOf call ⟨2⟩ ∧
      (e.run past).AsksEachTime call [(⟨⟨4⟩, ⟨3⟩, none⟩, ⟨""⟩), (⟨⟨5⟩, ⟨4⟩, none⟩, ⟨""⟩)] ∧
      ((e.run past).evaluate ⟨⟨4⟩, ⟨3⟩, none⟩ call ⟨""⟩).1.decision = .allow ∧
      ((e.run (past ++ [first])).evaluate ⟨⟨5⟩, ⟨4⟩, none⟩ call ⟨""⟩).1.decision =
        .requiresApproval ∧
      ((e.run (past ++ [first])).after (.evaluate ⟨⟨5⟩, ⟨4⟩, none⟩ call ⟨""⟩)).ledger.status ⟨1⟩ =
        some .approved := by
  intro call e past first
  have hcall : WellFormed (.object call.args) := .object (by decide) (by simp [call])
  have htext :
      Command.parse? "approve 00000000-0000-0000-0000-000000000001" = some ⟨⟨1⟩, .approve⟩ ∧
      Command.parse? "approve 00000000-0000-0000-0000-000000000002" = some ⟨⟨2⟩, .approve⟩ := by
    decide +kernel
  have hledger : (e.run past).ledger =
      (((Ledger.empty.create ⟨1⟩ ⟨0⟩ call noMatchReason).create ⟨2⟩ ⟨1⟩ call noMatchReason).settle
        ⟨2⟩ ⟨1⟩ (.raised ⟨1⟩ ⟨0⟩ call noMatchReason) .approve).settle
          ⟨3⟩ ⟨2⟩ (.raised ⟨2⟩ ⟨1⟩ call noMatchReason) .approve := by
    simp only [past, run_cons, run_nil, after, onMessage, htext]
    rfl
  have hasks : ∀ (m : Moment) (events : List Event),
      (∀ ev ∈ events, ∀ policy, ev ≠ .configure policy) →
        (e.run events).AsksApproval m call ⟨""⟩ := by
    intro m events hevents
    obtain ⟨hpolicy, hsource⟩ :
        (e.run events).policy = e.policy ∧ (e.run events).source = .given [] :=
      settings_run hevents rfl
    refine ⟨?_, ?_, ?_⟩ <;> simp only [found, hpolicy, hsource] <;> rfl
  refine ⟨?_, ?_, ⟨hasks _ past (by simp [past]), ?_, trivial⟩, ?_⟩
  · rw [hledger]
    exact ⟨_, by rw [Ledger.get?_settle, if_neg (by decide), Ledger.get?_settle, if_pos rfl],
      rfl, rfl, Same.refl hcall⟩
  · rw [hledger]
    exact ⟨_, by rw [Ledger.get?_settle, if_pos rfl], rfl, rfl, Same.refl hcall⟩
  · rw [← run_snoc]
    exact hasks _ _ (by simp [past])
  · decide +kernel

end ToolGate.Engine

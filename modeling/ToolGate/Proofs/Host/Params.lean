/-
Approvals are bound to the parameters that the host sent.

* `Sends` — the parameters in a line, as they are written. `existsUnique_sends`: a line that tells
  of a call has them in one way.
* `kept_of_sends` — the arguments of the call are what is kept of them.
* `fingerprint_eq_of_consumes` — a request is used up by a call of the fingerprint that it was
  raised for.
* `ToldApart` — how the calls of two lines are told apart by their parameters.
* `approvals_are_bound_to_params` — the result. Parameters that differ only in digits that are not
  kept are not told apart: `rounded_params_share_approval`.
-/
import Mathlib
import ToolGate.Proofs.Approval.Fingerprint
import ToolGate.Proofs.Engine.Lifecycle
import ToolGate.Proofs.Engine.Mediation
import ToolGate.Proofs.Host.Answers
import ToolGate.Proofs.Host.Event
import ToolGate.Proofs.Json.Record

namespace ToolGate.Host

open Json

/-! ## The parameters in a line -/

/-- The `params` of a call as they are written, or an empty object if they are left out. -/
def paramsIn (x : Exact) : Exact := (x.under? "params" 1).getD (.object [])

/-- The line holds a record with these `paramsIn` it. -/
def Sends (line : String) (params : Exact) : Prop :=
  ∃ x rest, Written .value line.toList x rest ∧ skipBlanks rest = [] ∧ params = paramsIn x

theorem Sends.unique {line : String} {P P' : Exact} (h : Sends line P)
    (h' : Sends line P') : P = P' := by
  obtain ⟨x, rest, hx, -, rfl⟩ := h
  obtain ⟨x', rest', hx', -, rfl⟩ := h'
  obtain ⟨rfl, -⟩ := hx.unique hx'
  rfl

theorem skipBlanks_of_finish {cs : List Char} (h : finish cs = .ok ()) : skipBlanks cs = [] := by
  unfold finish at h
  split at h
  · assumption
  · cases h

/-- What `convertContents` makes of a call has its arguments under `params`, or at place 1. -/
theorem object_args_of_convertContents {contents : Contents} {form : String} {s : ToolCall × Intent}
    (h : convertContents form ((⟨"", []⟩, ⟨""⟩) : ToolCall × Intent) [
      .required "toolName" .text fun tool (call, intent) => ({ call with tool }, intent),
      .optional "params" .anyObject fun args (call, intent) => ({ call with args }, intent),
      .optional "intent" .text fun text (call, _) => (call, ⟨text⟩)] contents = .ok s) :
    Json.object s.1.args = (contents.under? "params" 1).getD (.object []) := by
  refine view_of_convertContents (fun s : ToolCall × Intent => .object s.1.args)
    _ [_] [_] ?_ ?_ ?_ h
  · simp only [List.mem_singleton, forall_eq]
    exact ⟨by decide, hides_of_set fun tool s => rfl⟩
  · refine shows_of_set fun j args s hargs => ?_
    cases j <;> cases hargs
    rfl
  · simp only [List.mem_singleton, forall_eq]
    exact ⟨by decide, hides_of_set fun text s => rfl⟩

/-- The arguments of a call that is read are the `kept` part of what its line `Sends`. -/
theorem exists_sends {line : String} {call : ToolCall} {intent : Intent}
    (h : Event.read line = .ok (.beforeCall call intent)) :
    ∃ P, Sends line P ∧ P.kept = .object call.args := by
  simp only [Event.read, decodeTagged] at h
  split at h
  · cases h
  rename_i v contents rest hread
  obtain ⟨hv, -⟩ := wellFormed_of_readTagged hread
  obtain ⟨x, hx, hunder⟩ := exists_written_of_readTagged hread
  split at h
  · cases h
  rename_i ev hconvert
  split at h
  · cases h
  rename_i hfinish
  cases h
  refine ⟨paramsIn x, ⟨x, rest, hx, skipBlanks_of_finish hfinish, rfl⟩, ?_⟩
  simp only [List.map_cons, List.map_nil, List.mem_cons, List.not_mem_nil, or_false] at hv
  rcases hv with rfl | rfl
  · obtain ⟨s, hs, heq⟩ := exists_of_map_eq_ok hconvert
    cases heq
    rw [object_args_of_convertContents hs, paramsIn, hunder _ _ (by decide)]
    cases x.under? "params" 1 with
    | none => rfl
    | some P => rfl
  · obtain ⟨s, -, heq⟩ := exists_of_map_eq_ok hconvert
    cases heq

/-- A line of a call `Sends` exactly one `Exact` value. -/
theorem existsUnique_sends {line : String} {call : ToolCall} {intent : Intent}
    (h : Event.read line = .ok (.beforeCall call intent)) : ∃! P, Sends line P := by
  obtain ⟨P, hP, -⟩ := exists_sends h
  exact ⟨P, hP, fun P' hP' => hP'.unique hP⟩

theorem kept_of_sends {line : String} {call : ToolCall} {intent : Intent} {P : Exact}
    (h : Event.read line = .ok (.beforeCall call intent)) (hP : Sends line P) :
    P.kept = .object call.args := by
  obtain ⟨P', hP', hkept⟩ := exists_sends h
  rw [hP.unique hP', hkept]

/-- Reading a line is determined by what it `Sends`, its tool and its goal. -/
theorem read_of_sends {line tool goal : String} {P : Exact} {args : Fields} (hP : Sends line P)
    (hargs : P.kept = .object args)
    (h : (Event.read line).toOption.any (fun ev => match ev with
      | .beforeCall call intent => call.tool = tool ∧ intent.text = goal
      | .message _ => False) = true) :
    Event.read line = .ok (.beforeCall ⟨tool, args⟩ ⟨goal⟩) := by
  cases hread : Event.read line with
  | error err => simp [hread, Except.toOption] at h
  | ok ev =>
    cases ev with
    | message text => simp [hread, Except.toOption] at h
    | beforeCall call intent =>
      obtain ⟨tool', args'⟩ := call
      obtain ⟨goal'⟩ := intent
      obtain ⟨rfl, rfl⟩ : tool' = tool ∧ goal' = goal := by simpa [hread, Except.toOption] using h
      have hkept := kept_of_sends hread hP
      rw [hargs] at hkept
      cases hkept
      rfl

/-- On a line of a call, `respond` takes the step of `.evaluate`. -/
theorem respond_of_beforeCall {line : String} {call : ToolCall} {intent : Intent}
    (h : Event.read line = .ok (.beforeCall call intent)) (e : Engine) (m : Moment) :
    (respond e m line).2.2 = e.after (.evaluate m call intent) := by
  rw [respond_of_event h]
  rfl

end ToolGate.Host

namespace ToolGate.Engine

open Approval

/-! ## Who uses a request up -/

/-- An event that `Consumes` a request has a call with the fingerprint that an event `Mints` it
for. -/
theorem fingerprint_eq_of_consumes {e : Engine} (hempty : e.ledger = .empty)
    {past between : List Event} {ev ev' : Event} {call call' : ToolCall} {id : RequestId}
    (hcall : ev.call? = some call) (hcall' : ev'.call? = some call')
    (hfresh : FreshIds e (past ++ ev :: between)) (hmints : (e.run past).Mints ev id)
    (hconsumes : (e.run (past ++ ev :: between)).Consumes ev' id) :
    call.fingerprint = call'.fingerprint := by
  have htraced : Traced e (past ++ ev :: between) := traced_run hempty hfresh
  obtain ⟨c', hc', hfor⟩ := htraced.approvedFor?_of_consumes hconsumes
  obtain rfl : c' = call' := Option.some.inj (hc'.symm.trans hcall')
  obtain ⟨hclaim, hstatus⟩ := Ledger.approvedFor?_eq_some.mp hfor
  obtain ⟨r, hr, -⟩ := Ledger.status_eq_some.mp hstatus
  -- the request is still the one that was raised
  obtain ⟨now, c, reason, hop⟩ := mints_iff.mp hmints
  obtain rfl : c = call := Option.some.inj ((call?_eq_opCall? hop).symm.trans hcall)
  have hraised : (e.run (past ++ [ev])).ledger.get? id = some (.raised id now c reason) := by
    rw [run_snoc, ledger_after, hop]
    exact (Ledger.get?_create ..).trans (if_pos rfl)
  have hevents : past ++ ev :: between = past ++ [ev] ++ between := by simp
  rw [hevents] at hr
  have hsame :=
    ((oneWay_run hempty hfresh).kept (past ++ [ev]) between [] id _ r (by simp) hraised hr).1
  have hkey : r.key = c.fingerprint := hsame.key
  rw [← hkey]
  rw [← hevents] at hr
  exact htraced.coherent.key_of_claim hclaim hr

theorem consumes_of_status {e : Engine} {ev : Event} {id : RequestId} {s : Status}
    (hsweep : ev.isSweep = false) (hbefore : e.ledger.status id = some s)
    (hafter : (e.after ev).ledger.status id = none) : e.Consumes ev id := by
  obtain ⟨r, hr, -⟩ := Ledger.status_eq_some.mp hbefore
  exact ⟨hsweep, by simp [hr], Option.map_eq_none_iff.mp hafter⟩

end ToolGate.Engine

namespace ToolGate.Host

open Json

/-! ## The result -/

/-- How far the `params` of two lines tell their calls apart. -/
structure ToldApart (call call' : ToolCall) (intent intent' : Intent) (P P' : Exact) : Prop where
  /-- Equal fingerprints mean equal tools and parameters that are the `SameBy Numeral.Alike`. -/
  fingerprint_iff : call.fingerprint = call'.fingerprint ↔
    call.tool = call'.tool ∧ P.SameBy Numeral.Alike P'
  /-- Where every numeral `IsExact`, those are the `SameBy Numeral.Equal`. -/
  equal_of_exact : P.Each Numeral.IsExact → P'.Each Numeral.IsExact → P.SameBy Numeral.Alike P' →
    P.SameBy Numeral.Equal P'
  /-- Where every numeral `Fits`, the two relations are one. -/
  alike_iff_equal : P.Each Numeral.Fits → P'.Each Numeral.Fits →
    (P.SameBy Numeral.Alike P' ↔ P.SameBy Numeral.Equal P')
  /-- Otherwise no later event for the second call `Consumes` a request of the first, whatever comes
  between. -/
  not_consumed : ¬ P.SameBy Numeral.Alike P' → ∀ (e : Engine) (past between : List Engine.Event)
    (m m' : Moment) (id : RequestId), e.ledger = .empty →
    Engine.FreshIds e (past ++ .evaluate m call intent :: between) →
    (e.run past).Mints (.evaluate m call intent) id →
      ¬ (e.run (past ++ .evaluate m call intent :: between)).Consumes
        (.evaluate m' call' intent') id

/-- Two lines of calls, as sent. Each `Sends` one value, and `respond` is `.evaluate` of its call.
Where no key is repeated, the lines are `ToldApart` up to what is kept of numerals, and approvals
with them. -/
theorem approvals_are_bound_to_params {line line' : String} {call call' : ToolCall}
    {intent intent' : Intent} (h : Event.read line = .ok (.beforeCall call intent))
    (h' : Event.read line' = .ok (.beforeCall call' intent')) :
    (∃! P, Sends line P) ∧ (∃! P', Sends line' P') ∧
      (∀ e m, (respond e m line).2.2 = e.after (.evaluate m call intent)) ∧
      (∀ e m, (respond e m line').2.2 = e.after (.evaluate m call' intent')) ∧
      ∀ P P', Sends line P → Sends line' P' → P.DistinctKeys → P'.DistinctKeys →
        ToldApart call call' intent intent' P P' := by
  refine ⟨existsUnique_sends h, existsUnique_sends h', respond_of_beforeCall h,
    respond_of_beforeCall h', ?_⟩
  intro P P' hP hP' hkeys hkeys'
  have hiff : call.fingerprint = call'.fingerprint ↔
      call.tool = call'.tool ∧ P.SameBy Numeral.Alike P' := by
    rw [ToolCall.fingerprint, ToolCall.fingerprint, Approval.fingerprint_eq_iff
      (Event.wellFormed_of_read h) (Event.wellFormed_of_read h'), ← kept_of_sends h hP,
      ← kept_of_sends h' hP', Exact.same_kept_iff hkeys hkeys']
  refine ⟨hiff, ?_, ?_, ?_⟩
  · intro hexact hexact' hsame
    exact hsame.imp hexact hexact' fun h hx hy => h.equal hx hy
  · intro hfits hfits'
    constructor
    · intro hsame
      exact hsame.imp hfits hfits' fun h hx hy => (Numeral.alike_iff_equal_of_fits hx hy).mp h
    · intro hsame
      exact hsame.imp hfits hfits' fun h hx hy => (Numeral.alike_iff_equal_of_fits hx hy).mpr h
  · intro hdiffer e past between m m' id hempty hfresh hmints hconsumes
    have hsame := Engine.fingerprint_eq_of_consumes hempty rfl rfl hfresh hmints hconsumes
    exact hdiffer (hiff.mp hsame).2

/-! ### Payments -/

/-- A line of a call to pay an amount. -/
def payment (amount : String) : String :=
  "\x7b\"event\":\"before_tool_call\",\"toolName\":\"pay\",\"params\":\x7b\"amount\":" ++ amount ++
    "\x7d\x7d"

theorem sends_payment (amount : String) (h : ∀ c ∈ amount.toList, c.isDigit = true)
    (hne : amount.toList ≠ []) :
    Sends (payment amount) (.object [("amount", .number (.ofDigits amount.toList))]) := by
  refine ⟨.object [("event", .text "before_tool_call"), ("toolName", .text "pay"),
    ("params", .object [("amount", .number (.ofDigits amount.toList))])], [], ?_, rfl, rfl⟩
  obtain ⟨d, ds, hds⟩ := List.exists_cons_of_ne_nil hne
  unfold payment
  simp only [String.toList_append, String.reduceToList, List.append_assoc, hds] at h ⊢
  have hamount := written_ofDigits h ['\x7d']
  exact .object rfl (.entry rfl rfl (.scalar rfl) (.entry rfl rfl (.scalar rfl) (.entry rfl rfl
    (.object rfl (.entry rfl rfl hamount (.noEntry rfl))) (.noEntry rfl))))

/-- The largest integer that `Fits`, and the next one: an approval to pay the one is not consumed by
paying the other. -/
theorem approvals_are_bound_to_params_at_limit :
    let line := payment "18446744073709551615"
    let line' := payment "18446744073709551616"
    let call : ToolCall := ⟨"pay", [("amount", .number (.integer 18446744073709551615))]⟩
    let call' : ToolCall := ⟨"pay", [("amount", .number (.real ⟨false, ⟨4503599627370496, 12⟩⟩))]⟩
    let e : Engine := ⟨⟨.requireApproval, none, []⟩, .given [], .empty⟩
    let asked : List Engine.Event := [.evaluate ⟨⟨0⟩, ⟨1⟩, none⟩ call ⟨""⟩,
      .message ⟨1⟩ "approve 00000000-0000-0000-0000-000000000001"]
    Event.read line = .ok (.beforeCall call ⟨""⟩) ∧
      Event.read line' = .ok (.beforeCall call' ⟨""⟩) ∧
      call.fingerprint ≠ call'.fingerprint ∧ (e.run asked).ledger.status ⟨1⟩ = some .approved ∧
      ¬ (e.run asked).Consumes (.evaluate ⟨⟨2⟩, ⟨2⟩, none⟩ call' ⟨""⟩) ⟨1⟩ := by
  intro line line' call call' e asked
  have hsends : Sends line _ := sends_payment "18446744073709551615" (by simp) (by simp)
  have hsends' : Sends line' _ := sends_payment "18446744073709551616" (by simp) (by simp)
  have hread : Event.read line = .ok (.beforeCall call ⟨""⟩) :=
    read_of_sends hsends (Exact.kept_single (by decide +kernel)) (by decide +kernel)
  have hread' : Event.read line' = .ok (.beforeCall call' ⟨""⟩) :=
    read_of_sends hsends' (Exact.kept_single (by decide +kernel)) (by decide +kernel)
  obtain ⟨-, -, -, -, happart⟩ := approvals_are_bound_to_params hread hread'
  have htold :=
    happart _ _ hsends hsends' (Exact.distinctKeys_single ..) (Exact.distinctKeys_single ..)
  have hunlike : ¬ Numeral.Alike (.ofDigits "18446744073709551615".toList)
      (.ofDigits "18446744073709551616".toList) := by decide +kernel
  have hdiffer := mt (Exact.sameBy_single_iff (k := "amount")).mp hunlike
  have hmints : e.mints? (.evaluate ⟨⟨0⟩, ⟨1⟩, none⟩ call ⟨""⟩) = some ⟨1⟩ := by decide +kernel
  refine ⟨hread, hread', fun heq => hdiffer (htold.fingerprint_iff.mp heq).2, by decide +kernel, ?_⟩
  exact htold.not_consumed hdiffer e [] _ _ _ ⟨1⟩ rfl (Engine.freshIds_of_nodup (by decide)) hmints

/-- Two amounts past 64 bits that are not `Equal` but `Alike`: an approval to pay the one is
consumed by paying the other. -/
theorem rounded_params_share_approval :
    let line := payment "18446744073709551616"
    let line' := payment "18446744073709551617"
    let P : Exact := .object [("amount", .number (.ofDigits "18446744073709551616".toList))]
    let P' : Exact := .object [("amount", .number (.ofDigits "18446744073709551617".toList))]
    let call : ToolCall := ⟨"pay", [("amount", .number (.real ⟨false, ⟨4503599627370496, 12⟩⟩))]⟩
    let e : Engine := ⟨⟨.requireApproval, none, []⟩, .given [], .empty⟩
    let asked : List Engine.Event := [.evaluate ⟨⟨0⟩, ⟨1⟩, none⟩ call ⟨""⟩,
      .message ⟨1⟩ "approve 00000000-0000-0000-0000-000000000001"]
    Event.read line = .ok (.beforeCall call ⟨""⟩) ∧ Event.read line' = .ok (.beforeCall call ⟨""⟩) ∧
      Sends line P ∧ Sends line' P' ∧ P.DistinctKeys ∧ P'.DistinctKeys ∧
      ¬ P.SameBy Numeral.Equal P' ∧
      e.Mints (.evaluate ⟨⟨0⟩, ⟨1⟩, none⟩ call ⟨""⟩) ⟨1⟩ ∧
      (e.run asked).Consumes (.evaluate ⟨⟨2⟩, ⟨2⟩, none⟩ call ⟨""⟩) ⟨1⟩ := by
  intro line line' P P' call e asked
  have hsends : Sends line P := sends_payment "18446744073709551616" (by simp) (by simp)
  have hsends' : Sends line' P' := sends_payment "18446744073709551617" (by simp) (by simp)
  have hread : Event.read line = .ok (.beforeCall call ⟨""⟩) :=
    read_of_sends hsends (Exact.kept_single (by decide +kernel)) (by decide +kernel)
  have hread' : Event.read line' = .ok (.beforeCall call ⟨""⟩) :=
    read_of_sends hsends' (Exact.kept_single (by decide +kernel)) (by decide +kernel)
  have hdigits : Decimal.digitsValue "18446744073709551616".toList ≠
      Decimal.digitsValue "18446744073709551617".toList := by decide +kernel
  have hmints : e.mints? (.evaluate ⟨⟨0⟩, ⟨1⟩, none⟩ call ⟨""⟩) = some ⟨1⟩ := by decide +kernel
  have happroved : (e.run asked).ledger.status ⟨1⟩ = some .approved := by decide +kernel
  refine ⟨hread, hread', hsends, hsends', Exact.distinctKeys_single ..,
    Exact.distinctKeys_single .., ?_, hmints,
    Engine.consumes_of_status rfl happroved (by decide +kernel)⟩
  rw [Exact.sameBy_single_iff, Numeral.Equal, Numeral.value_ofDigits, Numeral.value_ofDigits]
  exact_mod_cast hdigits

end ToolGate.Host

/-
The life of a request runs one way.

A request is raised under an id that was unknown. It waits, gets one verdict at most, and goes: it
is used up, or swept, and its id is unknown from then on. Until it goes, nothing in it changes but
what the verdict writes. And what fails changes nothing at all.

* `Onward` — from where a request stands to where it may come to stand.
* `Proceeds` — what may become of a request as a whole; `Proceeds.trans`, so that it is enough to
  look at one event at a time.
* `Traced.proceeds_after`, `proceeds_run` — that is what becomes of the requests of a run.
* `OneWay`, `AnswersTell` — the life of the requests of a run, and what the answers of an engine
  tell.
* `requests_live_one_way` — both hold of every run with fresh ids.
-/
import Mathlib
import ToolGate.Proofs.Engine.Expiry
import ToolGate.Proofs.Engine.History

namespace ToolGate.Approval

/-! ## What may become of a request -/

/-- Ways of a status: unchanged, from pending to a verdict, or gone. From `none` there is no way
back. -/
inductive Onward : Option Status → Option Status → Prop where
  | stays (s : Option Status) : Onward s s
  | settles (verdict : Verdict) : Onward (some .pending) (some (.ofVerdict verdict))
  | goes (s : Option Status) : Onward s none

/-- The same of the whole record: unchanged, `Request.settled` if it is pending, or gone. -/
inductive Proceeds : Option Request → Option Request → Prop where
  | stays (found : Option Request) : Proceeds found found
  | settles {r : Request} (h : r.status = .pending) (now : Timestamp) (verdict : Verdict) :
      Proceeds (some r) (some (r.settled now verdict))
  | goes (found : Option Request) : Proceeds found none

theorem Proceeds.trans {found later last : Option Request} (h : Proceeds found later)
    (h' : Proceeds later last) : Proceeds found last := by
  cases h' with
  | stays => exact h
  | goes => exact .goes found
  | settles hpending now verdict =>
    -- nothing waits for a second verdict
    cases h with
    | stays => exact .settles hpending now verdict
    | settles => exact absurd hpending (Status.ofVerdict_ne_pending _)

theorem Proceeds.onward {found later : Option Request} (h : Proceeds found later) :
    Onward (found.map (·.status)) (later.map (·.status)) := by
  cases h with
  | stays => exact .stays _
  | settles hpending now verdict =>
    rw [Option.map_some, Option.map_some, hpending]
    exact .settles verdict
  | goes => exact .goes _

/-- Where both records are there, `Proceeds` is equality or `Request.settled`. -/
theorem Proceeds.eq_or_settled {r r' : Request} (h : Proceeds (some r) (some r')) :
    r' = r ∨ r.status = .pending ∧ ∃ now verdict, r' = r.settled now verdict := by
  cases h with
  | stays => exact .inl rfl
  | settles hpending now verdict => exact .inr ⟨hpending, now, verdict, rfl⟩

/-- Two records agree in everything that `Request.raised` writes. -/
structure Request.SameRequest (r r' : Request) : Prop where
  id : r'.id = r.id
  tool : r'.tool = r.tool
  args : r'.args = r.args
  reason : r'.reason = r.reason
  createdAt : r'.createdAt = r.createdAt
  key : r'.key = r.key

theorem Request.SameRequest.refl (r : Request) : r.SameRequest r := ⟨rfl, rfl, rfl, rfl, rfl, rfl⟩

theorem Request.sameRequest_settled (r : Request) (now : Timestamp) (verdict : Verdict) :
    r.SameRequest (r.settled now verdict) := ⟨rfl, rfl, rfl, rfl, rfl, rfl⟩

theorem Proceeds.sameRequest {r r' : Request} (h : Proceeds (some r) (some r')) :
    r.SameRequest r' := by
  rcases h.eq_or_settled with rfl | ⟨-, now, verdict, rfl⟩
  · exact .refl _
  · exact r.sameRequest_settled now verdict

/-! ## What fails changes nothing -/

namespace Ledger

variable {l : Ledger}

theorem resolve_of_false {now : Timestamp} {id : RequestId} {verdict : Verdict}
    (h : (l.resolve now id verdict).1 = false) : (l.resolve now id verdict).2 = l := by
  obtain ⟨-, heq⟩ | ⟨r, -, -, heq⟩ := l.resolve_cases now id verdict
  · rw [heq]
  · simp [heq] at h

theorem sweep_of_zero {policy : ExpiryPolicy} {now : Timestamp} (h : (l.sweep policy now).1 = 0) :
    (l.sweep policy now).2 = l := by
  have hnone : l.expired policy now = [] := List.length_eq_zero_iff.mp h
  simp [sweep, hnone]

end Ledger

end ToolGate.Approval

namespace ToolGate.Engine

open Approval

/-! ## One event -/

/-- The time of an event that may settle a request. -/
def Event.verdictTime? : Event → Option Timestamp
  | .message now _ => some now
  | .resolve now _ _ => some now
  | _ => none

/-- A `resolve` step is taken at its event's `verdictTime?`. -/
theorem verdictTime?_eq_some {e : Engine} {ev : Event} {now : Timestamp} {id : RequestId}
    {verdict : Verdict} (h : e.ledgerOp? ev = some (.resolve now id verdict)) :
    ev.verdictTime? = some now := by
  cases ev with
  | message t text =>
    obtain ⟨c, -, hc⟩ := Option.map_eq_some_iff.mp h
    cases hc
    rfl
  | resolve t i v =>
    cases h
    rfl
  | _ => simp [ledgerOp?, rulingOp?_eq_some] at h

/-- An event that `Settles` a request writes its own `verdictTime?`. -/
theorem get?_after_of_settles {e : Engine} {ev : Event} {id : RequestId} {verdict : Verdict}
    {r : Request} (h : e.Settles verdict ev id) (hr : e.ledger.get? id = some r) :
    r.status = .pending ∧ ∃ now, ev.verdictTime? = some now ∧
      (e.after ev).ledger.get? id = some (r.settled now verdict) := by
  obtain ⟨⟨now, hop⟩, hpending⟩ := settles_iff.mp h
  have hafter : (e.after ev).ledger = (e.ledger.resolve now id verdict).2 := by
    rw [ledger_after, hop]
    rfl
  obtain ⟨hnot, -⟩ | ⟨r', hr', hpending', heq⟩ := e.ledger.resolve_cases now id verdict
  · exact absurd hpending hnot
  · obtain rfl : r = r' := Option.some.inj (hr.symm.trans hr')
    refine ⟨hpending', now, verdictTime?_eq_some hop, ?_⟩
    rw [hafter, heq, Ledger.get?_settle, if_pos rfl]

section

variable {e : Engine} {past : List Event} {ev : Event} {id : RequestId}

/-- Step lemma: in a `Traced` run, a minted request `Proceeds`. -/
theorem Traced.proceeds_after (h : Traced e past)
    (hfresh : ∀ id, (e.run past).Mints ev id → ¬ Happened Mints e past id)
    (hminted : Happened Mints e past id) :
    Proceeds ((e.run past).ledger.get? id) (((e.run past).after ev).ledger.get? id) := by
  rcases request_cases h.coherent ev id with hsame | ⟨hmints, -⟩ |
    ⟨now, verdict, r, hsettles, hr, hget⟩ | ⟨⟨-, -, hget⟩, -⟩ | ⟨-, -, hget⟩
  · rw [hsame]
    exact .stays _
  · exact absurd hminted (hfresh id hmints)
  · rw [hr, hget]
    exact .settles (get?_after_of_settles hsettles hr).1 now verdict
  · rw [hget]
    exact .goes _
  · rw [hget]
    exact .goes _

/-- An event that leaves a record there leaves it unchanged or `Settles` it. -/
theorem Traced.eq_or_settles (h : Traced e past)
    (hfresh : ∀ id, (e.run past).Mints ev id → ¬ Happened Mints e past id) {r r' : Request}
    (hr : (e.run past).ledger.get? id = some r)
    (hr' : ((e.run past).after ev).ledger.get? id = some r') :
    r' = r ∨ r.status = .pending ∧ ∃ now verdict, ev.verdictTime? = some now ∧
      (e.run past).Settles verdict ev id ∧ r' = r.settled now verdict := by
  rcases request_cases h.coherent ev id with hsame | ⟨hmints, -⟩ |
    ⟨-, verdict, r₀, hsettles, -, -⟩ | ⟨⟨-, -, hget⟩, -⟩ | ⟨-, -, hget⟩
  · rw [hsame, hr, Option.some.injEq] at hr'
    exact .inl hr'.symm
  · exact absurd (h.minted (by simp [hr])) (hfresh id hmints)
  · obtain ⟨hpending, now, htime, hget⟩ := get?_after_of_settles hsettles hr
    rw [hget, Option.some.injEq] at hr'
    exact .inr ⟨hpending, now, verdict, htime, hsettles, hr'.symm⟩
  · simp [hget] at hr'
  · simp [hget] at hr'

end

/-! ## Runs -/

theorem Happened.append {P : Engine → Event → RequestId → Prop} {e : Engine} {past : List Event}
    {id : RequestId} (h : Happened P e past id) (later : List Event) :
    Happened P e (past ++ later) id := by
  obtain ⟨earlier, ev, between, rfl, hP⟩ := h
  exact ⟨earlier, ev, between ++ later, by simp, hP⟩

/-- Run lemma: a minted request `Proceeds` through any later events. -/
theorem proceeds_run {e : Engine} (hempty : e.ledger = .empty) {past later : List Event}
    {id : RequestId} (hfresh : FreshIds e (past ++ later)) (hminted : Happened Mints e past id) :
    Proceeds ((e.run past).ledger.get? id) ((e.run (past ++ later)).ledger.get? id) := by
  induction later using List.reverseRecOn with
  | nil =>
    rw [List.append_nil]
    exact .stays _
  | append_singleton later ev ih =>
    rw [← List.append_assoc] at hfresh ⊢
    have hstep : Proceeds ((e.run (past ++ later)).ledger.get? id)
        (((e.run (past ++ later)).after ev).ledger.get? id) :=
      (traced_run hempty hfresh.prefix).proceeds_after (fun i hi => hfresh _ ev [] rfl i hi)
        (hminted.append later)
    rw [run_snoc]
    exact (ih hfresh.prefix).trans hstep

/-- The life of all requests of a run, between any two of its points. -/
structure OneWay (e : Engine) (events : List Event) : Prop where
  /-- Before an event `Mints` it, an id has no status. -/
  unknown : ∀ past rest id, events = past ++ rest → ¬ Happened Mints e past id →
    (e.run past).ledger.status id = none
  /-- The event that `Mints` it leaves it pending, without `resolvedAt`. -/
  raised : ∀ past ev rest id, events = past ++ ev :: rest → (e.run past).Mints ev id →
    ∃ r, (e.run (past ++ [ev])).ledger.get? id = some r ∧ r.status = .pending ∧ r.resolvedAt = none
  /-- From then on its status goes `Onward`. -/
  onward : ∀ past later rest id, events = past ++ later ++ rest → Happened Mints e past id →
    Onward ((e.run past).ledger.status id) ((e.run (past ++ later)).ledger.status id)
  /-- While it is there it is the `SameRequest`, and after a verdict it is unchanged. -/
  kept : ∀ past later rest id r r', events = past ++ later ++ rest →
    (e.run past).ledger.get? id = some r → (e.run (past ++ later)).ledger.get? id = some r' →
      r.SameRequest r' ∧ (r.resolvedAt ≠ none → r' = r)
  /-- Only an event that `Settles` it changes the record, into `Request.settled`. -/
  settled : ∀ past ev rest id r r', events = past ++ ev :: rest →
    (e.run past).ledger.get? id = some r →
    (e.run (past ++ [ev])).ledger.get? id = some r' → r' ≠ r →
      r.status = .pending ∧ ∃ now verdict, ev.verdictTime? = some now ∧
        (e.run past).Settles verdict ev id ∧ r' = r.settled now verdict

/-- Answers tell what happened: `true` just if the request was pending, and no change where they say
so. -/
structure AnswersTell (e : Engine) : Prop where
  verdict_iff : ∀ now id verdict,
    (e.ledger.resolve now id verdict).1 = true ↔ e.ledger.status id = some .pending
  message_eq : ∀ now text, (e.onMessage now text).1 =
    (Command.parse? text).map fun c => ⟨c, decide (e.ledger.status c.id = some .pending)⟩
  verdict_refused : ∀ now id verdict, (e.ledger.resolve now id verdict).1 = false →
    (e.ledger.resolve now id verdict).2 = e.ledger
  call_refused : ∀ call, (e.ledger.consume call).1 = false → (e.ledger.consume call).2 = e.ledger
  message_ignored : ∀ now text, (e.onMessage now text).1 = none → (e.onMessage now text).2 = e
  message_refused : ∀ now text c, (e.onMessage now text).1 = some ⟨c, false⟩ →
    (e.onMessage now text).2 = e
  nothing_swept : ∀ expiry now, (e.sweep expiry now).1 = 0 → (e.sweep expiry now).2 = e

theorem oneWay_run {e : Engine} (hempty : e.ledger = .empty) {events : List Event}
    (hfresh : FreshIds e events) : OneWay e events where
  unknown := by
    rintro past rest id rfl hnot
    have hnone : (e.run past).ledger.get? id = none := by
      by_contra hthere
      exact hnot ((traced_run hempty hfresh.prefix).minted hthere)
    rw [Ledger.status, hnone, Option.map_none]
  raised := by
    rintro past ev rest id rfl hmints
    obtain ⟨now, call, reason, hop⟩ := mints_iff.mp hmints
    refine ⟨.raised id now call reason, ?_, rfl, rfl⟩
    rw [run_snoc, ledger_after, hop]
    exact (Ledger.get?_create ..).trans (if_pos rfl)
  onward := by
    rintro past later rest id rfl hminted
    exact (proceeds_run hempty hfresh.prefix hminted).onward
  kept := by
    rintro past later rest id r r' rfl hr hr'
    have htraced : Traced e past := traced_run hempty hfresh.prefix.prefix
    have hminted : Happened Mints e past id :=
      htraced.minted (by rw [hr]; exact Option.some_ne_none r)
    have hproceeds := proceeds_run hempty hfresh.prefix hminted
    rw [hr, hr'] at hproceeds
    refine ⟨hproceeds.sameRequest, fun hresolved => ?_⟩
    rcases hproceeds.eq_or_settled with heq | ⟨hpending, -⟩
    · exact heq
    · exact absurd ((htraced.coherent.settled_iff hr).mpr hpending) hresolved
  settled := by
    rintro past ev rest id r r' rfl hr hr' hne
    rw [run_snoc] at hr'
    have htraced : Traced e past := traced_run hempty hfresh.prefix
    exact (htraced.eq_or_settles (hfresh past ev rest rfl) hr hr').resolve_left hne

theorem answersTell (e : Engine) : e.AnswersTell where
  verdict_iff now id verdict := resolve_fst_iff
  message_eq now text := by
    rw [onMessage_fst]
    refine congrArg (Option.map · (Command.parse? text)) (funext fun c => ?_)
    have happlied : (e.ledger.resolve now c.id c.verdict).1 =
        decide (e.ledger.status c.id = some .pending) := by
      rw [Bool.eq_iff_iff, resolve_fst_iff, decide_eq_true_iff]
    rw [happlied]
  verdict_refused now id verdict := Ledger.resolve_of_false
  call_refused call := consume_of_false
  message_ignored now text h := by
    unfold onMessage at h ⊢
    cases hc : Command.parse? text with
    | none => rfl
    | some c => simp [hc] at h
  message_refused now text c h := by
    unfold onMessage at h ⊢
    cases hc : Command.parse? text with
    | none => rfl
    | some c' =>
      have hfalse : (e.ledger.resolve now c'.id c'.verdict).1 = false := by
        simp only [hc, Option.some.injEq, Resolution.mk.injEq] at h
        exact h.2
      simp only [Ledger.resolve_of_false hfalse]
  nothing_swept expiry now h := by
    have hledger : (e.ledger.sweep expiry now).2 = e.ledger := Ledger.sweep_of_zero h
    simp only [sweep, hledger]

/-- Every run from an empty ledger with `FreshIds` is `OneWay`, and on every engine the
`AnswersTell`. -/
theorem requests_live_one_way {e : Engine} (hempty : e.ledger = .empty) {events : List Event}
    (hfresh : FreshIds e events) : OneWay e events ∧ ∀ e' : Engine, e'.AnswersTell :=
  ⟨oneWay_run hempty hfresh, answersTell⟩

/-- One request is approved, denied in vain and used up; a second one for the call is swept while
pending. -/
theorem requests_live_one_way_of_two :
    let call : ToolCall := ⟨"exec", []⟩
    let e : Engine := ⟨⟨.requireApproval, none, []⟩, .given [], .empty⟩
    let asked : List Event := [.evaluate ⟨⟨0⟩, ⟨1⟩, none⟩ call ⟨""⟩,
      .message ⟨1⟩ "approve 00000000-0000-0000-0000-000000000001"]
    let later : List Event := [.resolve ⟨2⟩ ⟨1⟩ .deny, .evaluate ⟨⟨3⟩, ⟨2⟩, none⟩ call ⟨""⟩,
      .create ⟨3⟩ ⟨4⟩ call "ask", .sweep ⟨1000, true⟩ ⟨1005⟩]
    OneWay e (asked ++ later) ∧
      Onward ((e.run asked).ledger.status ⟨1⟩) ((e.run (asked ++ later)).ledger.status ⟨1⟩) ∧
      (e.run asked).ledger.status ⟨1⟩ = some .approved ∧
      ((e.run asked).ledger.resolve ⟨2⟩ ⟨1⟩ .deny).2 = (e.run asked).ledger ∧
      (e.run (asked ++ later)).ledger.status ⟨1⟩ = none ∧
      (e.run (asked ++ later)).ledger.status ⟨3⟩ = none := by
  intro call e asked later
  obtain ⟨hlife, htell⟩ : OneWay e (asked ++ later) ∧ ∀ e' : Engine, e'.AnswersTell :=
    requests_live_one_way rfl (freshIds_of_nodup (by decide))
  have hmints : e.mints? (.evaluate ⟨⟨0⟩, ⟨1⟩, none⟩ call ⟨""⟩) = some ⟨1⟩ := by decide +kernel
  have hminted : Happened Mints e asked ⟨1⟩ := ⟨[], _, _, rfl, hmints⟩
  have hrefused : ((e.run asked).ledger.resolve ⟨2⟩ ⟨1⟩ .deny).1 = false := by decide +kernel
  exact ⟨hlife, hlife.onward asked later [] ⟨1⟩ (by simp) hminted, by decide +kernel,
    (htell (e.run asked)).verdict_refused _ _ _ hrefused, by decide +kernel, by decide +kernel⟩

end ToolGate.Engine

/-
What a ledger keeps of the run that led to it.

* `Happened` — something was done to a request by an earlier event of a run.
* `FreshIds` — no id is given to two requests of a run.
* `Traced` — what can be told from a ledger about the run before it: a request that is there was
  raised, an approved one was approved by a message or a verdict, and one that was used up or swept
  is gone.
* `traced_run` — every run with fresh ids keeps all of that, by induction on its events.
-/
import Mathlib
import ToolGate.Proofs.Engine.Run

namespace ToolGate.Engine

open Approval

/-! ## What happened before -/

/-- Some event of `past` did `P` to the request, in the engine that it met. -/
def Happened (P : Engine → Event → RequestId → Prop) (e : Engine) (past : List Event)
    (id : RequestId) : Prop :=
  ∃ earlier ev later, past = earlier ++ ev :: later ∧ P (e.run earlier) ev id

theorem not_happened_nil {P : Engine → Event → RequestId → Prop} {e : Engine} {id : RequestId} :
    ¬ Happened P e [] id := by
  rintro ⟨earlier, ev, later, heq, -⟩
  simp at heq

theorem happened_snoc {P : Engine → Event → RequestId → Prop} {e : Engine} {past : List Event}
    {ev : Event} {id : RequestId} :
    Happened P e (past ++ [ev]) id ↔ Happened P e past id ∨ P (e.run past) ev id := by
  constructor
  · rintro ⟨earlier, ev', later, heq, hP⟩
    rcases List.eq_nil_or_concat later with rfl | ⟨later', last, rfl⟩
    · obtain ⟨rfl, hlast⟩ := List.append_inj' heq rfl
      cases hlast
      exact .inr hP
    · rw [List.concat_eq_append, ← List.cons_append, ← List.append_assoc] at heq
      obtain ⟨hpast, -⟩ := List.append_inj' heq rfl
      exact .inl ⟨earlier, ev', later', hpast, hP⟩
  · rintro (⟨earlier, ev', later, rfl, hP⟩ | hP)
    · exact ⟨earlier, ev', later ++ [ev], by simp, hP⟩
    · exact ⟨past, ev, [], rfl, hP⟩

/-- No event of a run `Mints` an id that one before it did. -/
def FreshIds (e : Engine) (events : List Event) : Prop :=
  ∀ past ev rest, events = past ++ ev :: rest →
    ∀ id, (e.run past).Mints ev id → ¬ Happened Mints e past id

theorem FreshIds.prefix {e : Engine} {past rest : List Event} (h : FreshIds e (past ++ rest)) :
    FreshIds e past := by
  rintro earlier ev later rfl
  exact h earlier ev (later ++ rest) (by simp)

/-- The id that an event brings along, used or not. -/
def Event.id? : Event → Option RequestId
  | .evaluate m _ _ => some m.freshId
  | .guard m _ _ _ => some m.freshId
  | .create id _ _ _ => some id
  | _ => none

theorem id?_of_mints {e : Engine} {ev : Event} {id : RequestId} (h : e.Mints ev id) :
    ev.id? = some id := by
  have hjudged : ∀ (m : Moment) (call : ToolCall) (intent : Intent),
      (e.judge m call intent).1.requestId = some id → m.freshId = id := by
    intro m call intent hid
    have hcases := judge_cases e m call intent
    generalize e.judge m call intent = outcome at hid hcases
    obtain ⟨r, e'⟩ := outcome
    cases hcases <;> simp [Ruling.requestId] at hid
    exact hid
  cases ev <;> simp only [Mints, mints?, reduceCtorEq] at h
  case evaluate m call intent => exact congrArg some (hjudged m call intent h)
  case guard m call intent _ => exact congrArg some (hjudged m call intent h)
  case create id' now call reason => exact h

/-- A decidable sufficient condition for `FreshIds`: no `Event.id?` comes twice. -/
theorem freshIds_of_nodup {e : Engine} {events : List Event}
    (h : (events.filterMap Event.id?).Nodup) : FreshIds e events := by
  rintro past ev rest rfl id hmints ⟨earlier, ev', later, rfl, hmints'⟩
  have hid := id?_of_mints hmints
  have hid' := id?_of_mints hmints'
  simp [List.filterMap_append, hid, hid', List.nodup_append] at h

/-- What a run leaves behind: a `Coherent` ledger whose requests have a history. -/
structure Traced (e : Engine) (past : List Event) : Prop where
  coherent : (e.run past).ledger.Coherent
  /-- A request that is there was `Mints`ed. -/
  minted : ∀ {id}, (e.run past).ledger.get? id ≠ none → Happened Mints e past id
  /-- A request that is `.approved` had an event that `Approves` it. -/
  approved : ∀ {id}, (e.run past).ledger.status id = some .approved → Happened Approves e past id
  /-- What was consumed or swept was minted before, and is no longer there. -/
  gone : ∀ {id}, Happened Consumes e past id ∨ Happened Sweeps e past id →
    Happened Mints e past id ∧ (e.run past).ledger.get? id = none

theorem traced_nil {e : Engine} (h : e.ledger = .empty) : Traced e [] where
  coherent := h ▸ Ledger.coherent_empty
  minted hget := absurd (h ▸ rfl) hget
  approved hstatus := by
    obtain ⟨r, hr, -⟩ := Ledger.status_eq_some.mp hstatus
    simp [h] at hr
  gone := by
    rintro id (hgone | hgone)
    · exact absurd hgone not_happened_nil
    · exact absurd hgone not_happened_nil

section

variable {e : Engine} {past : List Event} {ev : Event}

/-- Ids that were not minted before are `IsFresh` in a `Traced` run. -/
theorem Traced.isFresh (h : Traced e past)
    (hfresh : ∀ id, (e.run past).Mints ev id → ¬ Happened Mints e past id) :
    ∀ op, (e.run past).ledgerOp? ev = some op → op.IsFresh (e.run past).ledger := by
  intro op hop
  cases op with
  | create id now call reason =>
    by_contra hget
    exact hfresh id (mints_iff.mpr ⟨now, call, reason, hop⟩) (h.minted hget)
  | _ => trivial

theorem Coherent.after_event {e : Engine} (h : e.ledger.Coherent)
    (hfresh : ∀ op, e.ledgerOp? ev = some op → op.IsFresh e.ledger) :
    (e.after ev).ledger.Coherent := by
  rw [ledger_after]
  cases hop : e.ledgerOp? ev with
  | none => exact h
  | some op => exact h.after (hfresh op hop)

/-- Step lemma: one more event keeps `Traced`. -/
theorem Traced.snoc (h : Traced e past)
    (hfresh : ∀ id, (e.run past).Mints ev id → ¬ Happened Mints e past id) :
    Traced e (past ++ [ev]) where
  coherent := by
    rw [run_snoc]
    exact Coherent.after_event h.coherent (h.isFresh hfresh)
  minted := by
    intro id hget
    rw [run_snoc] at hget
    rw [happened_snoc]
    rcases request_cases h.coherent ev id with hsame | ⟨hmints, -⟩ | ⟨now, verdict, r, -, hr, -⟩ |
      ⟨⟨-, hr, -⟩, -⟩ | ⟨-, hr, -⟩
    · exact .inl (h.minted (hsame ▸ hget))
    · exact .inr hmints
    · exact .inl (h.minted (by simp [hr]))
    · exact .inl (h.minted hr)
    · exact .inl (h.minted hr)
  approved := by
    intro id hstatus
    rw [run_snoc] at hstatus
    rw [happened_snoc]
    obtain ⟨r', hr', happroved⟩ := Ledger.status_eq_some.mp hstatus
    rcases request_cases h.coherent ev id with hsame | ⟨-, now, call, reason, -, hget⟩ |
      ⟨now, verdict, r, hsettles, hr, hget⟩ | ⟨⟨-, -, hget⟩, -⟩ | ⟨-, -, hget⟩
    · exact .inl (h.approved (Ledger.status_eq_some.mpr ⟨r', hsame ▸ hr', happroved⟩))
    · rw [hget] at hr'
      cases hr'
      simp [Request.raised] at happroved
    · rw [hget] at hr'
      cases hr'
      obtain rfl : verdict = .approve := Status.ofVerdict_eq_approved.mp happroved
      exact .inr ⟨hsettles, (settles_iff.mp hsettles).2, hstatus⟩
    · simp [hget] at hr'
    · simp [hget] at hr'
  gone := by
    intro id hgone
    rw [happened_snoc, happened_snoc] at hgone
    rw [happened_snoc, run_snoc]
    have hcases : (Happened Consumes e past id ∨ Happened Sweeps e past id) ∨
        (e.run past).Consumes ev id ∨ (e.run past).Sweeps ev id := by tauto
    rcases hcases with hbefore | ⟨-, hthere, hget⟩ | ⟨-, hthere, hget⟩
    · obtain ⟨hminted, hnone⟩ := h.gone hbefore
      refine ⟨.inl hminted, ?_⟩
      rcases request_cases h.coherent ev id with hsame | ⟨hmints, -⟩ | ⟨now, verdict, r, -, hr, -⟩ |
        ⟨⟨-, -, hget⟩, -⟩ | ⟨-, -, hget⟩
      · rw [hsame, hnone]
      · exact absurd hminted (hfresh id hmints)
      · simp [hnone] at hr
      · exact hget
      · exact hget
    · exact ⟨.inl (h.minted hthere), hget⟩
    · exact ⟨.inl (h.minted hthere), hget⟩

end

/-- Run lemma: every run from an empty ledger with `FreshIds` is `Traced`. -/
theorem traced_run {e : Engine} (h : e.ledger = .empty) {events : List Event}
    (hfresh : FreshIds e events) : Traced e events := by
  induction events using List.reverseRecOn with
  | nil => exact traced_nil h
  | append_singleton past ev ih =>
    exact (ih hfresh.prefix).snoc fun id hmints => hfresh past ev [] rfl id hmints

/-- The arguments of the event's call, if it has one, are `Json.WellFormed`. -/
def Event.WellFormed (ev : Event) : Prop :=
  ∀ call, ev.call? = some call → (Json.object call.args).WellFormed

/-- On runs of `WellFormed` events, so are the arguments in every request. -/
theorem wellFormed_args {e : Engine} (h : e.ledger = .empty) {events : List Event}
    (hfresh : FreshIds e events) (hevents : ∀ ev ∈ events, ev.WellFormed) (id : RequestId)
    (r : Request) (hr : (e.run events).ledger.get? id = some r) :
    (Json.object r.args).WellFormed := by
  induction events using List.reverseRecOn generalizing r with
  | nil => simp [h] at hr
  | append_singleton past ev ih =>
    have hpast := ih hfresh.prefix fun ev' hmem => hevents ev' (List.mem_append_left _ hmem)
    rw [run_snoc] at hr
    rcases request_cases (traced_run h hfresh.prefix).coherent ev id with hsame |
      ⟨-, now, call, reason, hcall, hget⟩ | ⟨now, verdict, r', -, hr', hget⟩ | ⟨⟨-, -, hget⟩, -⟩ |
      ⟨-, -, hget⟩
    · exact hpast r (hsame ▸ hr)
    · rw [hget] at hr
      cases hr
      exact hevents ev (by simp) call hcall
    · have hargs := hpast r' hr'
      rw [hget] at hr
      cases hr
      exact hargs
    · simp [hget] at hr
    · simp [hget] at hr

end ToolGate.Engine

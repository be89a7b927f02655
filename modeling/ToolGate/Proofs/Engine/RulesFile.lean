/-
Engines whose rules stand in a file.

The file is written, removed, written again or replaced by a folder while the engine decides about
calls. What the engine remembers of it never shows: it decides as an engine would that is given,
each time, the rules of the text that stands at the path.

* `Engine.given` — the engine, with the rules given instead. `judge_given`, `after_given`: it does
  the same if these are the rules that the path gives.
* `Change`, `Incident`, `Site` — what is done to the path, what happens, and where it happens: what
  stands at the path, and the engine.
* `Site.Remembers` — what the engine remembers comes from a state of the path.
  `Site.Remembers.after`, `Site.Remembers.run`: whatever happens keeps this.
* `Site.afterReading`, `Site.runReading` — the same with an engine that is given the rules each
  time. `Site.Matches.after`, `Site.Matches.run`: the two go on together.
* `decides_as_given` — the result, for every history.
-/
import Mathlib
import ToolGate.Proofs.Rule.Cache
import ToolGate.Proofs.Engine.Run

namespace ToolGate

open Approval

namespace Engine

/-! ## Rules that are given instead -/

/-- The engine with `rules` for its source. -/
def given (e : Engine) (rules : List LoadedRule) : Engine := { e with source := .given rules }

variable {e : Engine} {rules : List LoadedRule}

/-- For `given` the rules that `load` gives, `judge` decides the same. -/
theorem judge_given {m : Moment} (h : (e.source.load m.rulesFile).1 = rules) (call : ToolCall)
    (intent : Intent) :
    (e.given rules).judge m call intent =
      ((e.judge m call intent).1, (e.judge m call intent).2.given rules) := by
  have hasks : (e.given rules).asksRules call = e.asksRules call := rfl
  simp only [judge, hasks]
  cases e.asksRules call with
  | false => rfl
  | true =>
    simp only [if_true, h]
    rfl

/-- For `given` the rules that `load` gives, an event does the same. -/
theorem after_given {ev : Event}
    (h : ∀ m, ev.moment? = some m → (e.source.load m.rulesFile).1 = rules) :
    (e.given rules).after ev = (e.after ev).given rules := by
  cases ev with
  | evaluate m call intent => simp only [after, evaluate, judge_given (h m rfl)]
  | guard m call intent execute => simp only [after, guard, evaluate, judge_given (h m rfl)]
  | message now text =>
    simp only [after, onMessage]
    cases Command.parse? text <;> rfl
  | _ => rfl

/-- The event, in a moment that sees `stands` at the path. -/
def Event.seeing (stands : Option Snapshot) : Event → Event
  | .evaluate m call intent => .evaluate { m with rulesFile := stands } call intent
  | .guard m call intent execute => .guard { m with rulesFile := stands } call intent execute
  | ev => ev

/-- A `given` engine does not look at the path. -/
theorem after_seeing_none (e : Engine) (rules : List LoadedRule) (ev : Event)
    (stands : Option Snapshot) :
    (e.given rules).after (ev.seeing none) = (e.given rules).after (ev.seeing stands) := by
  cases ev <;> rfl

theorem Event.rulesFile_of_seeing {stands : Option Snapshot} {ev : Event} {m : Moment}
    (h : (ev.seeing stands).moment? = some m) : m.rulesFile = stands := by
  cases ev <;> cases h <;> rfl

end Engine

/-! ## Histories -/

/-- What is done to the path of the rules. Contents may be rules, any other text, or no text. -/
inductive Change where
  | written (modified : Option Int) (content : FileTree.Content)
  | removed
  | folder (modified : Option Int) (length : Nat)

/-- What `stat` and a read find afterwards. -/
def Change.state? : Change → Option Snapshot
  | .written modified content => some ⟨⟨modified, content.length⟩, content.text?⟩
  | .removed => none
  | .folder modified length => some ⟨⟨modified, length⟩, none⟩

/-- What happens at a `Site`. -/
inductive Incident : Type 1 where
  | changed (change : Change)
  /-- The rules are asked for, without a decision. -/
  | asked
  | event (ev : Engine.Event)

/-- The state that a `Change` brings to the path. -/
def Incident.state? : Incident → Option Snapshot
  | .changed change => change.state?
  | _ => none

/-- What stands at the path, and the engine that reads it. -/
structure Site where
  stands : Option Snapshot
  engine : Engine

namespace Site

/-- The step of an `Incident`. The engine sees what stands at that moment. -/
def after (w : Site) : Incident → Site
  | .changed change => { w with stands := change.state? }
  | .asked => { w with engine.source := (w.engine.source.load w.stands).2 }
  | .event ev => { w with engine := w.engine.after (ev.seeing w.stands) }

/-- The site after `history`, first to last. -/
def run (w : Site) (history : List Incident) : Site := history.foldl after w

/-- Every state of the path in a history, with the one it starts in. -/
def states (w : Site) (history : List Incident) : List Snapshot :=
  w.stands.toList ++ history.filterMap Incident.state?

/-- A site whose engine has not read its rules yet. -/
def unread (start : Option Snapshot) (path : String) (policy : Policy) (ledger : Ledger) : Site :=
  ⟨start, ⟨policy, .file (.ofPath path), ledger⟩⟩

variable {w : Site} {path : String} {states : List Snapshot}

/-- Invariant: the engine's file `Remembers` one of `states`, and so does what stands at the
path. -/
structure Remembers (w : Site) (path : String) (states : List Snapshot) : Prop where
  stands : ∀ s, w.stands = some s → s ∈ states
  source : ∃ file : RuleFile, w.engine.source = .file file ∧ file.path = path ∧
    file.Remembers states

/-- Where `StampsTell`, the invariant says that `load` gives what stands there. -/
theorem Remembers.load_fst (h : w.Remembers path states) (htell : StampsTell states) :
    (w.engine.source.load w.stands).1 = readRules w.stands := by
  obtain ⟨file, hsource, -, hfile⟩ := h.source
  rw [hsource]
  exact hfile.load_fst htell h.stands

/-- The invariant survives a `load`. -/
theorem Remembers.load_snd (h : w.Remembers path states) :
    ∃ file : RuleFile, (w.engine.source.load w.stands).2 = .file file ∧ file.path = path ∧
      file.Remembers states := by
  obtain ⟨file, hsource, hpath, hfile⟩ := h.source
  refine ⟨(file.load w.stands).2, by rw [hsource]; rfl, ?_, hfile.load h.stands⟩
  rw [RuleFile.path_load, hpath]

/-- Step lemma: every `Incident` keeps `Remembers`. -/
theorem Remembers.after (h : w.Remembers path states) {incident : Incident}
    (hstate : ∀ s, incident.state? = some s → s ∈ states) :
    (w.after incident).Remembers path states := by
  cases incident with
  | changed change => exact ⟨hstate, h.source⟩
  | asked => exact ⟨h.stands, h.load_snd⟩
  | event ev =>
    refine ⟨h.stands, ?_⟩
    rcases w.engine.source_after (ev.seeing w.stands) with hsame | ⟨m, hm, hloaded⟩
    · rw [Site.after, hsame]
      exact h.source
    · rw [Site.after, hloaded, Engine.Event.rulesFile_of_seeing hm]
      exact h.load_snd

theorem forall_mem_states_cons {incident : Incident} {history : List Incident}
    {p : Snapshot → Prop} :
    (∀ s ∈ (incident :: history).filterMap Incident.state?, p s) ↔
      (∀ s, incident.state? = some s → p s) ∧ ∀ s ∈ history.filterMap Incident.state?, p s := by
  simp only [List.mem_filterMap, List.mem_cons]
  grind

theorem Remembers.run {history : List Incident}
    (hstates : ∀ s ∈ history.filterMap Incident.state?, s ∈ states) :
    ∀ {w : Site}, w.Remembers path states → (w.run history).Remembers path states := by
  induction history with
  | nil => exact fun h => h
  | cons incident history ih =>
    intro w h
    rw [forall_mem_states_cons] at hstates
    exact ih hstates.2 (h.after hstates.1)

/-- An `unread` engine `Remembers` nothing, and so any states. -/
theorem remembers_unread {start : Option Snapshot} {policy : Policy} {ledger : Ledger}
    (hstart : ∀ s, start = some s → s ∈ states) :
    (unread start path policy ledger).Remembers path states :=
  ⟨hstart, .ofPath path, rfl, rfl, RuleFile.remembers_ofPath path states⟩

/-! ## An engine that remembers nothing -/

/-- The step of an engine that is `given` what `readRules` finds, each time anew. -/
def afterReading (v : Site) : Incident → Site
  | .changed change => { v with stands := change.state? }
  | .asked => v
  | .event ev => { v with engine := (v.engine.given (readRules v.stands)).after (ev.seeing none) }

/-- The run of `afterReading` over `history`. -/
def runReading (v : Site) (history : List Incident) : Site := history.foldl afterReading v

/-- Sites that agree in all but the source of their rules. -/
structure Matches (w v : Site) : Prop where
  stands : v.stands = w.stands
  policy : v.engine.policy = w.engine.policy
  ledger : v.engine.ledger = w.engine.ledger

/-- Engines of sites that `Matches` become equal when they are `given` the same rules. -/
theorem Matches.given_eq {w v : Site} (h : w.Matches v) (rules : List LoadedRule) :
    v.engine.given rules = w.engine.given rules := by
  rw [Engine.given, Engine.given, h.policy, h.ledger]

/-- Step lemma of the simulation: `after` and `afterReading` keep `Matches`. -/
theorem Matches.after {w v : Site} (h : w.Matches v) (hremembers : w.Remembers path states)
    (htell : StampsTell states) (incident : Incident) :
    (w.after incident).Matches (v.afterReading incident) := by
  cases incident with
  | changed change => exact ⟨rfl, h.policy, h.ledger⟩
  | asked => exact ⟨h.stands, h.policy, h.ledger⟩
  | event ev =>
    have hlooked : ∀ m, (ev.seeing w.stands).moment? = some m →
        (w.engine.source.load m.rulesFile).1 = readRules w.stands := by
      intro m hm
      rw [Engine.Event.rulesFile_of_seeing hm, hremembers.load_fst htell]
    have hengine : (v.afterReading (.event ev)).engine =
        (w.engine.after (ev.seeing w.stands)).given (readRules w.stands) := by
      rw [afterReading, h.stands, h.given_eq, Engine.after_seeing_none, Engine.after_given hlooked]
    exact ⟨h.stands, by rw [hengine]; rfl, by rw [hengine]; rfl⟩

theorem Matches.run (htell : StampsTell states) {history : List Incident}
    (hstates : ∀ s ∈ history.filterMap Incident.state?, s ∈ states) :
    ∀ {w v : Site}, w.Matches v → w.Remembers path states →
      (w.run history).Matches (v.runReading history) := by
  -- what the first engine remembers has to be carried along: it says what its next look gives
  induction history with
  | nil => exact fun h _ => h
  | cons incident history ih =>
    intro w v h hremembers
    rw [forall_mem_states_cons] at hstates
    exact ih hstates.2 (h.after hremembers htell incident) (hremembers.after hstates.1)

/-- The cache is transparent. Where `StampsTell` states of the path apart, `run` simulates
`runReading`: they end with one policy and one ledger, `load` gives the `readRules` of what stands
there, which are those of `loadRulesFile`, and `evaluate` decides every call alike. A file without a
time is read anew at each `load`. -/
theorem decides_as_given {start : Option Snapshot} {path : String} {policy : Policy}
    {ledger : Ledger} {history : List Incident}
    (htell : StampsTell ((unread start path policy ledger).states history)) :
    let w := (unread start path policy ledger).run history
    let v := (unread start path policy ledger).runReading history
    v.stands = w.stands ∧ v.engine.policy = w.engine.policy ∧ v.engine.ledger = w.engine.ledger ∧
      w.engine.source.path? = some path ∧
      (w.engine.source.load w.stands).1 = readRules w.stands ∧
      (∀ t : FileTree, t.snapshot path = w.stands → readRules w.stands =
        ((Authoring.loadRulesFile path : StateM FileTree (List Rule)) t).1.map Rule.load) ∧
      (∀ now freshId call intent,
        (w.engine.evaluate ⟨now, freshId, w.stands⟩ call intent).1 =
          ((v.engine.given (readRules v.stands)).evaluate ⟨now, freshId, none⟩ call intent).1) ∧
      ∀ (file : RuleFile) (s : Snapshot), s.stamp.modified = none →
        (file.load (some s)).1 = loadRules s.text := by
  intro w v
  have hstart : (unread start path policy ledger).Remembers path
      ((unread start path policy ledger).states history) :=
    remembers_unread fun s hs => List.mem_append_left _ (Option.mem_toList.mpr hs)
  have hlater : ∀ s ∈ history.filterMap Incident.state?,
      s ∈ (unread start path policy ledger).states history := fun s hs => List.mem_append_right _ hs
  have hremembers : w.Remembers path _ := hstart.run hlater
  have hmatches : w.Matches v := Matches.run htell hlater ⟨rfl, rfl, rfl⟩ hstart
  have hload := hremembers.load_fst htell
  refine ⟨hmatches.stands, hmatches.policy, hmatches.ledger, ?_, hload, fun t ht => ?_,
    fun now freshId call intent => ?_, fun file s htime => ?_⟩
  · obtain ⟨file, hsource, hpath, -⟩ := hremembers.source
    rw [hsource, RuleSource.path?, hpath]
  · rw [← ht, readRules_snapshot]
  · have hjudge := Engine.judge_given (m := ⟨now, freshId, w.stands⟩) hload call intent
    have hunseen : (w.engine.given (readRules w.stands)).judge ⟨now, freshId, none⟩ call intent =
        (w.engine.given (readRules w.stands)).judge ⟨now, freshId, w.stands⟩ call intent := rfl
    rw [hmatches.stands, hmatches.given_eq, Engine.evaluate, Engine.evaluate, hunseen, hjudge]
  · rw [RuleFile.load_of_untimed htime]

/-- Rules that block; then a folder, nothing, bytes that are no text; and at last rules that
allow. -/
theorem decides_as_given_of_rewritten :
    let call : ToolCall := ⟨"exec", []⟩
    let document (action : String) : String :=
      "\x7b\"rules\":[\x7b\"action\":\"" ++ action ++ "\",\"tool\":\"exec\"\x7d]\x7d"
    let history : List Incident := [
      .changed (.written (some 1) (.text (document "block"))),
      .event (.evaluate ⟨⟨0⟩, ⟨1⟩, none⟩ call ⟨""⟩),
      .changed (.folder (some 2) 4096), .asked, .changed .removed, .asked,
      .changed (.written (some 3) (.bytes 7)), .event (.evaluate ⟨⟨0⟩, ⟨2⟩, none⟩ call ⟨""⟩),
      .changed (.written (some 3) (.text (document "allow")))]
    let w := (unread none "rules.json" ⟨.requireApproval, none, []⟩ .empty).run history
    (w.engine.source.load w.stands).1 = loadRules (some (document "allow")) ∧
      (w.engine.evaluate ⟨⟨1⟩, ⟨3⟩, w.stands⟩ call ⟨""⟩).1 = ⟨.allow, unnamedReason, none⟩ := by
  intro call document history w
  have htell : StampsTell
      ((unread none "rules.json" ⟨.requireApproval, none, []⟩ .empty).states history) := by
    decide +kernel
  obtain ⟨-, -, -, -, hload, -, hdecides, -⟩ := decides_as_given htell
  refine ⟨hload, (hdecides _ _ _ _).trans ?_⟩
  decide +kernel

end Site

end ToolGate

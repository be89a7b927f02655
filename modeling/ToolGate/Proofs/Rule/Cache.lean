/-
What a file of rules remembers.

The rules that are remembered are those of a text that stood at the path, with the stamp that it had
there. As long as a stamp tells one state of the path from every other, they are the rules of the
text that stands there now.

* `StampsTell` — no two different states of a path have one stamp, where the time in it is known.
* `RuleFile.Remembers` — what is remembered comes from one of the states; `Remembers.load`: a look
  at the path keeps this.
* `Remembers.load_fst` — every look gives the rules of the text that stands at the path.
* `readRules_snapshot` — in a tree of files, these are the rules that `Authoring.loadRulesFile`
  reads.
-/
import Mathlib
import ToolGate.Authoring.Files
import ToolGate.Storage.FileTree

namespace ToolGate

/-- Two different states of a path do not have one stamp. States whose times are not known may. -/
def StampsTell (states : List Snapshot) : Prop :=
  ∀ s ∈ states, ∀ s' ∈ states, s.stamp.modified.isSome → s.stamp = s'.stamp → s = s'

instance (states : List Snapshot) : Decidable (StampsTell states) :=
  inferInstanceAs (Decidable (∀ s ∈ states, ∀ s' ∈ states, _ → _ → s = s'))

/-- The rules of what stands at a path, by `loadRules`: none if nothing stands there or it is no
text. -/
def readRules (stands : Option Snapshot) : List LoadedRule := loadRules (stands.bind (·.text))

@[simp] theorem readRules_some (s : Snapshot) : readRules (some s) = loadRules s.text := rfl

namespace RuleFile

variable {file : RuleFile} {states : List Snapshot} {stands : Option Snapshot}

/-- What `file` remembers are the rules of one of the `states`, with its stamp. -/
def Remembers (file : RuleFile) (states : List Snapshot) : Prop :=
  ∀ stamp rules, file.remembered = some (stamp, rules) →
    ∃ s ∈ states, s.stamp = stamp ∧ rules = loadRules s.text

/-- A file that has not been read remembers nothing. -/
theorem remembers_ofPath (path : String) (states : List Snapshot) :
    (ofPath path).Remembers states := by
  intro stamp rules h
  cases h

/-- Rules are `known?` only by the stamp that is asked for, and only if its time is known. -/
theorem known?_eq_some {stamp : Stamp} {rules : List LoadedRule} :
    file.known? stamp = some rules ↔
      stamp.modified.isSome ∧ file.remembered = some (stamp, rules) := by
  unfold known?
  cases hremembered : file.remembered with
  | none => simp
  | some pair =>
    obtain ⟨old, rules'⟩ := pair
    simp only [Option.ite_none_right_eq_some, Option.some.injEq, Prod.mk.injEq]
    constructor
    · rintro ⟨⟨htime, rfl⟩, rfl⟩
      exact ⟨htime, rfl, rfl⟩
    · rintro ⟨htime, rfl, rfl⟩
      exact ⟨⟨htime, rfl⟩, rfl⟩

/-- A file without a time is read every time, whatever is remembered of it. -/
theorem load_of_untimed {s : Snapshot} (h : s.stamp.modified = none) :
    file.load (some s) = (loadRules s.text, ⟨file.path, some (s.stamp, loadRules s.text)⟩) := by
  have hknown : file.known? s.stamp = none := by
    rw [Option.eq_none_iff_forall_ne_some]
    intro rules hrules
    simpa [h] using (known?_eq_some.mp hrules).1
  simp only [load, hknown]

/-- A look does not change the path. -/
theorem path_load (file : RuleFile) (stands : Option Snapshot) :
    (file.load stands).2.path = file.path := by
  cases stands with
  | none => rfl
  | some s => cases hknown : file.known? s.stamp <;> simp only [load, hknown]

/-- A `load` keeps to one of the states what is remembered. -/
theorem Remembers.load (h : file.Remembers states) (hstands : ∀ s, stands = some s → s ∈ states) :
    (file.load stands).2.Remembers states := by
  cases stands with
  | none =>
    intro stamp rules hrules
    cases hrules
  | some s =>
    cases hknown : file.known? s.stamp with
    | some rules => simpa only [RuleFile.load, hknown] using h
    | none =>
      simp only [RuleFile.load, hknown]
      intro stamp rules hrules
      cases hrules
      exact ⟨s, hstands s rfl, rfl, rfl⟩

/-- Every `load` gives the `readRules` of what stands at the path. -/
theorem Remembers.load_fst (h : file.Remembers states) (htell : StampsTell states)
    (hstands : ∀ s, stands = some s → s ∈ states) : (file.load stands).1 = readRules stands := by
  cases stands with
  | none => rfl
  | some s =>
    cases hknown : file.known? s.stamp with
    | none => simp only [RuleFile.load, hknown, readRules_some]
    | some rules =>
      -- the state that was remembered has the stamp of the one that stands there: it is the same
      obtain ⟨htime, hremembered⟩ := known?_eq_some.mp hknown
      obtain ⟨old, hold, hstamp, rfl⟩ := h _ _ hremembered
      obtain rfl : s = old := htell s (hstands s rfl) old hold htime hstamp.symm
      simp only [RuleFile.load, hknown, readRules_some]

end RuleFile

/-! ## Files in a tree -/

/-- A `snapshot` has the text that `readText` gives. -/
theorem FileTree.snapshot_text (t : FileTree) (path : String) :
    (t.snapshot path).bind (·.text) = (t.readText path).toOption := by
  unfold snapshot readText
  cases t.at? path with
  | error e => rfl
  | ok node =>
    cases node with
    | folder changed => rfl
    | file changed content => cases content <;> rfl

/-- What stands at a path has the rules that `loadRulesFile` reads there. -/
theorem readRules_snapshot (t : FileTree) (path : String) :
    readRules (t.snapshot path) =
      ((Authoring.loadRulesFile path : StateM FileTree (List Rule)) t).1.map Rule.load := by
  rw [readRules, FileTree.snapshot_text]
  rfl

end ToolGate

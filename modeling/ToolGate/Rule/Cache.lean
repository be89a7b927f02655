/-
Rules that stand in a file.

The file may change at any time. Its text is read again only when its stamp, the time of its last
change with its length, is another one; without a time it is read every time.

* `Snapshot` — what stands at a path at one moment.
* `RuleFile.load` — the rules to go by at that moment, and what to remember of them.
-/
import ToolGate.Rule.Match

namespace ToolGate

/-- What tells one state of a file from another. -/
structure Stamp where
  /-- The time of the last change, in nanoseconds, where it is known. -/
  modified : Option Int
  length : Nat
  deriving Repr, DecidableEq

/-- What stands at a path: its stamp, and its text if it can be read as one. -/
structure Snapshot where
  stamp : Stamp
  text : Option String
  deriving Repr, DecidableEq

/-- The rules of a text, with their patterns. -/
def loadRules (text : Option String) : List LoadedRule :=
  (Rule.Document.rulesOrNone text).map Rule.load

/-- A file of rules, with the stamp and the rules that it had when it was last read. -/
structure RuleFile where
  path : String
  remembered : Option (Stamp × List LoadedRule)

namespace RuleFile

/-- A file of rules that has not been read yet. -/
def ofPath (path : String) : RuleFile := ⟨path, none⟩

/-- The remembered rules, if they are those of a stamp. -/
def known? (file : RuleFile) (stamp : Stamp) : Option (List LoadedRule) :=
  match file.remembered with
  | some (old, rules) => if old.modified.isSome ∧ old = stamp then some rules else none
  | none => none

/-- The rules to go by, given what stands at the path; none if nothing does. -/
def load (file : RuleFile) (seen : Option Snapshot) : List LoadedRule × RuleFile :=
  match seen with
  | none => ([], ⟨file.path, none⟩)
  | some s =>
    match file.known? s.stamp with
    | some rules => (rules, file)
    | none =>
      let rules := loadRules s.text
      (rules, ⟨file.path, some (s.stamp, rules)⟩)

end RuleFile

/-- Where rules come from: they are given, or stand in a file. -/
inductive RuleSource where
  | given (rules : List LoadedRule)
  | file (file : RuleFile)

/-- The path to look at before the rules are asked for. -/
def RuleSource.path? : RuleSource → Option String
  | .given _ => none
  | .file f => some f.path

/-- The rules to go by, given what stands at the path. -/
def RuleSource.load (source : RuleSource) (seen : Option Snapshot) :
    List LoadedRule × RuleSource :=
  match source with
  | .given rules => (rules, .given rules)
  | .file f =>
    let (rules, f) := f.load seen
    (rules, .file f)

end ToolGate

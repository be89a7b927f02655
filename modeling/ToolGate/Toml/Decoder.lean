/-
Reading the values of a program out of TOML.

* `asText?`, `asFlag?`, `asCount?`, `asTexts?`, `asOption?` — what a value stands for, if it is of
  the right kind.
* `Field` — a key of a record, and what its value changes.
* `record` — the changes of a whole record. A record is written as a table, or as a list of the
  values of its fields in their order.
-/
import ToolGate.Toml.Reader

namespace ToolGate.Toml

/-! ## Single values -/

/-- The text of a string. -/
def asText? : Toml → Option String
  | .text s => some s
  | _ => none

/-- The truth value of a Boolean. -/
def asFlag? : Toml → Option Bool
  | .boolean b => some b
  | _ => none

/-- The number of an integer that is not negative. -/
def asCount? : Toml → Option Nat
  | .integer n => if 0 ≤ n then some n.toNat else none
  | _ => none

/-- The texts of a list of strings. -/
def asTexts? : Toml → Option (List String)
  | .list _ items => items.mapM asText?
  | _ => none

/-- A table or a list without contents. -/
def isVoid : Toml → Bool
  | .list _ items => items.isEmpty
  | .table _ _ entries => entries.isEmpty
  | _ => false

/-- A name: a string, or a table with the name as its key and nothing under it. Between braces,
that must be the only key. -/
def asName? : Toml → Option String
  | .text s => some s
  | .table true _ [(key, value)] => if value.isVoid then some key else none
  | .table false _ ((key, value) :: _) => if value.isVoid then some key else none
  | _ => none

/-- One of some named alternatives. -/
def asOption? {α : Type} (options : List (String × α)) (v : Toml) : Option α :=
  v.asName?.bind fun name => (options.find? (·.1 == name)).map (·.2)

/-! ## Records -/

/-- A key of a record of type `σ`, and what its value changes. -/
structure Field (σ : Type) where
  key : String
  change : Toml → σ → Option σ
  /-- A list of values may end before this field. -/
  mayEnd : Bool

namespace Field

variable {σ α : Type}

/-- A field that is set to what its value stands for. -/
def setting (key : String) (read : Toml → Option α) (set : α → σ → σ) : Field σ :=
  ⟨key, fun v s => (read v).map (set · s), true⟩

/-- A field that a list of values must not leave out. -/
def override (key : String) (read : Toml → Option α) (set : α → σ → σ) : Field σ :=
  { setting key read set with mayEnd := false }

/-- A field whose value is a record of its own. -/
def part (key : String) (change : Toml → σ → Option σ) : Field σ := ⟨key, change, true⟩

end Field

section

variable {σ : Type}

/-- The changes of a table: of each field whose key is there. Other keys change nothing. -/
def changeByKey (entries : Entries) : List (Field σ) → σ → Option σ
  | [], s => some s
  | f :: fields, s =>
    match entry? f.key entries with
    | some v => (f.change v s).bind (changeByKey entries fields)
    | none => changeByKey entries fields s

/-- The changes of a list of values. Values beyond the last field change nothing. -/
def changeInOrder : List Toml → List (Field σ) → σ → Option σ
  | _, [], s => some s
  | v :: items, f :: fields, s => (f.change v s).bind (changeInOrder items fields)
  | [], f :: fields, s => if f.mayEnd then changeInOrder [] fields s else none

/-- The changes of a record. A date counts as a table with no key of the record. -/
def record (fields : List (Field σ)) : Toml → σ → Option σ
  | .table _ _ entries, s => changeByKey entries fields s
  | .list _ items, s => changeInOrder items fields s
  | .moment _, s => some s
  | _, _ => none

end

end ToolGate.Toml

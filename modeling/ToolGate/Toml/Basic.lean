/-
TOML values and documents.

* `Toml` — a value. Tables keep their entries in the order of the text, and where they came from,
  which decides who may still add to them.
* `changeAt` — change the entries of the table that a path of keys leads to, making the tables
  that are missing on the way.
* `addValue`, `openTable`, `openRow` — the three kinds of statement of a document.
-/
import ToolGate.Decimal.Binary64

namespace ToolGate

/-- A TOML real number. -/
inductive Toml.Real where
  | finite (value : Decimal.Binary64)
  | infinite (negative : Bool)
  | notANumber
  deriving Repr, DecidableEq

/-- How a table came to be. -/
inductive Toml.Origin where
  /-- It was written out: under a header, between braces, or as the document. -/
  | written
  /-- A header of a table within it passed through it. -/
  | passed
  /-- A dotted key passed through it. -/
  | dotted
  deriving Repr, DecidableEq

/-- A TOML value. A list is open when headers may add rows to it; a table is inline when it stands
between braces. -/
inductive Toml where
  | text (value : String)
  | integer (value : Int)
  | real (value : Toml.Real)
  | boolean (value : Bool)
  /-- A date, a time or both, as it is written. -/
  | moment (written : String)
  | list (isOpen : Bool) (items : List Toml)
  | table (isInline : Bool) (origin : Toml.Origin) (entries : List (String × Toml))
  deriving Repr, Inhabited

namespace Toml

/-- The entries of a table in their order. -/
abbrev Entries := List (String × Toml)

/-- The value under a key. -/
def entry? (key : String) : Entries → Option Toml
  | [] => none
  | (k, v) :: rest => if k = key then some v else entry? key rest

/-- Entries with another value under a key that they have. -/
def replace (key : String) (value : Toml) : Entries → Entries
  | [] => []
  | (k, v) :: rest => if k = key then (k, value) :: rest else (k, v) :: replace key value rest

/-- Entries without a key. -/
def erase (key : String) (entries : Entries) : Entries := entries.filter (·.1 != key)

/-- Change the entries of the table at the end of a path of keys. A path of a header goes through
tables of any origin and through the last row of an open list; a dotted key goes only through
tables that were not written out. -/
def changeAt (isInline byDots : Bool) (change : Origin → Entries → Option Entries) :
    List String → Origin → Entries → Option Entries
  | [], origin, entries => change origin entries
  | key :: path, _, entries =>
    match entry? key entries with
    | none => do
      let origin := if byDots then Origin.dotted else Origin.passed
      let inner ← changeAt isInline byDots change path origin []
      some (entries ++ [(key, .table isInline origin inner)])
    | some (.table inl origin inner) =>
      if inl != isInline || (byDots && origin == .written) then none
      else do
        let inner ← changeAt isInline byDots change path origin inner
        some (replace key (.table isInline origin inner) entries)
    | some (.list true rows) =>
      match rows.getLast? with
      | some (.table inl origin inner) => do
        let inner ← changeAt isInline byDots change path origin inner
        some (replace key (.list true (rows.dropLast ++ [.table inl origin inner])) entries)
      | _ => none
    | some _ => none

/-- Add a value under a key that is not there yet. A dotted key may only add to a table that dotted
keys made. -/
def addKey (byDots : Bool) (key : String) (value : Toml) (origin : Origin) (entries : Entries) :
    Option Entries :=
  if (origin == .dotted) != byDots then none
  else
    match entry? key entries with
    | some _ => none
    | none => some (entries ++ [(key, value)])

/-- Add a value under a key, dotted or not, to the entries of a table. -/
def addValue (isInline : Bool) (path : List String) (key : String) (value : Toml) (origin : Origin)
    (entries : Entries) : Option Entries :=
  changeAt isInline true (addKey (!path.isEmpty) key value) path origin entries

/-- Open a table under a key: a new one, or one that only headers passed through. -/
def openTable (key : String) (_ : Origin) (entries : Entries) : Option Entries :=
  match entry? key entries with
  | none => some (entries ++ [(key, .table false .written [])])
  | some (.table false .passed inner) =>
    some (erase key entries ++ [(key, .table false .written inner)])
  | some _ => none

/-- Open a row of the list of tables under a key. -/
def openRow (key : String) (_ : Origin) (entries : Entries) : Option Entries :=
  let row : Toml := .table false .written []
  match entry? key entries with
  | none => some (entries ++ [(key, .list true [row])])
  | some (.list true rows) => some (replace key (.list true (rows ++ [row])) entries)
  | some _ => none

end Toml

end ToolGate

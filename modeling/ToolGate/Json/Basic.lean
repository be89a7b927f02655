/-
JSON values.

* `Json` — a value. The fields of an object are kept in a list; a value that was read has them
  sorted by key and without repetition, which `SortedKeys` states.
* `insertField`, `ofEntries` — fields collected in order of their keys, a later one replacing an
  earlier one of the same key.
* `canonical` — the same value with the fields of every object collected that way.
-/
import ToolGate.Decimal.Binary64

namespace ToolGate

/-- A number is an exact integer or a finite binary floating-point number. -/
inductive Json.Number where
  | integer (value : Int)
  | real (value : Decimal.Binary64)
  deriving Repr, DecidableEq, Inhabited

/-- A JSON value. -/
inductive Json where
  | null
  | boolean (value : Bool)
  | number (value : Json.Number)
  | text (value : String)
  | list (items : List Json)
  | object (fields : List (String × Json))
  deriving Repr, Inhabited

namespace Json

/-- The fields of an object. -/
abbrev Fields := List (String × Json)

/-- The value under a key. -/
def field? (key : String) : Fields → Option Json
  | [] => none
  | (k, v) :: rest => if k = key then some v else field? key rest

/-- Put a field into fields sorted by key; a field of the same key is replaced. -/
def insertField (key : String) (value : Json) : Fields → Fields
  | [] => [(key, value)]
  | (k, v) :: rest =>
    if key < k then (key, value) :: (k, v) :: rest
    else if key = k then (key, value) :: rest
    else (k, v) :: insertField key value rest

/-- Collect fields into sorted ones, the last of each key. -/
def collect (collected : Fields) : Fields → Fields
  | [] => collected
  | (k, v) :: rest => collect (insertField k v collected) rest

/-- The fields of an object written as these entries. -/
def ofEntries (entries : Fields) : Fields := collect [] entries

mutual

/-- The same value with the fields of every object sorted by key. -/
def canonical : Json → Json
  | .list items => .list (canonicalItems items)
  | .object fields => .object (ofEntries (canonicalFields fields))
  | .null => .null
  | .boolean b => .boolean b
  | .number n => .number n
  | .text s => .text s

/-- The items of a list, each in canonical form. -/
def canonicalItems : List Json → List Json
  | [] => []
  | x :: xs => canonical x :: canonicalItems xs

/-- The fields of an object in their order, each value in canonical form. -/
def canonicalFields : Fields → Fields
  | [] => []
  | (k, v) :: rest => (k, canonical v) :: canonicalFields rest

end

/-- Fields are in strictly increasing order of their keys. -/
def SortedKeys (fields : Fields) : Prop := fields.Pairwise fun a b => a.1 < b.1

/-- The text, if the value is one. -/
def asText? : Json → Option String
  | .text s => some s
  | _ => none

/-- The fields, if the value is an object. -/
def asObject? : Json → Option Fields
  | .object fields => some fields
  | _ => none

end Json

end ToolGate

/-
Reading one of several records that are told apart by a field with a name.

The field may stand anywhere among the others; in a list it comes first. The record is read as a
whole before its fields are looked at, so what is wrong with the field that names it, or with the
JSON, has a place in the text, and what is wrong with the other fields has none.

* `Contents` — the fields of a record that is not yet known.
* `Variant` — a name with the record that it stands for.
* `decodeTagged` — a whole text.
-/
import ToolGate.Json.Decoder

namespace ToolGate.Json

/-- The fields of a record: by key, in the order of the text, or in the order of the record. -/
inductive Contents where
  | entries (fields : Fields)
  | items (values : List Json)
  deriving Repr

/-- A name with what the fields of its record stand for. -/
structure Variant (α : Type) where
  name : String
  convert : Contents → Except Mismatch α

variable {α σ : Type}

/-- How the number of items is described. -/
def expectedItems (count : Nat) : String :=
  toString count ++ (if count = 1 then " element" else " elements") ++ " in sequence"

/-- The fields of a record, which is described as `form`. -/
def convertContents (form : String) (start : σ) (fields : List (Field σ)) :
    Contents → Except Mismatch σ
  | .entries entries => Decoder.convertFields fields [] start entries
  | .items values =>
    match Decoder.convertInOrder (Decoder.expectedRecord form fields.length) fields 0
      start values with
    | .error m => .error m
    | .ok (s, []) => .ok s
    | .ok (_, _ :: _) => .error (.wrongLength values.length (expectedItems fields.length))

/-- A name with a record of some fields. -/
def Variant.record (name form : String) (start : σ) (fields : List (Field σ)) (make : σ → α) :
    Variant α :=
  ⟨name, fun contents => (convertContents form start fields contents).map make⟩

namespace Tagged

/-- The name and the other fields of a record written as an object, up to its end. -/
def readEntries (tag : String) (options : List (String × Variant α)) (depth : Nat) :
    Nat → Bool → Option (Variant α) → List Char → Outcome (Variant α × Fields)
  | 0, _, _, cs => .error (Fault.next .endInObject cs)
  | fuel + 1, first, found, cs =>
    match nextKey first cs with
    | .error f => .error f
    | .ok (none, cs) =>
      match found with
      | none => .error (Fault.mismatch (.missingField tag) cs)
      | some v => .ok ((v, []), cs)
    | .ok (some key, cs) =>
      if key = tag then
        if found.isSome then .error (Fault.mismatch (.repeatedField tag) (afterObjectEnd cs))
        else
          match passColon cs with
          | .error f => .error f
          | .ok ((), cs) =>
            match Decoder.readName options depth cs with
            | .error f => .error f
            | .ok (v, cs) => readEntries tag options depth fuel false (some v) cs
      else
        match passColon cs with
        | .error f => .error f
        | .ok ((), cs) =>
          match readValue (stepsFor cs) depth cs with
          | .error f => .error f
          | .ok (value, cs) =>
            (readEntries tag options depth fuel false found cs).map fun ((v, es), cs) =>
              ((v, (key, value) :: es), cs)

/-- The name and the other fields of a record written as a list, up to its end. -/
def readItems (tag : String) (options : List (String × Variant α)) (depth : Nat) (cs : List Char) :
    Outcome (Variant α × List Json) :=
  match nextItem true cs with
  | .error f => .error f
  | .ok (false, cs) => .error (Fault.mismatch (.missingField tag) cs)
  | .ok (true, cs) =>
    match Decoder.readName options depth cs with
    | .error f => .error f
    | .ok (v, cs) =>
      (Json.readItems (stepsFor cs) depth false cs).map fun (values, cs) => ((v, values), cs)

/-- The name and the other fields of a record, which is described as `form`. -/
def read (tag form : String) (options : List (String × Variant α)) (depth : Nat) (cs : List Char) :
    Outcome (Variant α × Contents) :=
  match skipBlanks cs with
  | '[' :: rest =>
    Decoder.opening depth '[' rest fun depth rest =>
      (readItems tag options depth rest).map fun ((v, values), cs) => ((v, .items values), cs)
  | '\x7b' :: rest =>
    Decoder.opening depth '\x7b' rest fun depth rest =>
      (readEntries tag options depth (rest.length + 1) true none rest).map fun ((v, es), cs) =>
        ((v, .entries es), cs)
  | rest => .error (Decoder.unexpected form rest)

end Tagged

/-- Read a whole text. Wrong fields are noticed before anything that follows the record. -/
def decodeTagged (tag form : String) (variants : List (Variant α)) (text : String) :
    Except Error α :=
  let cs := text.toList
  match Tagged.read tag form (variants.map fun v => (v.name, v)) maxDepth cs with
  | .error f => .error (Error.ofFault cs f)
  | .ok ((v, contents), rest) =>
    match v.convert contents with
    | .error m => .error (Error.ofMismatch m)
    | .ok a =>
      match finish rest with
      | .error f => .error (Error.ofFault cs f)
      | .ok () => .ok a

end ToolGate.Json

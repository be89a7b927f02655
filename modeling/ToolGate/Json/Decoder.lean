/-
Reading JSON into values of an expected form.

A `Decoder α` does so in two ways: `read` goes through a text and stops at the first thing that
is wrong, of whichever kind; `convert` goes through a value that is already there. Both accept
the same values, but only the first can say where it stopped.

* `text`, `optional`, `listOf`, `anyObject`, `choice` — the simple forms.
* `record` — a record, written as an object or as the list of its fields in order.
* `decode`, `ofJson` — a whole text or a whole value.
-/
import ToolGate.Json.Reader

namespace ToolGate.Json

/-- How to read values of a type. `read` may open `depth` more levels. -/
structure Decoder (α : Type) where
  read : (depth : Nat) → List Char → Outcome α
  convert : Json → Except Mismatch α

namespace Decoder

variable {α β σ : Type}

/-- Read a whole text. -/
def decode (d : Decoder α) (text : String) : Except Error α :=
  let cs := text.toList
  match d.read maxDepth cs with
  | .error f => .error (Error.ofFault cs f)
  | .ok (a, rest) =>
    match finish rest with
    | .error f => .error (Error.ofFault cs f)
    | .ok () => .ok a

/-- Convert a whole value. -/
def ofJson (d : Decoder α) (j : Json) : Except Error α :=
  (d.convert j).mapError Error.ofMismatch

/-- Put what was read into another form. -/
def map (f : α → β) (d : Decoder α) : Decoder β where
  read depth cs := (d.read depth cs).map fun (a, cs) => (f a, cs)
  convert j := (d.convert j).map f

/-! ## Values of the wrong type -/

/-- A value that is not of the expected type. Scalars are read first, to say what they are. -/
def unexpected (expected : String) (cs : List Char) : Fault :=
  let wrong (outcome : Outcome Found) : Fault :=
    match outcome with
    | .error f => f
    | .ok (found, cs) => Fault.mismatch (.wrongType found expected) cs
  match skipBlanks cs with
  | [] => Fault.next .endInValue []
  | c :: rest =>
    if c = 'n' then wrong ((scanWord ['u', 'l', 'l'] rest).map fun (_, cs) => (.null, cs))
    else if c = 't' then
      wrong ((scanWord ['r', 'u', 'e'] rest).map fun (_, cs) => (.boolean true, cs))
    else if c = 'f' then
      wrong ((scanWord ['a', 'l', 's', 'e'] rest).map fun (_, cs) => (.boolean false, cs))
    else if c = '-' then wrong ((scanNumber true rest).map fun (n, cs) => (.number n, cs))
    else if c.isDigit then
      wrong ((scanNumber false (c :: rest)).map fun (n, cs) => (.number n, cs))
    else if c = '"' then wrong ((scanText rest).map fun (s, cs) => (.text s, cs))
    else if c = '[' then Fault.mismatch (.wrongType .list expected) (c :: rest)
    else if c = '\x7b' then Fault.mismatch (.wrongType .object expected) (c :: rest)
    else Fault.next .expectedValue (c :: rest)

/-- The mismatch of a value that is not of the expected type. -/
def unexpectedValue (expected : String) (j : Json) : Mismatch :=
  .wrongType (Found.ofValue j) expected

/-- What to read after a bracket that opens a level, if one more may be opened. -/
def opening (depth : Nat) (c : Char) (rest : List Char)
    (inner : Nat → List Char → Outcome α) : Outcome α :=
  match depth with
  | 0 => .error (Fault.next .tooDeep (c :: rest))
  | depth + 1 => inner depth rest

/-! ## Simple forms -/

/-- A text; `expected` names what it stands for. -/
def textAs (expected : String) : Decoder String where
  read _ cs :=
    match skipBlanks cs with
    | '"' :: rest => scanText rest
    | rest => .error (unexpected expected rest)
  convert
    | .text s => .ok s
    | j => .error (unexpectedValue expected j)

/-- A text. -/
def text : Decoder String := textAs "a string"

/-- Null or a value. -/
def optional (d : Decoder α) : Decoder (Option α) where
  read depth cs :=
    match skipBlanks cs with
    | 'n' :: rest => (scanWord ['u', 'l', 'l'] rest).map fun (_, cs) => (none, cs)
    | rest => (d.read depth rest).map fun (a, cs) => (some a, cs)
  convert
    | .null => .ok none
    | j => (d.convert j).map some

/-- The items of a list up to its end. -/
def readItems (d : Decoder α) (depth : Nat) : Nat → Bool → List Char → Outcome (List α)
  | 0, _, cs => .error (Fault.next .endInList cs)
  | fuel + 1, first, cs =>
    match nextItem first cs with
    | .error f => .error f
    | .ok (false, cs) => .ok ([], cs)
    | .ok (true, cs) =>
      match d.read depth cs with
      | .error f => .error f
      | .ok (x, cs) => (readItems d depth fuel false cs).map fun (xs, cs) => (x :: xs, cs)

/-- Convert the items of a list in order. -/
def convertItems (d : Decoder α) : List Json → Except Mismatch (List α)
  | [] => .ok []
  | j :: js =>
    match d.convert j with
    | .error m => .error m
    | .ok x => (convertItems d js).map (x :: ·)

/-- A list of values. -/
def listOf (d : Decoder α) : Decoder (List α) where
  read depth cs :=
    match skipBlanks cs with
    | '[' :: rest =>
      opening depth '[' rest fun depth rest => d.readItems depth (rest.length + 1) true rest
    | rest => .error (unexpected "a sequence" rest)
  convert
    | .list js => d.convertItems js
    | j => .error (unexpectedValue "a sequence" j)

/-- An object with any fields. -/
def anyObject : Decoder Fields where
  read depth cs :=
    match skipBlanks cs with
    | '\x7b' :: rest =>
      opening depth '\x7b' rest fun depth rest =>
        (readEntries (stepsFor rest) depth true rest).map fun (es, cs) => (ofEntries es, cs)
    | rest => .error (unexpected "a map" rest)
  convert
    | .object fields => .ok fields
    | j => .error (unexpectedValue "a map" j)

/-- Any value. -/
def any : Decoder Json where
  read depth cs := readValue (stepsFor cs) depth cs
  convert := .ok

/-- Null, where nothing else makes sense. -/
def unit : Decoder Unit where
  read _ cs :=
    match skipBlanks cs with
    | 'n' :: rest => scanWord ['u', 'l', 'l'] rest
    | rest => .error (unexpected "unit" rest)
  convert
    | .null => .ok ()
    | j => .error (unexpectedValue "unit" j)

/-! ## Named alternatives -/

/-- The alternative of a name. -/
def pick (options : List (String × α)) (name : String) : Except Mismatch α :=
  match options.find? (·.1 == name) with
  | some (_, a) => .ok a
  | none => .error (.unknownVariant name (options.map (·.1)))

/-- Read the name of an alternative. -/
def readName (options : List (String × α)) (depth : Nat) (cs : List Char) : Outcome α :=
  match (textAs "variant identifier").read depth cs with
  | .error f => .error f
  | .ok (name, cs) =>
    match pick options name with
    | .ok a => .ok (a, cs)
    | .error m => .error (Fault.mismatch m cs)

/-- One of some named alternatives: its name, or an object with that name as its only key and
null under it. -/
def choice (options : List (String × α)) : Decoder α where
  read depth cs :=
    match skipBlanks cs with
    | [] => .error (Fault.next .endInValue [])
    | c :: rest =>
      if c = '"' then readName options depth (c :: rest)
      else if c = '\x7b' then
        opening depth c rest fun depth rest =>
          match readName options depth rest with
          | .error f => .error f
          | .ok (a, cs) =>
            match passColon cs with
            | .error f => .error f
            | .ok ((), cs) =>
              match unit.read depth cs with
              | .error f => .error f
              | .ok ((), cs) =>
                match skipBlanks cs with
                | [] => .error (Fault.here .endInObject [])
                | c :: rest =>
                  if c = '\x7d' then .ok (a, rest)
                  else .error (Fault.here .expectedValue (c :: rest))
      else .error (Fault.next .expectedValue (c :: rest))
  convert
    | .text name => pick options name
    | .object [(name, value)] =>
      match pick options name with
      | .error m => .error m
      | .ok a => (unit.convert value).map fun _ => a
    | .object _ => .error (.wrongValue .object "map with a single key")
    | j => .error (unexpectedValue "string or map" j)

end Decoder

/-! ## Records -/

/-- A field of a record: its key, whether it may be left out, and how its value is put into the
record. -/
structure Field (σ : Type) where
  name : String
  mandatory : Bool
  value : Decoder (σ → σ)

namespace Field

variable {α σ : Type}

/-- A field that has to be there. -/
def required (name : String) (d : Decoder α) (set : α → σ → σ) : Field σ := ⟨name, true, d.map set⟩

/-- A field that may be left out. -/
def optional (name : String) (d : Decoder α) (set : α → σ → σ) : Field σ := ⟨name, false, d.map set⟩

/-- The first of the fields that has to be there and was not seen. -/
def missing (fields : List (Field σ)) (seen : List String) : Option String :=
  (fields.find? fun f => f.mandatory && !seen.contains f.name).map (·.name)

/-- The field of a key. -/
def find? (fields : List (Field σ)) (key : String) : Option (Field σ) :=
  fields.find? (·.name == key)

end Field

namespace Decoder

variable {σ : Type}

/-- How a record of a form is described. -/
def expectedRecord (form : String) (count : Nat) : String :=
  form ++ " with " ++ toString count ++ (if count = 1 then " element" else " elements")

/-- The fields of a record written as an object, up to its end. -/
def readFields (fields : List (Field σ)) (depth : Nat) :
    Nat → Bool → List String → σ → List Char → Outcome σ
  | 0, _, _, _, cs => .error (Fault.next .endInObject cs)
  | fuel + 1, first, seen, s, cs =>
    match nextKey first cs with
    | .error f => .error f
    | .ok (none, cs) =>
      match Field.missing fields seen with
      | some name => .error (Fault.mismatch (.missingField name) cs)
      | none => .ok (s, cs)
    | .ok (some key, cs) =>
      match Field.find? fields key with
      | none =>
        match passColon cs with
        | .error f => .error f
        | .ok ((), cs) =>
          match skipValue (stepsFor cs) cs with
          | .error f => .error f
          | .ok ((), cs) => readFields fields depth fuel false seen s cs
      | some field =>
        if seen.contains key then .error (Fault.mismatch (.repeatedField key) (afterObjectEnd cs))
        else
          match passColon cs with
          | .error f => .error f
          | .ok ((), cs) =>
            match field.value.read depth cs with
            | .error f => .error f
            | .ok (set, cs) => readFields fields depth fuel false (key :: seen) (set s) cs

/-- The fields of a record written in order as a list, up to its end; `ended` when the list has
already ended. -/
def readInOrder (expected : String) (depth : Nat) :
    List (Field σ) → (position : Nat) → (ended : Bool) → σ → List Char → Outcome σ
  | [], _, ended, s, cs => if ended then .ok (s, cs) else (closeList cs).map fun (_, cs) => (s, cs)
  | field :: fields, position, ended, s, cs =>
    match (if ended then .ok (false, cs) else nextItem (position == 0) cs : Outcome Bool) with
    | .error f => .error f
    | .ok (true, cs) =>
      match field.value.read depth cs with
      | .error f => .error f
      | .ok (set, cs) => readInOrder expected depth fields (position + 1) false (set s) cs
    | .ok (false, cs) =>
      if field.mandatory then .error (Fault.mismatch (.wrongLength position expected) cs)
      else readInOrder expected depth fields (position + 1) true s cs

/-- The fields of a record from those of an object, which has no repeated key. -/
def convertFields (fields : List (Field σ)) : List String → σ → Fields → Except Mismatch σ
  | seen, s, [] =>
    match Field.missing fields seen with
    | some name => .error (.missingField name)
    | none => .ok s
  | seen, s, (key, j) :: rest =>
    match Field.find? fields key with
    | none => convertFields fields seen s rest
    | some field =>
      if seen.contains key then .error (.repeatedField key)
      else
        match field.value.convert j with
        | .error m => .error m
        | .ok set => convertFields fields (key :: seen) (set s) rest

/-- The fields of a record from a list, with the items that are left over. -/
def convertInOrder (expected : String) :
    List (Field σ) → (position : Nat) → σ → List Json → Except Mismatch (σ × List Json)
  | [], _, s, js => .ok (s, js)
  | field :: fields, position, s, [] =>
    if field.mandatory then .error (.wrongLength position expected)
    else convertInOrder expected fields (position + 1) s []
  | field :: fields, position, s, j :: js =>
    match field.value.convert j with
    | .error m => .error m
    | .ok set => convertInOrder expected fields (position + 1) (set s) js

/-- A record: an object with its fields in any order, where other keys are passed over, or a list
of its fields in order. Fields that may be left out keep their value in `start`. -/
def record (name : String) (start : σ) (fields : List (Field σ)) : Decoder σ where
  read depth cs :=
    match skipBlanks cs with
    | '[' :: rest =>
      opening depth '[' rest fun depth rest =>
        readInOrder (expectedRecord ("struct " ++ name) fields.length) depth fields 0
          false start rest
    | '\x7b' :: rest =>
      opening depth '\x7b' rest fun depth rest =>
        readFields fields depth (rest.length + 1) true [] start rest
    | rest => .error (unexpected ("struct " ++ name) rest)
  convert
    | .list js =>
      match convertInOrder (expectedRecord ("struct " ++ name) fields.length) fields 0 start js with
      | .error m => .error m
      | .ok (s, []) => .ok s
      | .ok (_, _ :: _) => .error (.wrongLength js.length "fewer elements in array")
    | .object entries => convertFields fields [] start entries
    | j => .error (unexpectedValue ("struct " ++ name) j)

end Decoder

end ToolGate.Json

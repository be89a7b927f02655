/-
What can be wrong with a JSON text or value.

* `Malformation` — the text is not JSON.
* `Mismatch` — it is JSON, but not of the form that was asked for.
* `Fault` — a problem at a place of the text that is being read.
* `Error` — a problem with its line and column, if it has a place; `Error.kind` and
  `Error.message` are what the outside sees.
-/
import ToolGate.Json.Basic
import ToolGate.Decimal.Shortest
import ToolGate.Text.Quoted

namespace ToolGate.Json

/-- The ways in which a text fails to be JSON. -/
inductive Malformation where
  | endInList
  | endInObject
  | endInText
  | endInValue
  | expectedColon
  | expectedCommaOrListEnd
  | expectedCommaOrObjectEnd
  | expectedWord
  | expectedValue
  | invalidEscape
  | invalidNumber
  | numberOutOfRange
  | controlCharacter
  | keyNotText
  | loneSurrogate
  | unfinishedSurrogatePair
  | trailingComma
  | trailingCharacters
  | tooDeep
  deriving Repr, DecidableEq

/-- The text ended too early. -/
def Malformation.isEnd : Malformation → Bool
  | .endInList | .endInObject | .endInText | .endInValue => true
  | _ => false

/-- What a value turned out to be where something else was expected. -/
inductive Found where
  | null
  | boolean (value : Bool)
  | number (value : Number)
  | text (value : String)
  | list
  | object
  deriving Repr, DecidableEq

/-- The sort of a value. -/
def Found.ofValue : Json → Found
  | .null => .null
  | .boolean b => .boolean b
  | .number n => .number n
  | .text s => .text s
  | .list _ => .list
  | .object _ => .object

/-- The ways in which a JSON value fails to have an expected form. -/
inductive Mismatch where
  | wrongType (found : Found) (expected : String)
  | wrongValue (found : Found) (expected : String)
  | wrongLength (length : Nat) (expected : String)
  | unknownVariant (name : String) (known : List String)
  | missingField (name : String)
  | repeatedField (name : String)
  deriving Repr, DecidableEq

/-- Either kind of problem. -/
inductive Problem where
  | malformed (cause : Malformation)
  | mismatched (cause : Mismatch)
  deriving Repr, DecidableEq

/-- A place in a text: what is left to read, and how many bytes of that were looked at. -/
structure Place where
  rest : List Char
  ahead : Nat
  deriving Repr, DecidableEq

/-- A problem at a place. -/
structure Fault where
  problem : Problem
  place : Place
  deriving Repr, DecidableEq

/-- Malformed where the rest begins. -/
def Fault.here (cause : Malformation) (rest : List Char) : Fault :=
  ⟨.malformed cause, ⟨rest, 0⟩⟩

/-- Malformed at the next byte of the rest. -/
def Fault.next (cause : Malformation) (rest : List Char) : Fault :=
  ⟨.malformed cause, ⟨rest, 1⟩⟩

/-- Malformed after so many bytes of the rest. -/
def Fault.after (bytes : Nat) (cause : Malformation) (rest : List Char) : Fault :=
  ⟨.malformed cause, ⟨rest, bytes⟩⟩

/-- Of an unexpected form, noticed where the rest begins. -/
def Fault.mismatch (cause : Mismatch) (rest : List Char) : Fault :=
  ⟨.mismatched cause, ⟨rest, 0⟩⟩

/-! ## Positions -/

/-- A line, counted from one, and the bytes of it that lie before a place. -/
structure Position where
  line : Nat
  column : Nat
  deriving Repr, DecidableEq

/-- The position after one more character. -/
def Position.step (p : Position) (c : Char) : Position :=
  if c = '\n' then ⟨p.line + 1, 0⟩ else ⟨p.line, p.column + c.utf8Size⟩

/-- The position after so many more bytes of a text, or after all of it. -/
def Position.advance : Position → Nat → List Char → Position
  | p, _, [] => p
  | p, 0, _ => p
  | p, n + 1, c :: rest =>
    if c.utf8Size ≤ n + 1 then (p.step c).advance (n + 1 - c.utf8Size) rest
    else ⟨p.line, p.column + (n + 1)⟩

/-- The position of a place in a text. -/
def Place.position (text : List Char) (place : Place) : Position :=
  let passed := text.take (text.length - place.rest.length)
  (passed.foldl Position.step ⟨1, 0⟩).advance place.ahead place.rest

/-! ## What the outside sees -/

/-- A problem with its position, where it has one. -/
structure Error where
  problem : Problem
  position : Option Position
  deriving Repr, DecidableEq

/-- The error of a fault in a text. -/
def Error.ofFault (text : List Char) (f : Fault) : Error :=
  ⟨f.problem, some (f.place.position text)⟩

/-- The error of a mismatch that no text stands behind. -/
def Error.ofMismatch (m : Mismatch) : Error := ⟨.mismatched m, none⟩

/-- The three kinds of error: the text ended early, is not JSON, or is of another form. -/
inductive Error.Kind where
  | unfinished
  | malformed
  | mismatched
  deriving Repr, DecidableEq

/-- The kind of an error. -/
def Error.kind (e : Error) : Error.Kind :=
  match e.problem with
  | .malformed cause => if cause.isEnd then .unfinished else .malformed
  | .mismatched _ => .mismatched

/-- The wording of a malformation. -/
def Malformation.message : Malformation → String
  | .endInList => "EOF while parsing a list"
  | .endInObject => "EOF while parsing an object"
  | .endInText => "EOF while parsing a string"
  | .endInValue => "EOF while parsing a value"
  | .expectedColon => "expected `:`"
  | .expectedCommaOrListEnd => "expected `,` or `]`"
  | .expectedCommaOrObjectEnd => "expected `,` or `\x7d`"
  | .expectedWord => "expected ident"
  | .expectedValue => "expected value"
  | .invalidEscape => "invalid escape"
  | .invalidNumber => "invalid number"
  | .numberOutOfRange => "number out of range"
  | .controlCharacter => "control character (\\u0000-\\u001F) found while parsing a string"
  | .keyNotText => "key must be a string"
  | .loneSurrogate => "lone leading surrogate in hex escape"
  | .unfinishedSurrogatePair => "unexpected end of hex escape"
  | .trailingComma => "trailing comma"
  | .trailingCharacters => "trailing characters"
  | .tooDeep => "recursion limit exceeded"

/-- The digits of an integer. -/
def integerText (n : Int) : List Char :=
  match n with
  | .ofNat k => Decimal.digitsOf k
  | .negSucc k => '-' :: Decimal.digitsOf (k + 1)

/-- The wording of a sort of value. -/
def Found.message : Found → String
  | .null => "null"
  | .boolean b => "boolean `" ++ (if b then "true" else "false") ++ "`"
  | .number (.integer n) => "integer `" ++ String.ofList (integerText n) ++ "`"
  | .number (.real x) => "floating point `" ++ String.ofList x.render ++ "`"
  | .text s => "string " ++ Text.quoted s
  | .list => "sequence"
  | .object => "map"

/-- A name between backquotes. -/
def ticked (name : String) : String := "`" ++ name ++ "`"

/-- The names that would have been accepted. -/
def alternatives : List String → String
  | [] => "there are no variants"
  | [a] => "expected " ++ ticked a
  | [a, b] => "expected " ++ ticked a ++ " or " ++ ticked b
  | names => "expected one of " ++ String.intercalate ", " (names.map ticked)

/-- The wording of a mismatch. -/
def Mismatch.message : Mismatch → String
  | .wrongType found expected => "invalid type: " ++ found.message ++ ", expected " ++ expected
  | .wrongValue found expected => "invalid value: " ++ found.message ++ ", expected " ++ expected
  | .wrongLength n expected =>
    "invalid length " ++ String.ofList (Decimal.digitsOf n) ++ ", expected " ++ expected
  | .unknownVariant name known => "unknown variant " ++ ticked name ++ ", " ++ alternatives known
  | .missingField name => "missing field " ++ ticked name
  | .repeatedField name => "duplicate field " ++ ticked name

/-- The wording of a problem. -/
def Problem.message : Problem → String
  | .malformed cause => cause.message
  | .mismatched cause => cause.message

/-- The wording of an error, with its position where it has one. -/
def Error.message (e : Error) : String :=
  match e.position with
  | none => e.problem.message
  | some p =>
    e.problem.message ++ " at line " ++ String.ofList (Decimal.digitsOf p.line) ++
      " column " ++ String.ofList (Decimal.digitsOf p.column)

end ToolGate.Json

/-
Ids of requests for approval: 128 bits, written as 32 hexadecimal digits in groups of 8, 4, 4, 4
and 12.

* `RequestId.render` — the written form, in lower case.
* `RequestId.scan` — an id in groups at the start of some characters, in any case.
* `RequestId.parse?` — a whole text that is an id in one of its usual forms.
* `RequestId.random` — the id of 128 random bits, marked as one of that kind.
-/
import ToolGate.Json.Scan

namespace ToolGate

/-- The id of a request. -/
structure RequestId where
  bits : BitVec 128
  deriving Repr, DecidableEq, Inhabited

namespace RequestId

/-- So many hexadecimal digits of a number, the lowest ones. -/
def hexDigits : Nat → Nat → List Char
  | 0, _ => []
  | count + 1, n => hexDigits count (n / 16) ++ [Nat.digitChar (n % 16)]

/-- The lengths of the groups. -/
def groups : List Nat := [8, 4, 4, 4, 12]

/-- Digits in groups with hyphens between them. -/
def hyphenate : List Nat → List Char → List Char
  | [], _ => []
  | [n], ds => ds.take n
  | n :: ns, ds => ds.take n ++ '-' :: hyphenate ns (ds.drop n)

/-- The characters of the written form. -/
def toChars (id : RequestId) : List Char := hyphenate groups (hexDigits 32 id.bits.toNat)

/-- The written form. -/
def render (id : RequestId) : String := String.ofList id.toChars

instance : ToString RequestId := ⟨render⟩

/-- Append so many hexadecimal digits to a number. -/
def scanDigits : Nat → Nat → List Char → Option (Nat × List Char)
  | 0, n, cs => some (n, cs)
  | _ + 1, _, [] => none
  | count + 1, n, c :: cs =>
    match Json.hexValue? c with
    | some d => scanDigits count (n * 16 + d) cs
    | none => none

/-- Append groups of hexadecimal digits, with hyphens between them, to a number. -/
def scanGroups : List Nat → Nat → List Char → Option (Nat × List Char)
  | [], n, cs => some (n, cs)
  | [count], n, cs => scanDigits count n cs
  | count :: counts, n, cs =>
    match scanDigits count n cs with
    | some (n, '-' :: cs) => scanGroups counts n cs
    | _ => none

/-- The id of a number. -/
def ofNat (n : Nat) : RequestId := ⟨BitVec.ofNat 128 n⟩

/-- An id in groups, with what follows it. -/
def scan (cs : List Char) : Option (RequestId × List Char) :=
  (scanGroups groups 0 cs).map fun (n, cs) => (ofNat n, cs)

/-- An id and nothing more. -/
def whole : Option (Nat × List Char) → Option RequestId
  | some (n, []) => some (ofNat n)
  | _ => none

/-- The id that a text is: in groups, between braces, after `urn:uuid:`, or without hyphens. -/
def parse? (text : String) : Option RequestId :=
  match text.toList with
  | '\x7b' :: cs =>
    match scanGroups groups 0 cs with
    | some (n, ['\x7d']) => some (ofNat n)
    | _ => none
  | 'u' :: 'r' :: 'n' :: ':' :: 'u' :: 'u' :: 'i' :: 'd' :: ':' :: cs =>
    whole (scanGroups groups 0 cs)
  | cs => whole (scanGroups groups 0 cs) <|> whole (scanDigits 32 0 cs)

/-- The id of 128 random bits: those that tell the kind and the variant are set. -/
def random (bits : BitVec 128) : RequestId :=
  let kind : BitVec 128 := (0x4 : BitVec 128) <<< 76
  let variant : BitVec 128 := (0x2 : BitVec 128) <<< 62
  let kept : BitVec 128 := ~~~(((0xF : BitVec 128) <<< 76) ||| ((0x3 : BitVec 128) <<< 62))
  ⟨(bits &&& kept) ||| kind ||| variant⟩

end RequestId

end ToolGate

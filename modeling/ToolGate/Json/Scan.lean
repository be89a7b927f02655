/-
The tokens of a JSON text: blanks, words, texts, numbers.

Each scanner takes the characters that are left, after the character that told it apart where
there is one, and gives what it read with the characters after that.
-/
import ToolGate.Json.Error

namespace ToolGate.Json

/-- What a reader gives: a value and the characters after it, or the fault that stopped it. -/
abbrev Outcome (α : Type) := Except Fault (α × List Char)

/-- A blank between tokens. -/
def isBlank (c : Char) : Bool := c = ' ' || c = '\n' || c = '\t' || c = '\r'

/-- Without the blanks at the start. -/
def skipBlanks : List Char → List Char
  | [] => []
  | c :: cs => if isBlank c then skipBlanks cs else c :: cs

/-- Pass over the rest of a word. -/
def scanWord : List Char → List Char → Outcome Unit
  | [], cs => .ok ((), cs)
  | _ :: _, [] => .error (Fault.here .endInValue [])
  | w :: ws, c :: cs =>
    if w = c then scanWord ws cs else .error (Fault.after 1 .expectedWord (c :: cs))

/-! ## Texts -/

/-- The value of a hexadecimal digit. -/
def hexValue? (c : Char) : Option Nat :=
  if '0' ≤ c ∧ c ≤ '9' then some (c.toNat - '0'.toNat)
  else if 'a' ≤ c ∧ c ≤ 'f' then some (c.toNat - 'a'.toNat + 10)
  else if 'A' ≤ c ∧ c ≤ 'F' then some (c.toNat - 'A'.toNat + 10)
  else none

/-- How many bytes a text takes. -/
def byteCount : List Char → Nat
  | [] => 0
  | c :: cs => c.utf8Size + byteCount cs

/-- Four hexadecimal digits. -/
def scanHex4 (cs : List Char) : Outcome Nat :=
  let spoiled :=
    if byteCount cs < 4 then Fault.here .endInText [] else Fault.after 4 .invalidEscape cs
  match cs with
  | a :: b :: c :: d :: rest =>
    match hexValue? a, hexValue? b, hexValue? c, hexValue? d with
    | some a, some b, some c, some d => .ok (((a * 16 + b) * 16 + c) * 16 + d, rest)
    | _, _, _, _ => .error spoiled
  | _ => .error spoiled

/-- A code unit that opens a pair. -/
def isHighSurrogate (n : Nat) : Bool := 0xD800 ≤ n && n ≤ 0xDBFF

/-- A code unit that closes a pair. -/
def isLowSurrogate (n : Nat) : Bool := 0xDC00 ≤ n && n ≤ 0xDFFF

/-- A character written by its code unit, or by a pair of them. -/
def scanCodeUnits (cs : List Char) : Outcome Char :=
  match scanHex4 cs with
  | .error f => .error f
  | .ok (n, cs) =>
    if isLowSurrogate n then .error (Fault.here .loneSurrogate cs)
    else if isHighSurrogate n then
      match cs with
      | [] => .error (Fault.here .endInText [])
      | '\\' :: [] => .error (Fault.here .endInText [])
      | '\\' :: 'u' :: cs =>
        match scanHex4 cs with
        | .error f => .error f
        | .ok (m, cs) =>
          if isLowSurrogate m then
            .ok (Char.ofNat (0x10000 + (n - 0xD800) * 0x400 + (m - 0xDC00)), cs)
          else .error (Fault.here .loneSurrogate cs)
      | '\\' :: cs => .error (Fault.after 1 .unfinishedSurrogatePair cs)
      | cs => .error (Fault.after 1 .unfinishedSurrogatePair cs)
    else .ok (Char.ofNat n, cs)

/-- The character that a single letter after a backslash stands for. -/
def simpleEscape? (c : Char) : Option Char :=
  if c = '"' ∨ c = '\\' ∨ c = '/' then some c
  else if c = 'b' then some '\x08'
  else if c = 'f' then some '\x0c'
  else if c = 'n' then some '\n'
  else if c = 'r' then some '\r'
  else if c = 't' then some '\t'
  else none

/-- The character that an escape stands for, after its backslash. -/
def scanEscape : List Char → Outcome Char
  | [] => .error (Fault.here .endInText [])
  | c :: cs =>
    if c = 'u' then scanCodeUnits cs
    else
      match simpleEscape? c with
      | some d => .ok (d, cs)
      | none => .error (Fault.after 1 .invalidEscape (c :: cs))

/-- The characters of a text after its opening quote. -/
def scanChars : Nat → List Char → Outcome (List Char)
  | 0, cs => .error (Fault.here .endInText cs)
  | _ + 1, [] => .error (Fault.here .endInText [])
  | fuel + 1, c :: cs =>
    if c = '"' then .ok ([], cs)
    else if c = '\\' then
      match scanEscape cs with
      | .error f => .error f
      | .ok (d, cs) => (scanChars fuel cs).map fun (ds, cs) => (d :: ds, cs)
    else if c.toNat < 0x20 then .error (Fault.after 1 .controlCharacter (c :: cs))
    else (scanChars fuel cs).map fun (ds, cs) => (c :: ds, cs)

/-- A text after its opening quote. -/
def scanText (cs : List Char) : Outcome String :=
  (scanChars (cs.length + 1) cs).map fun (ds, cs) => (String.ofList ds, cs)

/-- Pass over a text after its opening quote. Escapes of code units are not put together. -/
def skipText : Nat → List Char → Outcome Unit
  | 0, cs => .error (Fault.here .endInText cs)
  | _ + 1, [] => .error (Fault.here .endInText [])
  | fuel + 1, c :: cs =>
    if c = '"' then .ok ((), cs)
    else if c = '\\' then
      match cs with
      | [] => .error (Fault.here .endInText [])
      | 'u' :: cs =>
        match scanHex4 cs with
        | .error f => .error f
        | .ok (_, cs) => skipText fuel cs
      | d :: rest =>
        match simpleEscape? d with
        | some _ => skipText fuel rest
        | none => .error (Fault.after 1 .invalidEscape (d :: rest))
    else if c.toNat < 0x20 then .error (Fault.here .controlCharacter (c :: cs))
    else skipText fuel cs

/-! ## Numbers -/

/-- The value of a decimal digit. -/
def digitValue (c : Char) : Nat := c.toNat - '0'.toNat

/-- The digits at the start. -/
def leadingDigits (cs : List Char) : List Char := cs.takeWhile Char.isDigit

/-- What follows the digits at the start. -/
def afterDigits (cs : List Char) : List Char := cs.dropWhile Char.isDigit

/-- The largest significand: digits that would take it further are dropped. -/
def maxSignificand : Nat := Nat.pow 2 64 - 1

/-- The largest written exponent. -/
def maxWrittenExponent : Nat := Nat.pow 2 31 - 1

/-- Append digits to a number while it stays within the limit; the digits left over follow. -/
def absorb (limit : Nat) : Nat → List Char → Nat × List Char
  | n, [] => (n, [])
  | n, d :: ds =>
    if n * 10 + digitValue d ≤ limit then absorb limit (n * 10 + digitValue d) ds else (n, d :: ds)

/-- The real number of a numeral, unless it is too large. -/
def realNumber (negative : Bool) (significand : Nat) (exponent : Int) (cs : List Char) :
    Outcome Number :=
  match Decimal.Binary64.ofDecimal negative significand exponent with
  | some x => .ok (.real x, cs)
  | none => .error (Fault.here .numberOutOfRange cs)

/-- A numeral from its exponent on, after the letter. An exponent too large to be held makes the
number too large or zero. -/
def scanExponent (negative : Bool) (significand : Nat) (exponent : Int) (cs : List Char) :
    Outcome Number :=
  let (down, cs) := match cs with
    | '+' :: rest => (false, rest)
    | '-' :: rest => (true, rest)
    | rest => (false, rest)
  match cs with
  | [] => .error (Fault.here .endInValue [])
  | c :: _ =>
    if !c.isDigit then .error (Fault.after 1 .invalidNumber cs)
    else
      match absorb maxWrittenExponent 0 (leadingDigits cs) with
      | (e, []) => realNumber negative significand (if down then exponent - e else exponent + e)
        (afterDigits cs)
      | (_, _ :: excess) =>
        if significand ≠ 0 && !down then
          .error (Fault.here .numberOutOfRange (excess ++ afterDigits cs))
        else realNumber negative 0 0 (afterDigits cs)

/-- A numeral from its fraction on, after the point. -/
def scanFraction (negative : Bool) (significand : Nat) (exponent : Int) (cs : List Char) :
    Outcome Number :=
  let ds := leadingDigits cs
  match ds, afterDigits cs with
  | [], [] => .error (Fault.here .endInValue [])
  | [], rest => .error (Fault.next .invalidNumber rest)
  | _, rest =>
    let (s, dropped) := absorb maxSignificand significand ds
    let e := exponent - (ds.length - dropped.length : Nat)
    match rest with
    | [] => realNumber negative s e []
    | c :: cs =>
      if c = 'e' ∨ c = 'E' then scanExponent negative s e cs else realNumber negative s e (c :: cs)

/-- An integer, where it fits 64 bits with its sign; otherwise, and for the negative zero, a real
number. -/
def wholeNumber (negative : Bool) (n : Nat) (cs : List Char) : Outcome Number :=
  if !negative then .ok (.integer n, cs)
  else if 0 < n ∧ n ≤ Nat.pow 2 63 then .ok (.integer (-n), cs)
  else realNumber true n 0 cs

/-- A number after its sign. -/
def scanNumber (negative : Bool) (cs : List Char) : Outcome Number :=
  match cs with
  | [] => .error (Fault.here .endInValue [])
  | c :: rest =>
    if !c.isDigit then .error (Fault.after 1 .invalidNumber cs)
    else if c = '0' ∧ leadingDigits rest ≠ [] then .error (Fault.next .invalidNumber rest)
    else
      let (n, dropped) := absorb maxSignificand 0 (leadingDigits cs)
      let continued := match afterDigits cs with
        | [] => none
        | '.' :: rest => some (scanFraction negative n dropped.length rest)
        | c :: rest =>
          if c = 'e' ∨ c = 'E' then some (scanExponent negative n dropped.length rest) else none
      match continued, dropped with
      | some outcome, _ => outcome
      | none, [] => wholeNumber negative n (afterDigits cs)
      | none, _ => realNumber negative n dropped.length (afterDigits cs)

/-- Pass over an exponent after its letter. -/
def skipExponent (cs : List Char) : Outcome Unit :=
  let cs := match cs with
    | '+' :: rest => rest
    | '-' :: rest => rest
    | rest => rest
  match cs with
  | [] => .error (Fault.here .invalidNumber [])
  | c :: _ =>
    if c.isDigit then .ok ((), afterDigits cs) else .error (Fault.after 1 .invalidNumber cs)

/-- Pass over a number after its sign, whatever its size. -/
def skipNumber (cs : List Char) : Outcome Unit :=
  match cs with
  | [] => .error (Fault.here .invalidNumber [])
  | c :: rest =>
    if !c.isDigit then .error (Fault.after 1 .invalidNumber cs)
    else if c = '0' ∧ leadingDigits rest ≠ [] then .error (Fault.next .invalidNumber rest)
    else
      match afterDigits cs with
      | '.' :: rest =>
        if leadingDigits rest = [] then .error (Fault.next .invalidNumber rest)
        else
          match afterDigits rest with
          | c :: more => if c = 'e' ∨ c = 'E' then skipExponent more else .ok ((), c :: more)
          | [] => .ok ((), [])
      | c :: rest => if c = 'e' ∨ c = 'E' then skipExponent rest else .ok ((), c :: rest)
      | [] => .ok ((), [])

end ToolGate.Json

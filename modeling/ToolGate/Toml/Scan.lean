/-
The tokens of a TOML text: blanks, comments, keys, strings, numbers, dates and times.

Each scanner gives what it read with the characters after that, or nothing if the text is not
well-formed there.
-/
import ToolGate.Json.Scan
import ToolGate.Toml.Basic

namespace ToolGate.Toml

/-- A blank within a line. -/
def isBlank (c : Char) : Bool := c = ' ' || c = '\t'

/-- Without the blanks at the start. -/
def skipBlanks (cs : List Char) : List Char := cs.dropWhile isBlank

/-- A character that may stand in a comment. -/
def isCommentChar (c : Char) : Bool := c = '\t' || (0x20 ≤ c.toNat && c.toNat != 0x7F)

/-- What follows the end of a line, if one is here. -/
def afterLineEnd? : List Char → Option (List Char)
  | '\n' :: cs => some cs
  | '\r' :: '\n' :: cs => some cs
  | _ => none

/-- Without a comment, if one starts here. -/
def skipComment : List Char → List Char
  | '#' :: cs => cs.dropWhile isCommentChar
  | cs => cs

/-- What follows the rest of a line on which nothing but blanks and a comment may stand. -/
def finishLine (cs : List Char) : Option (List Char) :=
  match skipComment (skipBlanks cs) with
  | [] => some []
  | cs => afterLineEnd? cs

/-- Without blanks, comments and line ends. A comment has to end with its line. -/
def skipLines : Nat → List Char → Option (List Char)
  | 0, cs => some cs
  | fuel + 1, cs =>
    match skipBlanks cs with
    | '#' :: rest =>
      match afterLineEnd? (rest.dropWhile isCommentChar) with
      | some rest => skipLines fuel rest
      | none => none
    | cs =>
      match afterLineEnd? cs with
      | some rest => skipLines fuel rest
      | none => some cs

/-! ## Strings -/

/-- A character that stands for itself in a string. -/
def isPlain (c : Char) : Bool := c = '\t' || (0x20 ≤ c.toNat && c.toNat != 0x7F)

/-- So many hexadecimal digits. -/
def scanHex : Nat → Nat → List Char → Option (Nat × List Char)
  | 0, n, cs => some (n, cs)
  | _ + 1, _, [] => none
  | count + 1, n, c :: cs =>
    match Json.hexValue? c with
    | some d => scanHex count (n * 16 + d) cs
    | none => none

/-- The character of a code point, if it is one of a character. -/
def charOf? (n : Nat) : Option Char :=
  if n < 0xD800 ∨ (0xDFFF < n ∧ n ≤ 0x10FFFF) then some (Char.ofNat n) else none

/-- A character written by so many hexadecimal digits. -/
def scanCodePoint (count : Nat) (cs : List Char) : Option (Char × List Char) := do
  let (n, cs) ← scanHex count 0 cs
  let c ← charOf? n
  some (c, cs)

/-- The character that an escape stands for, after its backslash. -/
def scanEscape : List Char → Option (Char × List Char)
  | 'b' :: cs => some ('\x08', cs)
  | 't' :: cs => some ('\t', cs)
  | 'n' :: cs => some ('\n', cs)
  | 'f' :: cs => some ('\x0c', cs)
  | 'r' :: cs => some ('\r', cs)
  | '"' :: cs => some ('"', cs)
  | '\\' :: cs => some ('\\', cs)
  | 'u' :: cs => scanCodePoint 4 cs
  | 'U' :: cs => scanCodePoint 8 cs
  | _ => none

/-- A string in double quotes, after the first. -/
def scanBasic : Nat → List Char → Option (List Char × List Char)
  | 0, _ => none
  | _ + 1, [] => none
  | fuel + 1, c :: cs =>
    if c = '"' then some ([], cs)
    else if c = '\\' then do
      let (d, cs) ← scanEscape cs
      let (ds, cs) ← scanBasic fuel cs
      some (d :: ds, cs)
    else if isPlain c then do
      let (ds, cs) ← scanBasic fuel cs
      some (c :: ds, cs)
    else none

/-- A string in single quotes, after the first. -/
def scanLiteral : List Char → Option (List Char × List Char)
  | [] => none
  | c :: cs =>
    if c = '\'' then some ([], cs)
    else if isPlain c then do
      let (ds, cs) ← scanLiteral cs
      some (c :: ds, cs)
    else none

/-- Quotes that end a string of several lines: three, and up to two more that belong to it. -/
def closingQuotes (quote : Char) (cs : List Char) : Option (Option (List Char × List Char)) :=
  let count := (cs.takeWhile (· == quote)).length
  if count < 3 then none
  else if count ≤ 5 then some (some (List.replicate (count - 3) quote, cs.drop count))
  else some none

/-- Without blanks and line ends. -/
def skipSpace : List Char → List Char
  | [] => []
  | c :: cs =>
    if isBlank c || c = '\n' then skipSpace cs
    else
      match c, cs with
      | '\r', '\n' :: rest => skipSpace rest
      | _, _ => c :: cs

/-- A string in three double quotes, after the first three. A backslash before a line end takes
away the space that follows. Line ends become line feeds. -/
def scanLongBasic : Nat → List Char → Option (List Char × List Char)
  | 0, _ => none
  | _ + 1, [] => none
  | fuel + 1, c :: cs =>
    match closingQuotes '"' (c :: cs) with
    | some outcome => outcome
    | none =>
      match afterLineEnd? (c :: cs) with
      | some rest => do
        let (ds, cs) ← scanLongBasic fuel rest
        some ('\n' :: ds, cs)
      | none =>
        if c = '\\' then
          match afterLineEnd? (skipBlanks cs) with
          | some rest => scanLongBasic fuel (skipSpace rest)
          | none => do
            let (d, cs) ← scanEscape cs
            let (ds, cs) ← scanLongBasic fuel cs
            some (d :: ds, cs)
        else if isPlain c then do
          let (ds, cs) ← scanLongBasic fuel cs
          some (c :: ds, cs)
        else none

/-- A string in three single quotes, after the first three. Line ends become line feeds. -/
def scanLongLiteral : Nat → List Char → Option (List Char × List Char)
  | 0, _ => none
  | _ + 1, [] => none
  | fuel + 1, c :: cs =>
    match closingQuotes '\'' (c :: cs) with
    | some outcome => outcome
    | none =>
      match afterLineEnd? (c :: cs) with
      | some rest => do
        let (ds, cs) ← scanLongLiteral fuel rest
        some ('\n' :: ds, cs)
      | none =>
        if isPlain c then do
          let (ds, cs) ← scanLongLiteral fuel cs
          some (c :: ds, cs)
        else none

/-- Without a line end right after the quotes that open a string of several lines. -/
def afterOpening (cs : List Char) : List Char := (afterLineEnd? cs).getD cs

/-- A string of either kind, on one line or on several. -/
def scanString (cs : List Char) : Option (String × List Char) :=
  let outcome := match cs with
    | '"' :: '"' :: '"' :: rest => scanLongBasic (rest.length + 1) (afterOpening rest)
    | '"' :: rest => scanBasic (rest.length + 1) rest
    | '\'' :: '\'' :: '\'' :: rest => scanLongLiteral (rest.length + 1) (afterOpening rest)
    | '\'' :: rest => scanLiteral rest
    | _ => none
  outcome.map fun (s, cs) => (String.ofList s, cs)

/-! ## Keys -/

/-- A character of a key without quotes. -/
def isKeyChar (c : Char) : Bool := c.isAlphanum || c = '_' || c = '-'

/-- One part of a key. -/
def scanSimpleKey (cs : List Char) : Option (String × List Char) :=
  match cs with
  | '"' :: rest => (scanBasic (rest.length + 1) rest).map fun (s, cs) => (String.ofList s, cs)
  | '\'' :: rest => (scanLiteral rest).map fun (s, cs) => (String.ofList s, cs)
  | cs =>
    match cs.takeWhile isKeyChar with
    | [] => none
    | s => some (String.ofList s, cs.dropWhile isKeyChar)

/-- The parts of a key with dots between them, and blanks around each. -/
def scanKeyParts : Nat → List Char → Option (List String × List Char)
  | 0, _ => none
  | fuel + 1, cs => do
    let (part, cs) ← scanSimpleKey (skipBlanks cs)
    match skipBlanks cs with
    | '.' :: rest => do
      let (parts, cs) ← scanKeyParts fuel rest
      some (part :: parts, cs)
    | cs => some ([part], cs)

/-- How many levels of tables and lists, or parts of a key, there may be. -/
def maxDepth : Nat := 79

/-- A key: the parts before the last, and the last. -/
def scanKey (cs : List Char) : Option ((List String × String) × List Char) := do
  let (parts, cs) ← scanKeyParts (cs.length + 1) cs
  if parts.length ≤ maxDepth then
    let last ← parts.getLast?
    some ((parts.dropLast, last), cs)
  else none

/-! ## Numbers -/

/-- More digits that pass a test. An underscore has a digit after it. -/
def scanMoreDigits (p : Char → Bool) : List Char → Option (List Char × List Char)
  | [] => some ([], [])
  | '_' :: [] => none
  | '_' :: d :: cs =>
    if p d then (scanMoreDigits p cs).map fun (ds, cs) => (d :: ds, cs) else none
  | c :: cs =>
    if p c then (scanMoreDigits p cs).map fun (ds, cs) => (c :: ds, cs) else some ([], c :: cs)

/-- Digits that pass a test, with single underscores between them. -/
def scanDigits (p : Char → Bool) : List Char → Option (List Char × List Char)
  | [] => none
  | c :: cs => if p c then (scanMoreDigits p cs).map fun (ds, cs) => (c :: ds, cs) else none

/-- A sign, if there is one. -/
def scanSign : List Char → Option Bool × List Char
  | '+' :: cs => (some false, cs)
  | '-' :: cs => (some true, cs)
  | cs => (none, cs)

/-- The digits of a decimal integer, which do not start with a zero unless that is all. -/
def scanDecimal (cs : List Char) : Option (List Char × List Char) :=
  match cs with
  | '0' :: rest => some (['0'], rest)
  | cs => scanDigits Char.isDigit cs

/-- The value of digits in a base. -/
def valueOf (base : Nat) (ds : List Char) : Nat :=
  ds.foldl (fun n c => n * base + (Json.hexValue? c).getD 0) 0

/-- An integer within 64 bits. -/
def integerOf? (n : Int) : Option Toml :=
  if -9223372036854775808 ≤ n ∧ n < 9223372036854775808 then some (.integer n) else none

/-- An integer. -/
def scanInteger (cs : List Char) : Option (Toml × List Char) :=
  let inBase (base : Nat) (p : Char → Bool) (rest : List Char) : Option (Toml × List Char) := do
    let (ds, cs) ← scanDigits p rest
    let n ← integerOf? (valueOf base ds)
    some (n, cs)
  match cs with
  | '0' :: 'x' :: rest => inBase 16 (fun c => (Json.hexValue? c).isSome) rest
  | '0' :: 'o' :: rest => inBase 8 (fun c => '0' ≤ c && c ≤ '7') rest
  | '0' :: 'b' :: rest => inBase 2 (fun c => c == '0' || c == '1') rest
  | cs => do
    let (sign, cs) := scanSign cs
    let (ds, cs) ← scanDecimal cs
    let n : Int := valueOf 10 ds
    let n ← integerOf? (if sign == some true then -n else n)
    some (n, cs)

/-- The magnitude nearest to a significand of so many digits times a power of ten, unless it is too
large. Far out, the power need not be computed. -/
def magnitudeOf (significand : Nat) (digits : Nat) (exponent : Int) : Option Decimal.Magnitude :=
  if significand = 0 then some Decimal.Magnitude.zero
  else if 400 < digits + exponent then none
  else if digits + exponent < -400 then some Decimal.Magnitude.zero
  else if 0 ≤ exponent then Decimal.Magnitude.roundRatio (significand * Nat.pow 10 exponent.toNat) 1
  else Decimal.Magnitude.roundRatio significand (Nat.pow 10 (-exponent).toNat)

/-- A number that is too large counts as infinite; only negative ones may be that. -/
def realOf? (negative : Bool) (ds fraction : List Char) (exponent : Int) : Option Toml :=
  let all := (ds ++ fraction).dropWhile (· == '0')
  match magnitudeOf (valueOf 10 all) all.length (exponent - fraction.length) with
  | some m => some (.real (.finite ⟨negative, m⟩))
  | none => if negative then some (.real (.infinite true)) else none

/-- An exponent after its letter. -/
def scanExponent (cs : List Char) : Option (Int × List Char) := do
  let (sign, cs) := scanSign cs
  let (ds, cs) ← scanDigits Char.isDigit cs
  let n : Int := valueOf 10 ds
  some (if sign == some true then -n else n, cs)

/-- A real number with digits: a fraction, an exponent, or both follow the integer part. -/
def scanReal (cs : List Char) : Option (Toml × List Char) := do
  let (sign, cs) := scanSign cs
  let negative := sign == some true
  match cs with
  | 'i' :: 'n' :: 'f' :: rest => some (.real (.infinite negative), rest)
  | 'n' :: 'a' :: 'n' :: rest => some (.real .notANumber, rest)
  | cs => do
    let (ds, cs) ← scanDecimal cs
    match cs with
    | '.' :: rest => do
      let (fraction, cs) ← scanDigits Char.isDigit rest
      match cs with
      | c :: rest =>
        if c = 'e' ∨ c = 'E' then do
          let (e, cs) ← scanExponent rest
          let x ← realOf? negative ds fraction e
          some (x, cs)
        else do
          let x ← realOf? negative ds fraction 0
          some (x, c :: rest)
      | [] => do
        let x ← realOf? negative ds fraction 0
        some (x, [])
    | c :: rest =>
      if c = 'e' ∨ c = 'E' then do
        let (e, cs) ← scanExponent rest
        let x ← realOf? negative ds [] e
        some (x, cs)
      else none
    | [] => none

/-! ## Dates and times -/

/-- A number of exactly so many digits within bounds. -/
def scanField (count low high : Nat) (cs : List Char) : Option (Nat × List Char) :=
  let ds := cs.take count
  if ds.length = count && ds.all Char.isDigit then
    let n := valueOf 10 ds
    if low ≤ n ∧ n ≤ high then some (n, cs.drop count) else none
  else none

/-- What follows a character. -/
def expect (p : Char → Bool) : List Char → Option (List Char)
  | [] => none
  | c :: cs => if p c then some cs else none

/-- The days of a month. -/
def daysOf (year month : Nat) : Nat :=
  if month = 2 then
    if year % 4 = 0 ∧ (year % 100 ≠ 0 ∨ year % 400 = 0) then 29 else 28
  else if month = 4 ∨ month = 6 ∨ month = 9 ∨ month = 11 then 30
  else 31

/-- A date. -/
def scanDate (cs : List Char) : Option (List Char) := do
  let (year, cs) ← scanField 4 0 9999 cs
  let cs ← expect (· == '-') cs
  let (month, cs) ← scanField 2 1 12 cs
  let cs ← expect (· == '-') cs
  let (_, cs) ← scanField 2 1 (daysOf year month) cs
  some cs

/-- A time of day, with a fraction of any length. -/
def scanTime (cs : List Char) : Option (List Char) := do
  let (_, cs) ← scanField 2 0 23 cs
  let cs ← expect (· == ':') cs
  let (_, cs) ← scanField 2 0 59 cs
  let cs ← expect (· == ':') cs
  let (_, cs) ← scanField 2 0 60 cs
  match cs with
  | '.' :: c :: rest =>
    if c.isDigit then some ((c :: rest).dropWhile Char.isDigit) else some cs
  | cs => some cs

/-- An offset from universal time. -/
def scanOffset (cs : List Char) : Option (List Char) :=
  match cs with
  | 'Z' :: rest => some rest
  | 'z' :: rest => some rest
  | cs => do
    let cs ← expect (fun c => c == '+' || c == '-') cs
    let (_, cs) ← scanField 2 0 23 cs
    let cs ← expect (· == ':') cs
    let (_, cs) ← scanField 2 0 59 cs
    some cs

/-- A time of day after a date and a separator. -/
def scanTimeAfterDate (cs : List Char) : Option (List Char) := do
  let cs ← expect (fun c => c == 'T' || c == 't' || c == ' ') cs
  let cs ← scanTime cs
  some ((scanOffset cs).getD cs)

/-- A date, a time of day, or both. -/
def scanMoment (cs : List Char) : Option (Toml × List Char) :=
  let written (rest : List Char) : Toml :=
    .moment (String.ofList (cs.take (cs.length - rest.length)))
  match scanDate cs with
  | some rest =>
    let rest := (scanTimeAfterDate rest).getD rest
    some (written rest, rest)
  | none => (scanTime cs).map fun rest => (written rest, rest)

end ToolGate.Toml

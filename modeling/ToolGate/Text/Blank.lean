/-
Blank characters and the trimming they allow.

* `isBlank` — the White_Space property, all 25 code points of it.
* `trimStart`, `trimEnd`, `trim` — without the blanks at an end.
* `lines` — a text cut at its line ends, where a carriage return before the line feed
  belongs to the line end.

Scanning is done on lists of characters; the `String` versions only convert.
-/

namespace ToolGate.Text

/-- The character has the White_Space property. -/
def isBlank (c : Char) : Bool :=
  let n := c.toNat
  (9 ≤ n && n ≤ 13) || n == 0x20 || n == 0x85 || n == 0xA0 || n == 0x1680 ||
    (0x2000 ≤ n && n ≤ 0x200A) || n == 0x2028 || n == 0x2029 || n == 0x202F ||
    n == 0x205F || n == 0x3000

/-- Without the leading characters that pass the test. -/
def dropStart (p : Char → Bool) (cs : List Char) : List Char :=
  cs.dropWhile p

/-- Without the trailing characters that pass the test. -/
def dropEnd (p : Char → Bool) (cs : List Char) : List Char :=
  (cs.reverse.dropWhile p).reverse

/-- Without leading blanks. -/
def trimStart (cs : List Char) : List Char := dropStart isBlank cs

/-- Without trailing blanks. -/
def trimEnd (cs : List Char) : List Char := dropEnd isBlank cs

/-- Without leading and trailing blanks. -/
def trim (cs : List Char) : List Char := trimEnd (trimStart cs)

/-- A text without leading and trailing blanks. -/
def trimText (s : String) : String := String.ofList (trim s.toList)

/-- What follows a required start, if the text has it. -/
def afterStart? : List Char → List Char → Option (List Char)
  | [], cs => some cs
  | _ :: _, [] => none
  | p :: ps, c :: cs => if p = c then afterStart? ps cs else none

/-- What precedes a required end, if the text has it. -/
def beforeEnd? (ending cs : List Char) : Option (List Char) :=
  (afterStart? ending.reverse cs.reverse).map List.reverse

/-- The lines of a text after the characters `current` (latest first) of its first line. A line
feed ends a line, together with a carriage return before it; text after the last line feed is a
line of its own unless it is empty. -/
def linesFrom (current : List Char) : List Char → List (List Char)
  | [] => if current.isEmpty then [] else [current.reverse]
  | '\n' :: rest =>
    (match current with
      | '\r' :: line => line.reverse
      | line => line.reverse) :: linesFrom [] rest
  | c :: rest => linesFrom (c :: current) rest

/-- The lines of a text. -/
def lines (cs : List Char) : List (List Char) := linesFrom [] cs

end ToolGate.Text

/-
Sets of code points, kept as ascending ranges.

* `CodeSet` — a list of closed ranges of code points; `ofRanges` brings any list of
  ranges into ascending order and joins ranges that touch.
* `union`, `complement`, `inter`, `diff`, `symmDiff` — the set operations a pattern's
  bracketed class is built from.
* `decode` — reads a set from the compact text the property tables are written in.

Surrogates are not characters, so a range may run over them without changing the set.
-/

namespace ToolGate.Unicode

/-- The largest code point. -/
def maxCode : Nat := 0x10FFFF

/-- A set of code points: closed ranges, ascending, with a gap between neighbours. -/
structure CodeSet where
  ranges : List (Nat × Nat)
  deriving Repr, DecidableEq, Inhabited

namespace CodeSet

/-- The set without members. -/
def empty : CodeSet := ⟨[]⟩

/-- All code points. -/
def all : CodeSet := ⟨[(0, maxCode)]⟩

/-- One code point lies in one of the ranges. -/
def contains (s : CodeSet) (n : Nat) : Bool :=
  s.ranges.any fun r => r.1 ≤ n && n ≤ r.2

/-- A character lies in the set when its code point does. -/
def mem (s : CodeSet) (c : Char) : Bool :=
  s.contains c.toNat

/-- Join a range to the ranges before it; `open` is the range still being grown. -/
def joinFrom (current : Nat × Nat) : List (Nat × Nat) → List (Nat × Nat)
  | [] => [current]
  | r :: rest =>
    if r.1 ≤ current.2 + 1 then joinFrom (current.1, max current.2 r.2) rest
    else current :: joinFrom r rest

/-- Join touching ranges of a list that ascends by first member. -/
def join : List (Nat × Nat) → List (Nat × Nat)
  | [] => []
  | r :: rest => joinFrom r rest

/-- The set covered by some ranges, in any order; an empty range (`hi < lo`) adds nothing. -/
def ofRanges (rs : List (Nat × Nat)) : CodeSet :=
  ⟨join ((rs.filter fun r => r.1 ≤ r.2).mergeSort fun a b => a.1 ≤ b.1)⟩

/-- The set with one member. -/
def singleton (n : Nat) : CodeSet := ⟨[(n, n)]⟩

/-- Members of either set. -/
def union (a b : CodeSet) : CodeSet :=
  ofRanges (a.ranges ++ b.ranges)

/-- The gaps from `from` up to `top` that the ranges leave. -/
def gaps (low top : Nat) : List (Nat × Nat) → List (Nat × Nat)
  | [] => if low ≤ top then [(low, top)] else []
  | r :: rest =>
    if low < r.1 then (low, min top (r.1 - 1)) :: gaps (r.2 + 1) top rest
    else gaps (max low (r.2 + 1)) top rest

/-- Members of `0 … top` outside the set. -/
def complementTo (top : Nat) (s : CodeSet) : CodeSet :=
  ⟨gaps 0 top s.ranges⟩

/-- Code points outside the set. -/
def complement (s : CodeSet) : CodeSet :=
  s.complementTo maxCode

/-- The parts of one range that lie in the given ranges. -/
def clip (r : Nat × Nat) (rs : List (Nat × Nat)) : List (Nat × Nat) :=
  rs.filterMap fun q =>
    let lo := max r.1 q.1
    let hi := min r.2 q.2
    if lo ≤ hi then some (lo, hi) else none

/-- Members of both sets. -/
def inter (a b : CodeSet) : CodeSet :=
  ofRanges (a.ranges.flatMap fun r => clip r b.ranges)

/-- Members of the first set that the second lacks. -/
def diff (a b : CodeSet) : CodeSet :=
  a.inter b.complement

/-- Members of exactly one of the sets. -/
def symmDiff (a b : CodeSet) : CodeSet :=
  (a.union b).diff (a.inter b)

/-- No member lies above 127. -/
def isAscii (s : CodeSet) : Bool :=
  s.ranges.all fun r => r.2 ≤ 127

/-- A set with exactly one member. -/
def single? (s : CodeSet) : Option Nat :=
  match s.ranges with
  | [(a, b)] => if a = b then some a else none
  | _ => none

/-! ## The compact text of the property tables

A number is written in base 32, most significant digit first. The last digit is taken
from `ghijklmnopqrstuvwxyz0123456789-_`, every other from `ABCDEFGHIJKLMNOPQRSTUVWXYZabcdef`,
so numbers need no separator. A set is written as pairs: how far the range starts after the
end of the one before, and how many further members it has. -/

/-- A digit of a table number: its value, and whether it ends the number. -/
def digit (c : Char) : Nat × Bool :=
  let n := c.toNat
  if 'A' ≤ c && c ≤ 'Z' then (n - 65, false)
  else if 'a' ≤ c && c ≤ 'f' then (n - 97 + 26, false)
  else if 'g' ≤ c && c ≤ 'z' then (n - 103, true)
  else if '0' ≤ c && c ≤ '9' then (n - 48 + 20, true)
  else if c = '-' then (30, true)
  else (31, true)

/-- The numbers written in a table text; `acc` holds the digits read of the current one. -/
def numbersFrom (acc : Nat) : List Char → List Nat
  | [] => []
  | c :: rest =>
    let (value, last) := digit c
    if last then (acc * 32 + value) :: numbersFrom 0 rest
    else numbersFrom (acc * 32 + value) rest

/-- The numbers written in a table text. -/
def numbers (text : String) : List Nat :=
  numbersFrom 0 text.toList

/-- Ranges from pairs of gap and extent, after the code points below `next`. -/
def rangesFrom (next : Nat) : List Nat → List (Nat × Nat)
  | gap :: extent :: rest =>
    let lo := next + gap
    (lo, lo + extent) :: rangesFrom (lo + extent + 1) rest
  | _ => []

/-- The set written in a table text. -/
def decode (text : String) : CodeSet :=
  ⟨rangesFrom 0 (numbers text)⟩

end CodeSet

/-- A set of code points under the names it is known by. Names are lower case, without
blanks, hyphens and underscores. -/
structure NamedSet where
  names : List String
  text : String

/-- The set that a table holds under a name. -/
def findNamed (table : List NamedSet) (name : String) : Option CodeSet :=
  (table.find? fun e => e.names.contains name).map fun e => CodeSet.decode e.text

end ToolGate.Unicode

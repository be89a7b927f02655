/-
How large the automaton of an expression would be.

Patterns are accepted up to a size, so that a short text with nested counts cannot claim memory
without bound. Size is counted in bytes of a byte-wise automaton, run forwards to find where a
match ends and backwards to find where it starts; both have to stay within `sizeLimit`.

* `Chain` — a run of byte ranges; `chains` splits a range of code points into such runs, each
  the encodings of a block of characters of equal length.
* `forwardSetSize`, `backwardSetSize` — one character out of a set. Forwards, equal tails of
  the chains are shared; backwards, equal heads.
* `sizeOf` — a whole expression.
-/
import ToolGate.Pattern.Meaning

namespace ToolGate.Pattern

open ToolGate.Unicode (CodeSet)

/-- The largest automaton a pattern may have: 10 MiB. -/
def sizeLimit : Nat := 10 * Nat.pow 2 20

/-- Bytes that one state takes. -/
def stateSize : Nat := 32

/-- Bytes that one branch of a state takes. -/
def branchSize : Nat := 4

/-- Bytes that one byte range of a state takes. -/
def rangeSize : Nat := 8

/-! ## Encodings -/

/-- Ranges of bytes, one after another. -/
abbrev Chain := List (Nat × Nat)

/-- The bytes of a code point in UTF-8. -/
def utf8 (n : Nat) : List Nat :=
  if n < 0x80 then [n]
  else if n < 0x800 then [0xC0 + n / 64, 0x80 + n % 64]
  else if n < 0x10000 then [0xE0 + n / 4096, 0x80 + n / 64 % 64, 0x80 + n % 64]
  else [0xF0 + n / 262144, 0x80 + n / 4096 % 64, 0x80 + n / 64 % 64, 0x80 + n % 64]

/-- Where to cut a range so that all its encodings are of one length and its first part is a
whole block of trailing bytes: the last member of that part. -/
def cutPoint (lo hi : Nat) : Option Nat :=
  let byLength := [0x7F, 0x7FF, 0xD7FF, 0xFFFF].find? fun m => lo ≤ m && m < hi
  match byLength with
  | some m => some m
  | none =>
    if hi ≤ 0x7F then none
    else
      [64, 4096, 262144].findSome? fun block =>
        if lo / block = hi / block then none
        else if lo % block ≠ 0 then some (lo / block * block + (block - 1))
        else if hi % block ≠ block - 1 then some (hi / block * block - 1)
        else none

/-- The chains of a range of code points; `fuel` bounds the number of cuts. -/
def chains : Nat → Nat → Nat → List Chain
  | 0, _, _ => []
  | fuel + 1, lo, hi =>
    if hi < lo then []
    else if 0xD800 ≤ lo && lo ≤ 0xDFFF then chains fuel 0xE000 hi
    else
      match cutPoint lo hi with
      | some m => chains fuel lo m ++ chains fuel (m + 1) hi
      | none => [List.zip (utf8 lo) (utf8 hi)]

/-- The chains of a set. -/
def setChains (s : CodeSet) : List Chain :=
  s.ranges.flatMap fun r => chains 64 r.1 r.2

/-- The leading ranges that two chains share. -/
def sharedHead : Chain → Chain → Nat
  | a :: as, b :: bs => if a = b then 1 + sharedHead as bs else 0
  | _, _ => 0

/-- States of chains read backwards, where a chain shares the head of the one before it. -/
def backwardStates (previous : Chain) : List Chain → Nat
  | [] => 0
  | c :: rest => (c.length - sharedHead previous c) + backwardStates c rest

/-- A node of the shared forward automaton: its byte ranges with the nodes they lead to. -/
abbrev Branches := List ((Nat × Nat) × Nat)

/-- Chains grouped by their first range; the chains of a group follow each other. -/
def groupHeads : List Chain → List ((Nat × Nat) × List Chain)
  | [] => []
  | [] :: rest => groupHeads rest
  | (r :: tail) :: rest =>
    match groupHeads rest with
    | (r', tails) :: more =>
      if r = r' then (r, tail :: tails) :: more else (r, [tail]) :: (r', tails) :: more
    | [] => [(r, [tail])]

/-- Add the automaton of chains of at most `depth` ranges to the nodes known so far; equal nodes
are kept once. Node 0 is where every chain ends. -/
def shareNodes : Nat → List Chain → List Branches → Nat × List Branches
  | 0, _, known => (0, known)
  | depth + 1, cs, known =>
    let groups := groupHeads cs
    if groups.isEmpty then (0, known)
    else
      let (branches, known) := groups.foldl
        (fun (acc : Branches × List Branches) g =>
          let (target, known) := shareNodes depth g.2 acc.2
          ((g.1, target) :: acc.1, known))
        ([], known)
      match known.findIdx? (· == branches) with
      | some i => (known.length - i, known)
      | none => (known.length + 1, branches :: known)

/-- Bytes for one character out of a set, read forwards. -/
def forwardSetSize (s : CodeSet) : Nat :=
  match s.single? with
  | some n => stateSize * (utf8 n).length
  | none =>
    if s.isAscii then 2 * stateSize + rangeSize * s.ranges.length
    else
      let nodes := (shareNodes 4 (setChains s) []).2
      nodes.foldl (fun size b => size + (stateSize + rangeSize * b.length)) stateSize

/-- Bytes for one character out of a set, read backwards. -/
def backwardSetSize (s : CodeSet) : Nat :=
  match s.single? with
  | some n => stateSize * (utf8 n).length
  | none =>
    if s.isAscii then 2 * stateSize + rangeSize * s.ranges.length
    else
      let cs := setChains s
      (2 + backwardStates [] cs) * stateSize + branchSize * cs.length

/-! ## Expressions -/

/-- The expression never matches the empty text. -/
def neverEmpty : PatternExpr → Bool
  | .nothing => false
  | .empty => false
  | .one _ => true
  | .look _ => false
  | .seq x y => neverEmpty x || neverEmpty y
  | .alt x y => neverEmpty x && neverEmpty y
  | .many lo _ x => 0 < lo && neverEmpty x
  | .group x => neverEmpty x

/-- Bytes for a repetition, from those of its body. -/
def manySize (lo : Nat) (hi : Option Nat) (bodyNeverEmpty : Bool) (body : Nat) : Nat :=
  match hi with
  | none =>
    if lo = 0 then
      if bodyNeverEmpty then body + stateSize + branchSize
      else body + 3 * stateSize + 4 * branchSize
    else lo * body + stateSize + branchSize
  | some hi =>
    if lo = 0 ∧ hi = 1 then body + 2 * stateSize + 2 * branchSize
    else if lo = hi then if lo = 0 then stateSize else lo * body
    else
      (if lo = 0 then stateSize else lo * body) + stateSize +
        (hi - lo) * (body + stateSize + 2 * branchSize)

/-- Bytes for an expression. `ofSet` gives those of a character set and `captures` those of a
group; `branch` says that the expression is a further branch of the alternation around it. -/
def sizeOf (ofSet : CodeSet → Nat) (captures : Nat) : Bool → PatternExpr → Nat
  | _, .nothing => stateSize
  | _, .empty => stateSize
  | _, .one s => ofSet s
  | _, .look _ => stateSize
  | _, .seq x y => sizeOf ofSet captures false x + sizeOf ofSet captures false y
  | branch, .alt x y =>
    (if branch then 0 else 2 * stateSize + branchSize) + branchSize +
      sizeOf ofSet captures false x + sizeOf ofSet captures true y
  | _, .many lo hi x => manySize lo hi (neverEmpty x) (sizeOf ofSet captures false x)
  | _, .group x => captures + sizeOf ofSet captures false x

/-- Both automata of the expression stay within the limit. -/
def fits (e : PatternExpr) : Bool :=
  sizeOf forwardSetSize (2 * stateSize) false e ≤ sizeLimit &&
    sizeOf backwardSetSize 0 false e ≤ sizeLimit

end ToolGate.Pattern

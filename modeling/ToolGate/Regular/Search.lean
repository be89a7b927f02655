/-
Matching by sets of positions.

A set of positions of a text is a number: position `i` is in it when bit `i` is set. From the
positions where an expression may start, `ends` computes every position where it may end, so
no choice is ever taken back and a repetition needs no more rounds than the text has positions.

* `Expr.mark` — an expression with every symbol test and position test replaced by the set of
  positions at which it succeeds in a given text.
* `ends` — the positions reached from a set of positions.
* `found`, `whole` — the decisions for `Found` and `Whole`.
-/
import ToolGate.Regular.Expr

namespace ToolGate.Regular

variable {σ α β : Type}

/-- Positions, from `i` on, whose symbol passes the test. -/
def symbolsFrom (p : σ → Bool) (i : Nat) : List σ → Nat
  | [] => 0
  | c :: rest => (if p c then 1 <<< i else 0) ||| symbolsFrom p (i + 1) rest

/-- Positions, from `i` on, that pass a test of their neighbours; `prev` stands before `i`. -/
def placesFrom (p : Option σ → Option σ → Bool) (prev : Option σ) (i : Nat) : List σ → Nat
  | [] => if p prev none then 1 <<< i else 0
  | c :: rest =>
    (if p prev (some c) then 1 <<< i else 0) ||| placesFrom p (some c) (i + 1) rest

/-- Replace each test by the set of positions of the text at which it succeeds. -/
def Expr.mark (sat : α → σ → Bool) (test : β → Option σ → Option σ → Bool) (t : List σ)
    (e : Expr α β) : Expr Nat Nat :=
  e.map (fun a => symbolsFrom (sat a) 0 t) (fun b => placesFrom (test b) none 0 t)

/-- Apply a step `n` times; a set that the step leaves alone is final. -/
def iterate (step : Nat → Nat) : Nat → Nat → Nat
  | 0, s => s
  | n + 1, s =>
    let s' := step s
    if s' = s then s else iterate step n s'

/-- All positions reached in at most `n` steps. -/
def reach (step : Nat → Nat) : Nat → Nat → Nat
  | 0, s => s
  | n + 1, s =>
    let s' := s ||| step s
    if s' = s then s else reach step n s'

/-- The positions where a marked expression may end, from those where it may start; `size` is
one more than the length of the text, and bounds how often a repetition can still add one. -/
def ends (size : Nat) : Expr Nat Nat → Nat → Nat
  | .nothing, _ => 0
  | .empty, s => s
  | .one m, s => (s &&& m) <<< 1
  | .look m, s => s &&& m
  | .seq x y, s => ends size y (ends size x s)
  | .alt x y, s => ends size x s ||| ends size y s
  | .group x, s => ends size x s
  | .many lo hi x, s =>
    let start := iterate (ends size x) lo s
    match hi with
    | none => reach (ends size x) size start
    | some hi => if hi < lo then 0 else reach (ends size x) (min (hi - lo) size) start

/-- Whether the expression matches somewhere in the text. -/
def found (sat : α → σ → Bool) (test : β → Option σ → Option σ → Bool) (e : Expr α β)
    (t : List σ) : Bool :=
  let size := t.length + 1
  ends size (e.mark sat test t) (1 <<< size - 1) != 0

/-- Whether the expression matches the whole text. -/
def whole (sat : α → σ → Bool) (test : β → Option σ → Option σ → Bool) (e : Expr α β)
    (t : List σ) : Bool :=
  (ends (t.length + 1) (e.mark sat test t) 1).testBit t.length

end ToolGate.Regular

/-
Regular expressions over any kind of symbol.

* `Expr α β` — the syntax: `α` names what consumes one symbol, `β` what tests a position.
* `Spans` — the meaning: an expression spans the stretch of a text from one position to another.
* `Found` — an expression spans some stretch of the text.

The syntax is shared: patterns consume characters and test positions, path globs consume
bytes and test none.
-/

namespace ToolGate.Regular

/-- A regular expression. `many lo hi e` repeats `e` at least `lo` times and, when `hi` is
given, at most that often. `group` has the meaning of its body. -/
inductive Expr (α β : Type) where
  | nothing
  | empty
  | one (a : α)
  | look (b : β)
  | seq (first second : Expr α β)
  | alt (left right : Expr α β)
  | many (lo : Nat) (hi : Option Nat) (body : Expr α β)
  | group (body : Expr α β)
  deriving Repr, Inhabited

namespace Expr

variable {α β γ δ : Type}

/-- Rename what consumes symbols and what tests positions. -/
def map (f : α → γ) (g : β → δ) : Expr α β → Expr γ δ
  | nothing => nothing
  | empty => empty
  | one a => one (f a)
  | look b => look (g b)
  | seq x y => seq (x.map f g) (y.map f g)
  | alt x y => alt (x.map f g) (y.map f g)
  | many lo hi x => many lo hi (x.map f g)
  | group x => group (x.map f g)

/-- All of a list, one after another. -/
def seqAll : List (Expr α β) → Expr α β
  | [] => empty
  | [e] => e
  | e :: rest => seq e (seqAll rest)

/-- Any of a list; nothing when the list is empty. -/
def altAll : List (Expr α β) → Expr α β
  | [] => nothing
  | [e] => e
  | e :: rest => alt e (altAll rest)

/-- Any number of times. -/
def star (e : Expr α β) : Expr α β := many 0 none e

/-- Once or not at all. -/
def optional (e : Expr α β) : Expr α β := many 0 (some 1) e

end Expr

/-- The symbol before a position of a text, if any. -/
def before? {σ : Type} (t : List σ) : Nat → Option σ
  | 0 => none
  | i + 1 => t[i]?

/-- `Spans sat test t e i j`: the expression matches the stretch of `t` from `i` to `j`.
`sat a c` says that `a` consumes the symbol `c`; `test b p n` says that `b` holds between the
symbols `p` and `n`, absent at the ends of the text. -/
inductive Spans {σ α β : Type} (sat : α → σ → Bool) (test : β → Option σ → Option σ → Bool)
    (t : List σ) : Expr α β → Nat → Nat → Prop where
  | empty {i} (h : i ≤ t.length) : Spans sat test t .empty i i
  | one {a i c} (h : t[i]? = some c) (ha : sat a c = true) : Spans sat test t (.one a) i (i + 1)
  | look {b i} (h : i ≤ t.length) (hb : test b (before? t i) t[i]? = true) :
      Spans sat test t (.look b) i i
  | seq {x y i j k} (hx : Spans sat test t x i j) (hy : Spans sat test t y j k) :
      Spans sat test t (.seq x y) i k
  | left {x y i j} (hx : Spans sat test t x i j) : Spans sat test t (.alt x y) i j
  | right {x y i j} (hy : Spans sat test t y i j) : Spans sat test t (.alt x y) i j
  | group {x i j} (hx : Spans sat test t x i j) : Spans sat test t (.group x) i j
  | stop {hi x i} (h : i ≤ t.length) : Spans sat test t (.many 0 hi x) i i
  | more {lo hi x i j k} (hx : Spans sat test t x i j)
      (hrest : Spans sat test t (.many (lo - 1) (hi.map (· - 1)) x) j k) (hhi : hi ≠ some 0) :
      Spans sat test t (.many lo hi x) i k

/-- The expression matches somewhere in the text. -/
def Found {σ α β : Type} (sat : α → σ → Bool) (test : β → Option σ → Option σ → Bool)
    (e : Expr α β) (t : List σ) : Prop :=
  ∃ i j, Spans sat test t e i j

/-- The expression matches the whole text. -/
def Whole {σ α β : Type} (sat : α → σ → Bool) (test : β → Option σ → Option σ → Bool)
    (e : Expr α β) (t : List σ) : Prop :=
  Spans sat test t e 0 t.length

end ToolGate.Regular

/-
Finite binary floating-point numbers of 64 bits, held exactly.

A number is a sign and `mantissa · 2 ^ exponent`, with the exponent as low as the format
allows, so equal numbers of equal sign are equal as data. Arithmetic is exact arithmetic on
natural numbers followed by one rounding to the nearest representable number, ties to the even
mantissa.

* `roundRatio` — the magnitude nearest to a quotient of natural numbers, unless it overflows.
* `ofNat`, `mul`, `div`, `tenPow` — the operations that reading a decimal numeral needs.
* `scaleByTen` — a significand times a power of ten, by at most a few roundings.
-/

namespace ToolGate.Decimal

/-- A magnitude `mantissa · 2 ^ exponent` as it is stored. -/
structure Magnitude where
  mantissa : Nat
  exponent : Int
  deriving Repr, DecidableEq, Inhabited

/-- A finite number of the 64-bit format. Zero has either sign. -/
structure Binary64 where
  negative : Bool
  magnitude : Magnitude
  deriving Repr, DecidableEq, Inhabited

/-- The lowest exponent of the format. -/
def minExponent : Int := -1074

/-- The highest exponent of the format. -/
def maxExponent : Int := 971

/-- The quotient of two natural numbers, rounded to the nearest, ties to the even. -/
def roundHalfEven (n d : Nat) : Nat :=
  let q := n / d
  let r := n % d
  if d < 2 * r ∨ (2 * r = d ∧ q % 2 = 1) then q + 1 else q

namespace Magnitude

/-- Zero. -/
def zero : Magnitude := ⟨0, minExponent⟩

/-- A magnitude as a quotient of natural numbers. -/
def ratio (m : Magnitude) : Nat × Nat :=
  if 0 ≤ m.exponent then (m.mantissa * Nat.pow 2 m.exponent.toNat, 1)
  else (m.mantissa, Nat.pow 2 (-m.exponent).toNat)

/-- The quotient `n / d` in units of `2 ^ e`, as a quotient again. -/
def scaled (n d : Nat) (e : Int) : Nat × Nat :=
  if 0 ≤ e then (n, d * Nat.pow 2 e.toNat) else (n * Nat.pow 2 (-e).toNat, d)

/-- The exponent at which the quotient `n / d` has a mantissa of 53 bits, or the lowest exponent
if that is higher. -/
def exponentOf (n d : Nat) : Int :=
  let e := max ((n.log2 : Int) - d.log2 - 53) minExponent
  let (a, b) := scaled n d e
  if Nat.pow 2 53 * b ≤ a then e + 1 else e

/-- The magnitude nearest to `n / d`; none when it is too large for the format. -/
def roundRatio (n d : Nat) : Option Magnitude :=
  if n = 0 then some zero
  else
    let e := exponentOf n d
    let (a, b) := scaled n d e
    let m := roundHalfEven a b
    let (m, e) := if m = Nat.pow 2 53 then (Nat.pow 2 52, e + 1) else (m, e)
    if e ≤ maxExponent then some ⟨m, e⟩ else none

/-- The magnitude nearest to a natural number. -/
def ofNat (n : Nat) : Option Magnitude := roundRatio n 1

/-- The product, rounded. -/
def mul (x y : Magnitude) : Option Magnitude :=
  let (a, b) := x.ratio
  let (c, d) := y.ratio
  roundRatio (a * c) (b * d)

/-- The quotient, rounded; the divisor must not be zero. -/
def div (x y : Magnitude) : Option Magnitude :=
  let (a, b) := x.ratio
  let (c, d) := y.ratio
  roundRatio (a * d) (b * c)

/-- The magnitude nearest to a power of ten. -/
def tenPow (k : Nat) : Option Magnitude := ofNat (Nat.pow 10 k)

/-- A magnitude times a power of ten. Up to `10 ^ 308` either way this is one multiplication or
division by the nearest magnitude to that power, rounded; smaller powers are reached by dividing
by `10 ^ 308` first, `steps` times at most. None when the result is too large. -/
def scaleByTen (steps : Nat) (x : Magnitude) (e : Int) : Option Magnitude :=
  if e.natAbs ≤ 308 then do
    let p ← tenPow e.natAbs
    if 0 ≤ e then x.mul p else x.div p
  else if x.mantissa = 0 then some x
  else if 0 ≤ e then none
  else
    match steps with
    | 0 => some zero
    | steps + 1 => do
      let p ← tenPow 308
      let y ← x.div p
      scaleByTen steps y (e + 308)

end Magnitude

namespace Binary64

/-- A numeral's value: a significand times a power of ten, with a sign. None when it is too
large for the format. -/
def ofDecimal (negative : Bool) (significand : Nat) (exponent : Int) : Option Binary64 := do
  let x ← Magnitude.ofNat significand
  let m ← x.scaleByTen 4 exponent
  some ⟨negative, m⟩

end Binary64

end ToolGate.Decimal

/-
The shortest decimal numeral of a binary floating-point number.

Among the numerals with the fewest digits that read back as the number, the nearest to it is
chosen. A power of ten is a grid of numerals with a given count of digits; if any point of the
grid reads back, one of the two neighbours of the number does, so only those are tried.

* `Magnitude.digits` — the digits and the position of the decimal point.
* `Numeral.render` — the text: positional where the point stands near the digits, otherwise
  with an exponent.
-/
import ToolGate.Decimal.Binary64

namespace ToolGate.Decimal

/-- A decimal numeral `0.d₁d₂… · 10 ^ point`; `coefficient` has the digits. -/
structure Numeral where
  coefficient : Nat
  point : Int
  deriving Repr, DecidableEq

/-- The decimal digits of a number. -/
def digitsOf (n : Nat) : List Char := Nat.toDigits 10 n

/-- The numeral of a coefficient in units of a power of ten. -/
def Numeral.ofUnits (found : Nat × Int) : Numeral :=
  ⟨found.1, found.2 + (digitsOf found.1).length⟩

/-- The least `k` with `n / d < 10 ^ k`, searched upwards from `k`. -/
def pointOf (n d : Nat) : Nat → Int → Int
  | 0, k => k
  | fuel + 1, k =>
    let below := if 0 ≤ k then n < d * Nat.pow 10 k.toNat else n * Nat.pow 10 (-k).toNat < d
    if below then k else pointOf n d fuel (k + 1)

/-- A coefficient in units of `10 ^ e`, as a quotient. -/
def inUnits (c : Nat) (e : Int) : Nat × Nat :=
  if 0 ≤ e then (c * Nat.pow 10 e.toNat, 1) else (c, Nat.pow 10 (-e).toNat)

namespace Magnitude

/-- A coefficient in units of `10 ^ e` reads back as the magnitude. -/
def readsBack (m : Magnitude) (c : Nat) (e : Int) : Bool :=
  let (a, b) := inUnits c e
  roundRatio a b == some m

/-- The nearest numeral in units of `10 ^ e` that reads back, if any; `n / d` is the value. -/
def onGrid (m : Magnitude) (n d : Nat) (e : Int) : Option Nat :=
  let (a, b) := if 0 ≤ e then (n, d * Nat.pow 10 e.toNat) else (n * Nat.pow 10 (-e).toNat, d)
  let lo := a / b
  let r := a % b
  let nearHigh : Bool := b < 2 * r ∨ (2 * r = b ∧ lo % 2 = 1)
  let (first, second) := if nearHigh then (lo + 1, lo) else (lo, lo + 1)
  if first ≠ 0 && m.readsBack first e then some first
  else if second ≠ 0 && m.readsBack second e then some second
  else none

/-- Try 1, 2, … digits; past the last of them the value itself is written out. -/
def search (m : Magnitude) (n d : Nat) (k : Int) : Nat → Nat → Nat × Int
  | 0, _ =>
    if 0 ≤ m.exponent then (n, 0)
    else (m.mantissa * Nat.pow 5 (-m.exponent).toNat, m.exponent)
  | fuel + 1, count =>
    match m.onGrid n d (k - count) with
    | some c => (c, k - count)
    | none => search m n d k fuel (count + 1)

/-- The shortest digits of a magnitude other than zero. -/
def digits (m : Magnitude) : Numeral :=
  let k := pointOf m.ratio.1 m.ratio.2 700 (-324)
  .ofUnits (search m m.ratio.1 m.ratio.2 k 17 1)

end Magnitude

/-- Digits without trailing zeros. -/
def stripZeros (ds : List Char) : List Char :=
  (ds.reverse.dropWhile (· == '0')).reverse

/-- So many zeros. -/
def zeros (n : Nat) : List Char := List.replicate n '0'

/-- The text of a numeral. The point is written out while it stands at most 16 digits after the
first one and at most 4 zeros before it, and then at least one digit follows it; otherwise the
exponent is written, with its sign. -/
def Numeral.render (x : Numeral) : List Char :=
  let ds := stripZeros (digitsOf x.coefficient)
  let count : Int := ds.length
  if count ≤ x.point ∧ x.point ≤ 16 then
    ds ++ zeros (x.point - count).toNat ++ ['.', '0']
  else if 0 < x.point ∧ x.point ≤ 16 then
    ds.take x.point.toNat ++ '.' :: ds.drop x.point.toNat
  else if -5 < x.point ∧ x.point ≤ 0 then
    '0' :: '.' :: zeros (-x.point).toNat ++ ds
  else
    let e := x.point - 1
    let lead := match ds with
      | [] => []
      | [d] => [d]
      | d :: rest => d :: '.' :: rest
    lead ++ 'e' :: (if e < 0 then '-' else '+') :: digitsOf e.natAbs

/-- The text of a number. -/
def Binary64.render (x : Binary64) : List Char :=
  (if x.negative then ['-'] else []) ++
    (if x.magnitude.mantissa = 0 then ['0', '.', '0'] else x.magnitude.digits.render)

end ToolGate.Decimal

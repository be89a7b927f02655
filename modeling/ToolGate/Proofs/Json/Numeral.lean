/-
A numeral as it is written, and the number that is kept of it.

A number is kept as an integer or as a floating-point number, so what is written may say more than
what is kept. An integer that fits 64 bits with its sign is kept as it is. Every other numeral is
rounded, and two of them may come out alike.

* `Numeral` — the digits of a numeral, part by part; `Numeral.value` is the number that it says.
* `Numeral.integer?`, `Numeral.rounded?`, `Numeral.kept` — what is kept of it.
  `isExact_of_integer?`: an integer that fits is kept exactly.
* `Numeral.Alike` — the same is kept of two numerals. `alike_iff`: they are one integer that fits,
  or both are rounded, and to one number. `alike_iff_equal_of_fits`: among integers that fit, they
  say one number.
* `numeralAt` — the numeral at the start of a text.
* `kept_of_scanNumber` — a number that is read is what is kept of the numeral there.
-/
import Mathlib
import ToolGate.Json.Scan
import ToolGate.Proofs.Decimal.Numeral

namespace ToolGate.Json

open Decimal (digitsValue Binary64)

/-! ## What a numeral says -/

/-- A numeral as it is written, after its sign. -/
structure Numeral where
  negative : Bool
  whole : List Char
  /-- The digits after the point, if there is one. -/
  fraction : Option (List Char)
  /-- Whether the exponent goes down, and its digits, if there is one. -/
  exponent : Option (Bool × List Char)
  deriving Repr, DecidableEq

/-- The exponent that is written, or zero. -/
def writtenExponent : Option (Bool × List Char) → ℤ
  | none => 0
  | some (down, ds) => if down then -digitsValue ds else digitsValue ds

/-- The rational that a `Number` stands for. -/
def Number.value : Number → ℚ
  | .integer n => n
  | .real x => (if x.negative then -1 else 1) * x.magnitude.value

namespace Numeral

/-- The rational that the numeral says. -/
def value (x : Numeral) : ℚ :=
  (if x.negative then -1 else 1) * digitsValue (x.whole ++ x.fraction.getD []) *
    10 ^ (writtenExponent x.exponent - (x.fraction.getD []).length)

/-- Digits alone. -/
def ofDigits (ds : List Char) : Numeral := ⟨false, ds, none, none⟩

theorem value_ofDigits (ds : List Char) : (ofDigits ds).value = digitsValue ds := by
  simp [value, ofDigits, writtenExponent]

/-! ## What is kept of it -/

/-- The integer that the numeral writes, if it has neither point nor exponent and fits 64 bits with
its sign. Minus zero does not count. -/
def integer? (x : Numeral) : Option ℤ :=
  let n := digitsValue x.whole
  if x.fraction ≠ none ∨ x.exponent ≠ none then none
  else if x.negative then if 0 < n ∧ n ≤ Nat.pow 2 63 then some (-n) else none
  else if n ≤ maxSignificand then some n else none

/-- The digits that `absorb` takes in, and the power of ten for those it drops. -/
def significand (x : Numeral) : ℕ × ℤ :=
  let (n, dropped) := absorb maxSignificand 0 x.whole
  match x.fraction with
  | none => (n, dropped.length)
  | some ds =>
    let (s, left) := absorb maxSignificand n ds
    (s, dropped.length - (ds.length - left.length : ℕ))

end Numeral

/-- Rounding by `Binary64.ofDecimal`, after the written exponent was applied; none on overflow. -/
def scaled? (negative : Bool) (s : ℕ) (e : ℤ) : Option (Bool × List Char) → Option Binary64
  | none => Binary64.ofDecimal negative s e
  | some (down, ds) =>
    match absorb maxWrittenExponent 0 ds with
    | (k, []) => Binary64.ofDecimal negative s (if down then e - k else e + k)
    | (_, _ :: _) => if s ≠ 0 && !down then none else Binary64.ofDecimal negative 0 0

namespace Numeral

/-- The `Binary64` nearest to the numeral; none on overflow. -/
def rounded? (x : Numeral) : Option Binary64 :=
  scaled? x.negative x.significand.1 x.significand.2 x.exponent

/-- The `Number` that is kept: `integer?`, or else `rounded?`. -/
def kept (x : Numeral) : Number :=
  match x.integer? with
  | some n => .integer n
  | none => .real (x.rounded?.getD default)

/-- The same `Number` is `kept`. -/
def Alike (x y : Numeral) : Prop := x.kept = y.kept

/-- The same rational is said: their `value` is one. -/
def Equal (x y : Numeral) : Prop := x.value = y.value

/-- What is `kept` has the `value` of the numeral. -/
def IsExact (x : Numeral) : Prop := x.kept.value = x.value

/-- An integer that is kept as it is: `integer?` is some. -/
def Fits (x : Numeral) : Prop := x.integer?.isSome

instance (x y : Numeral) : Decidable (x.Alike y) := inferInstanceAs (Decidable (x.kept = y.kept))

theorem kept_of_integer? {x : Numeral} {n : ℤ} (h : x.integer? = some n) : x.kept = .integer n := by
  simp only [kept, h]

theorem kept_of_rounded? {x : Numeral} (hx : x.integer? = none) {y : Binary64}
    (h : x.rounded? = some y) : x.kept = .real y := by
  simp only [kept, hx, h, Option.getD_some]

/-- Numerals are `Alike` as one `integer?`, or, where both are none, as one `rounded?`. -/
theorem alike_iff {x y : Numeral} : x.Alike y ↔
    (∃ n, x.integer? = some n ∧ y.integer? = some n) ∨
      x.integer? = none ∧ y.integer? = none ∧
        x.rounded?.getD default = y.rounded?.getD default := by
  unfold Alike kept
  cases x.integer? <;> cases y.integer? <;> simp [eq_comm]

/-- If `integer?` is some, the numeral `IsExact`. -/
theorem isExact_of_integer? {x : Numeral} {n : ℤ} (h : x.integer? = some n) : x.IsExact := by
  have hkept : x.kept.value = n := by rw [kept_of_integer? h, Number.value]
  unfold integer? at h
  simp only at h
  split at h
  · cases h
  rename_i hplain
  obtain ⟨hfraction, hexponent⟩ : x.fraction = none ∧ x.exponent = none := by simpa using hplain
  rw [IsExact, hkept, value, hfraction, hexponent]
  split at h
  · split at h
    · cases h
      simp_all [writtenExponent]
    · cases h
  · split at h
    · cases h
      simp_all [writtenExponent]
    · cases h

/-- Where both `IsExact`, `Alike` implies `Equal`. -/
theorem Alike.equal {x y : Numeral} (h : x.Alike y) (hx : x.IsExact) (hy : y.IsExact) :
    x.Equal y := by
  rw [Equal, ← hx, ← hy, h]

/-- Where both numerals are `Fits`, `Alike` and `Equal` are one. -/
theorem alike_iff_equal_of_fits {x y : Numeral} (hx : x.Fits) (hy : y.Fits) :
    x.Alike y ↔ x.Equal y := by
  obtain ⟨n, hn⟩ := Option.isSome_iff_exists.mp hx
  obtain ⟨n', hn'⟩ := Option.isSome_iff_exists.mp hy
  have hexact := isExact_of_integer? hn
  have hexact' := isExact_of_integer? hn'
  constructor
  · exact fun h => h.equal hexact hexact'
  · intro hequal
    rw [Equal, ← hexact, ← hexact', kept_of_integer? hn, kept_of_integer? hn'] at hequal
    obtain rfl : n = n' := Int.cast_injective hequal
    exact alike_iff.mpr (.inl ⟨n, hn, hn'⟩)

end Numeral

/-! ## The numeral at the start of a text -/

/-- The fraction at the start, and what is behind it. -/
def fractionAt : List Char → Option (List Char) × List Char
  | '.' :: cs => (some (leadingDigits cs), afterDigits cs)
  | cs => (none, cs)

/-- Whether a minus is at the start, and what is behind the sign. -/
def signAt : List Char → Bool × List Char
  | '+' :: cs => (false, cs)
  | '-' :: cs => (true, cs)
  | cs => (false, cs)

/-- The exponent at the start, and what is behind it. -/
def exponentAt : List Char → Option (Bool × List Char) × List Char
  | c :: cs =>
    if c = 'e' ∨ c = 'E' then
      (some ((signAt cs).1, leadingDigits (signAt cs).2), afterDigits (signAt cs).2)
    else (none, c :: cs)
  | [] => (none, [])

/-- The `Numeral` at the start, and what is behind it. The sign was read before. -/
def numeralAt (negative : Bool) (cs : List Char) : Numeral × List Char :=
  let (fraction, behind) := fractionAt (afterDigits cs)
  let (exponent, rest) := exponentAt behind
  (⟨negative, leadingDigits cs, fraction, exponent⟩, rest)

theorem leadingDigits_append {ds : List Char} {c : Char} (h : Decimal.AllDigits ds)
    (hc : c.isDigit = false) (cs : List Char) :
    leadingDigits (ds ++ c :: cs) = ds ∧ afterDigits (ds ++ c :: cs) = c :: cs := by
  rw [leadingDigits, afterDigits, List.takeWhile_append_of_pos h, List.dropWhile_append_of_pos h]
  simp [hc]

/-! ## Digits that all count -/

theorem le_ofDigitChars (n : ℕ) (ds : List Char) : n ≤ Nat.ofDigitChars 10 ds n := by
  rw [Nat.ofDigitChars_eq_ofDigitChars_zero]
  calc n ≤ 10 ^ ds.length * n := Nat.le_mul_of_pos_left n (by positivity)
    _ ≤ _ := Nat.le_add_right ..

theorem absorb_eq_nil_iff {limit : ℕ} : ∀ {ds : List Char} {n v : ℕ}, n ≤ limit →
    (absorb limit n ds = (v, []) ↔ Nat.ofDigitChars 10 ds n = v ∧ v ≤ limit)
  | [], n, v, h => by
    simp only [absorb, Nat.ofDigitChars_nil, Prod.mk.injEq, and_true]
    constructor
    · rintro rfl
      exact ⟨rfl, h⟩
    · exact And.left
  | d :: ds, n, v, h => by
    have hnext : 10 * n + (d.toNat - '0'.toNat) = n * 10 + digitValue d := by
      rw [mul_comm, digitValue]
    rw [absorb, Nat.ofDigitChars_cons, hnext]
    split
    · rename_i hle
      exact absorb_eq_nil_iff hle
    · rename_i hlt
      have hle := le_ofDigitChars (n * 10 + digitValue d) ds
      simp only [Prod.mk.injEq, reduceCtorEq, and_false, false_iff]
      omega

/-- All digits are absorbed just if `digitsValue` is within the limit. -/
theorem absorb_eq_iff {limit v : ℕ} {ds : List Char} :
    absorb limit 0 ds = (v, []) ↔ digitsValue ds = v ∧ v ≤ limit :=
  absorb_eq_nil_iff (Nat.zero_le limit)

/-! ## A number that is read is what is kept of the numeral there -/

variable {negative : Bool} {s : ℕ} {e : ℤ} {cs rest : List Char} {n : Number}

theorem realNumber_eq_ok_iff :
    realNumber negative s e cs = .ok (n, rest) ↔
      ∃ y, Binary64.ofDecimal negative s e = some y ∧ n = .real y ∧ rest = cs := by
  unfold realNumber
  cases Binary64.ofDecimal negative s e with
  | none => simp
  | some y => simp [eq_comm]

/-- What `scanExponent` reads is `scaled?` by the written exponent. -/
theorem scaled?_of_scanExponent (h : scanExponent negative s e cs = .ok (n, rest)) :
    ∃ y, scaled? negative s e (some ((signAt cs).1, leadingDigits (signAt cs).2)) = some y ∧
      n = .real y ∧ rest = afterDigits (signAt cs).2 := by
  unfold scanExponent at h
  split at h
  rename_i down ds hsigned
  have hsign : signAt cs = (down, ds) := by
    rw [← hsigned]
    unfold signAt
    split <;> simp_all
  simp only [hsign, scaled?]
  split at h
  · cases h
  split at h
  · cases h
  generalize absorb maxWrittenExponent 0 _ = absorbed at h ⊢
  obtain ⟨k, left⟩ := absorbed
  cases left with
  | nil => exact realNumber_eq_ok_iff.mp h
  | cons d left =>
    simp only at h ⊢
    split at h
    · cases h
    · rename_i hsmall
      rw [if_neg hsmall]
      exact realNumber_eq_ok_iff.mp h

/-- The same where the exponent may be missing. -/
theorem scaled?_of_behind {c : Char}
    (h : (if c = 'e' ∨ c = 'E' then scanExponent negative s e cs
      else realNumber negative s e (c :: cs)) = .ok (n, rest)) :
    ∃ y, scaled? negative s e (exponentAt (c :: cs)).1 = some y ∧ n = .real y ∧
      rest = (exponentAt (c :: cs)).2 := by
  simp only [exponentAt]
  split at h
  · rename_i hmark
    rw [if_pos hmark]
    exact scaled?_of_scanExponent h
  · rename_i hmark
    rw [if_neg hmark]
    exact realNumber_eq_ok_iff.mp h

/-- What `scanFraction` reads is `scaled?`, with the digits of the fraction absorbed. -/
theorem scaled?_of_scanFraction (h : scanFraction negative s e cs = .ok (n, rest)) :
    let ds := leadingDigits cs
    let (s', left) := absorb maxSignificand s ds
    let e' := e - (ds.length - left.length : ℕ)
    ∃ y, scaled? negative s' e' (exponentAt (afterDigits cs)).1 = some y ∧ n = .real y ∧
      rest = (exponentAt (afterDigits cs)).2 := by
  unfold scanFraction at h
  simp only at h ⊢
  split at h
  · cases h
  · cases h
  generalize afterDigits cs = behind at h ⊢
  cases behind with
  | nil => exact realNumber_eq_ok_iff.mp h
  | cons c behind => exact scaled?_of_behind h

/-- What `wholeNumber` reads is `kept` of digits that are all absorbed. -/
theorem kept_of_wholeNumber {ds : List Char} {v : ℕ} (hds : absorb maxSignificand 0 ds = (v, []))
    (h : wholeNumber negative v cs = .ok (n, rest)) :
    (⟨negative, ds, none, none⟩ : Numeral).kept = n ∧ cs = rest := by
  obtain ⟨hvalue, hle⟩ := absorb_eq_iff.mp hds
  unfold wholeNumber at h
  split at h
  · rename_i hpositive
    cases h
    refine ⟨Numeral.kept_of_integer? ?_, rfl⟩
    simp_all [Numeral.integer?]
  · rename_i hnegative
    split at h
    · rename_i hfits
      cases h
      refine ⟨Numeral.kept_of_integer? ?_, rfl⟩
      simp_all [Numeral.integer?]
    · rename_i hunfit
      obtain ⟨y, hy, rfl, rfl⟩ := realNumber_eq_ok_iff.mp h
      refine ⟨Numeral.kept_of_rounded? ?_ ?_, rfl⟩
      · simp_all [Numeral.integer?]
      · simp_all [Numeral.rounded?, Numeral.significand, scaled?]

/-- What `realNumber` reads is `kept` of digits that are not all absorbed. -/
theorem kept_of_dropped {ds dropped : List Char} {v : ℕ}
    (hds : absorb maxSignificand 0 ds = (v, dropped)) (hdropped : dropped ≠ [])
    (h : realNumber negative v dropped.length cs = .ok (n, rest)) :
    (⟨negative, ds, none, none⟩ : Numeral).kept = n ∧ cs = rest := by
  obtain ⟨y, hy, rfl, rfl⟩ := realNumber_eq_ok_iff.mp h
  have hlarge : maxSignificand < digitsValue ds := by
    by_contra hle
    rw [absorb_eq_iff.mpr ⟨rfl, not_lt.mp hle⟩] at hds
    cases hds
    exact hdropped rfl
  have hmax : Nat.pow 2 63 ≤ maxSignificand := by decide
  refine ⟨Numeral.kept_of_rounded? ?_ ?_, rfl⟩
  · simp only [Numeral.integer?, ne_eq, not_true_eq_false, or_self, if_false]
    split
    · exact if_neg (by omega)
    · exact if_neg (by omega)
  · simpa [Numeral.rounded?, Numeral.significand, scaled?, hds] using hy

theorem fractionAt_cons {mark : Char} (h : mark ≠ '.') (cs : List Char) :
    fractionAt (mark :: cs) = (none, mark :: cs) := by
  unfold fractionAt
  split <;> simp_all

/-- Without a fraction and an exponent, `numeralAt` is digits alone. -/
theorem numeralAt_of_ended {f g : List Char → Outcome Number}
    (h : (match afterDigits cs with
      | [] => none
      | '.' :: behind => some (f behind)
      | c :: behind => if c = 'e' ∨ c = 'E' then some (g behind) else none) = none) :
    numeralAt negative cs = (⟨negative, leadingDigits cs, none, none⟩, afterDigits cs) := by
  split at h
  · rename_i hbehind
    simp only [numeralAt, hbehind, fractionAt, exponentAt]
  · cases h
  · rename_i mark behind hpoint hbehind
    split at h
    · cases h
    · rename_i hmark
      simp only [numeralAt, hbehind, fractionAt_cons hpoint, exponentAt, if_neg hmark]

/-- Whatever `scanNumber` reads is the `kept` part of `numeralAt`. -/
theorem kept_of_scanNumber (h : scanNumber negative cs = .ok (n, rest)) :
    (numeralAt negative cs).1.kept = n ∧ (numeralAt negative cs).2 = rest := by
  unfold scanNumber at h
  split at h
  · cases h
  split at h
  · cases h
  split at h
  · cases h
  rename_i c cs' _ _
  generalize c :: cs' = cs at h ⊢
  generalize hds : absorb maxSignificand 0 (leadingDigits cs) = absorbed at h
  obtain ⟨v, dropped⟩ := absorbed
  simp only at h
  split at h
  · -- a fraction or an exponent follows
    rename_i outcome hcontinued
    split at hcontinued
    · cases hcontinued
    · rename_i behind hbehind
      cases hcontinued
      obtain ⟨y, hy, rfl, rfl⟩ := scaled?_of_scanFraction h
      simp only [numeralAt, hbehind, fractionAt, and_true]
      refine Numeral.kept_of_rounded? ?_ ?_
      · simp [Numeral.integer?]
      · simpa only [Numeral.rounded?, Numeral.significand, hds] using hy
    · rename_i mark behind hpoint hbehind
      split at hcontinued
      · rename_i hmark
        cases hcontinued
        obtain ⟨y, hy, rfl, rfl⟩ := scaled?_of_scanExponent h
        simp only [numeralAt, hbehind, fractionAt_cons hpoint, exponentAt, if_pos hmark, and_true]
        refine Numeral.kept_of_rounded? ?_ ?_
        · simp [Numeral.integer?]
        · simpa only [Numeral.rounded?, Numeral.significand, hds] using hy
      · cases hcontinued
  · rename_i hended
    rw [numeralAt_of_ended hended]
    exact kept_of_wholeNumber hds h
  · rename_i hdropped hended
    rw [numeralAt_of_ended hended]
    exact kept_of_dropped hds hdropped h

end ToolGate.Json

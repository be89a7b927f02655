/-
The text of a number tells the number.

A numeral may be written in four ways, with the point inside the digits or at either side of them,
or with an exponent. `numeralValue` reads all four, and two numbers of the format that are written
alike read back as one value, so rounding gives them the same mantissa and exponent.

* `numeralValue` — the rational number that a text of digits, a point and an exponent stands for.
* `numeralValue_render` — a rendered numeral stands for its digits at the place of its point.
* `search_readsBack` — the digits that are looked for round to the magnitude, and so do all of its
  digits, which are written where no shorter numeral does.
* `render_injective` — numbers of the format that are written alike are equal.
* `render_shape` — which characters a numeral is written with, and where.
-/
import Mathlib
import ToolGate.Decimal.Shortest
import ToolGate.Proofs.Decimal.Rounding

namespace ToolGate.Decimal

/-! ## Reading a numeral -/

/-- The number that digits write, by `Nat.ofDigitChars`. -/
def digitsValue (ds : List Char) : ℕ := Nat.ofDigitChars 10 ds 0

/-- What follows the `e` of a numeral, as an integer. -/
def exponentValue : List Char → ℤ
  | '+' :: ds => digitsValue ds
  | '-' :: ds => -digitsValue ds
  | _ => 0

/-- Digits with a point among them, times `10 ^ exponent`. -/
def pointedValue (cs : List Char) (exponent : ℤ) : ℚ :=
  let fraction := (cs.dropWhile (· ≠ '.')).tail
  digitsValue (cs.takeWhile (· ≠ '.') ++ fraction) * 10 ^ (exponent - fraction.length)

/-- The rational that a numeral writes. -/
def numeralValue (cs : List Char) : ℚ :=
  pointedValue (cs.takeWhile (· ≠ 'e')) (exponentValue (cs.dropWhile (· ≠ 'e')).tail)

/-- All characters are `Char.isDigit`. -/
def AllDigits (ds : List Char) : Prop := ∀ c ∈ ds, c.isDigit = true

theorem AllDigits.append {ds ds' : List Char} (h : AllDigits ds) (h' : AllDigits ds') :
    AllDigits (ds ++ ds') := by
  intro c hc
  rcases List.mem_append.mp hc with hc | hc
  · exact h c hc
  · exact h' c hc

theorem AllDigits.ne {ds : List Char} (h : AllDigits ds) (mark : Char)
    (hmark : mark.isDigit = false) :
    ∀ c ∈ ds, decide (c ≠ mark) = true := by
  intro c hc
  have hdigit := h c hc
  refine decide_eq_true ?_
  rintro rfl
  simp [hmark] at hdigit

theorem allDigits_digitsOf (n : ℕ) : AllDigits (digitsOf n) :=
  fun _ hc => Nat.isDigit_of_mem_toDigits (by decide) (by decide) hc

theorem allDigits_zeros (n : ℕ) : AllDigits (zeros n) := by
  intro c hc
  rw [List.eq_of_mem_replicate hc]
  rfl

/-- Splitting at a `mark` gives back the digits before it. -/
theorem takeWhile_mark {mark : Char} {ds : List Char} (h : ∀ c ∈ ds, decide (c ≠ mark) = true)
    (rest : List Char) :
    (ds ++ mark :: rest).takeWhile (· ≠ mark) = ds ∧
      (ds ++ mark :: rest).dropWhile (· ≠ mark) = mark :: rest := by
  rw [List.takeWhile_append_of_pos h, List.dropWhile_append_of_pos h]
  simp

/-- Without a `mark`, all is taken. -/
theorem takeWhile_noMark {mark : Char} {ds : List Char} (h : ∀ c ∈ ds, decide (c ≠ mark) = true) :
    ds.takeWhile (· ≠ mark) = ds ∧ ds.dropWhile (· ≠ mark) = [] :=
  ⟨List.takeWhile_eq_self_iff.mpr h, List.dropWhile_eq_nil_iff.mpr h⟩

theorem pointedValue_point {whole : List Char} (h : AllDigits whole)
    (fraction : List Char) (e : ℤ) :
    pointedValue (whole ++ '.' :: fraction) e =
      digitsValue (whole ++ fraction) * 10 ^ (e - fraction.length) := by
  obtain ⟨htake, hdrop⟩ := takeWhile_mark (h.ne '.' rfl) fraction
  simp only [pointedValue, htake, hdrop, List.tail_cons]

theorem pointedValue_noPoint {whole : List Char} (h : AllDigits whole) (e : ℤ) :
    pointedValue whole e = digitsValue whole * 10 ^ e := by
  obtain ⟨htake, hdrop⟩ := takeWhile_noMark (h.ne '.' rfl)
  simp only [pointedValue, htake, hdrop, List.tail_nil, List.append_nil, List.length_nil,
    Nat.cast_zero, sub_zero]

theorem numeralValue_noExponent {cs : List Char} (h : ∀ c ∈ cs, decide (c ≠ 'e') = true) :
    numeralValue cs = pointedValue cs 0 := by
  obtain ⟨htake, hdrop⟩ := takeWhile_noMark h
  simp only [numeralValue, htake, hdrop, List.tail_nil, exponentValue]

theorem numeralValue_exponent {cs : List Char} (h : ∀ c ∈ cs, decide (c ≠ 'e') = true)
    (exponent : List Char) :
    numeralValue (cs ++ 'e' :: exponent) = pointedValue cs (exponentValue exponent) := by
  obtain ⟨htake, hdrop⟩ := takeWhile_mark h exponent
  simp only [numeralValue, htake, hdrop, List.tail_cons]

/-! ## The value of a rendered numeral -/

/-- The rational `coefficient * 10 ^ …` of a `Numeral`. -/
def Numeral.value (x : Numeral) : ℚ :=
  x.coefficient * 10 ^ (x.point - (digitsOf x.coefficient).length)

/-- What `stripZeros` drops are `zeros`. -/
theorem exists_zeros_stripZeros (ds : List Char) : ∃ k, ds = stripZeros ds ++ zeros k := by
  refine ⟨(ds.reverse.takeWhile (· == '0')).length, ?_⟩
  have hzeros : (ds.reverse.takeWhile (· == '0')).reverse =
      zeros (ds.reverse.takeWhile (· == '0')).length := by
    rw [zeros, List.eq_replicate_iff]
    refine ⟨List.length_reverse, fun c hc => ?_⟩
    simpa using List.mem_takeWhile_imp (List.mem_reverse.mp hc)
  rw [stripZeros, ← hzeros, ← List.reverse_append, List.takeWhile_append_dropWhile,
    List.reverse_reverse]

theorem allDigits_stripZeros {ds : List Char} (h : AllDigits ds) : AllDigits (stripZeros ds) := by
  intro c hc
  obtain ⟨k, hk⟩ := exists_zeros_stripZeros ds
  exact h c (hk ▸ List.mem_append_left _ hc)

theorem digitsValue_append_zeros (ds : List Char) (k : ℕ) :
    digitsValue (ds ++ zeros k) = 10 ^ k * digitsValue ds := by
  rw [digitsValue, Nat.ofDigitChars_append, zeros, Nat.ofDigitChars_replicate_zero, digitsValue]

/-- Since `stripZeros` only moves the point, `Numeral.value` can be read off what it leaves. -/
theorem Numeral.value_eq (x : Numeral) :
    x.value = digitsValue (stripZeros (digitsOf x.coefficient)) *
      10 ^ (x.point - (stripZeros (digitsOf x.coefficient)).length) := by
  obtain ⟨k, hk⟩ := exists_zeros_stripZeros (digitsOf x.coefficient)
  have hcoefficient : x.coefficient =
      10 ^ k * digitsValue (stripZeros (digitsOf x.coefficient)) := by
    rw [← digitsValue_append_zeros, ← hk]
    exact Nat.ofDigitChars_ten_toDigits.symm
  have hlength : (digitsOf x.coefficient).length =
      (stripZeros (digitsOf x.coefficient)).length + k := by
    conv_lhs => rw [hk]
    simp [zeros]
  have hcast :
      (x.coefficient : ℚ) = 10 ^ k * digitsValue (stripZeros (digitsOf x.coefficient)) := by
    exact_mod_cast hcoefficient
  have hpow : (10 : ℚ) ^ (x.point - (stripZeros (digitsOf x.coefficient)).length) =
      10 ^ k * 10 ^ (x.point - ((stripZeros (digitsOf x.coefficient)).length + k : ℕ)) := by
    rw [← zpow_natCast, ← zpow_add₀ (by norm_num)]
    congr 1
    push_cast
    ring
  rw [Numeral.value, hlength, hpow, ← mul_assoc, mul_comm _ ((10 : ℚ) ^ k), ← hcast]

/-- The function `exponentValue` undoes the sign and `digitsOf`. -/
theorem exponentValue_signed (e : ℤ) :
    exponentValue ((if e < 0 then '-' else '+') :: digitsOf e.natAbs) = e := by
  have hread : digitsValue (digitsOf e.natAbs) = e.natAbs := Nat.ofDigitChars_ten_toDigits
  split
  · simp only [exponentValue, hread]
    omega
  · simp only [exponentValue, hread]
    omega

/-- With a point, `numeralValue` is all the digits, shifted by the length of the fraction. -/
theorem numeralValue_pointed {whole fraction : List Char} (hwhole : AllDigits whole)
    (hfraction : AllDigits fraction) :
    numeralValue (whole ++ '.' :: fraction) =
      digitsValue (whole ++ fraction) * 10 ^ (-(fraction.length : ℤ)) := by
  have hmark : ∀ c ∈ whole ++ '.' :: fraction, decide (c ≠ 'e') = true := by
    intro c hc
    rcases List.mem_append.mp hc with hc | hc
    · exact hwhole.ne 'e' rfl c hc
    · rcases List.mem_cons.mp hc with rfl | hc
      · rfl
      · exact hfraction.ne 'e' rfl c hc
  rw [numeralValue_noExponent hmark, pointedValue_point hwhole, zero_sub]

theorem digitsValue_zeros_append (k : ℕ) (ds : List Char) :
    digitsValue (zeros k ++ ds) = digitsValue ds := by
  rw [digitsValue, Nat.ofDigitChars_append, zeros, Nat.ofDigitChars_replicate_zero, mul_zero,
    digitsValue]

/-- The case of `render` in which the point follows the digits. -/
theorem numeralValue_right {ds : List Char} (hds : AllDigits ds) (k : ℕ) :
    numeralValue (ds ++ zeros k ++ ['.', '0']) = digitsValue ds * 10 ^ (k : ℤ) := by
  have hvalue : digitsValue (ds ++ zeros k ++ ['0']) = 10 ^ (k + 1) * digitsValue ds := by
    rw [List.append_assoc, ← digitsValue_append_zeros]
    simp [zeros, List.replicate_succ']
  have hlast : AllDigits ['0'] := allDigits_zeros 1
  rw [numeralValue_pointed (hds.append (allDigits_zeros k)) hlast, hvalue]
  push_cast
  rw [pow_succ, zpow_natCast]
  norm_num
  ring

/-- The case of `render` in which the point is among the digits. -/
theorem numeralValue_inside {ds : List Char} (hds : AllDigits ds) {k : ℕ} (hk : k ≤ ds.length) :
    numeralValue (ds.take k ++ '.' :: ds.drop k) = digitsValue ds * 10 ^ ((k : ℤ) - ds.length) := by
  have htake : AllDigits (ds.take k) := fun c hc => hds c (List.mem_of_mem_take hc)
  have hdrop : AllDigits (ds.drop k) := fun c hc => hds c (List.mem_of_mem_drop hc)
  rw [numeralValue_pointed htake hdrop, List.take_append_drop, List.length_drop]
  congr 2
  push_cast [hk]
  ring

/-- The case of `render` in which the point precedes the digits. -/
theorem numeralValue_left {ds : List Char} (hds : AllDigits ds) (k : ℕ) :
    numeralValue ('0' :: '.' :: zeros k ++ ds) = digitsValue ds * 10 ^ (-(k : ℤ) - ds.length) := by
  have hvalue : digitsValue (['0'] ++ (zeros k ++ ds)) = digitsValue ds := by
    rw [← digitsValue_zeros_append (k + 1) ds]
    simp [zeros, List.replicate_succ]
  have hfirst : AllDigits ['0'] := allDigits_zeros 1
  have hread := numeralValue_pointed hfirst ((allDigits_zeros k).append hds)
  rw [hvalue] at hread
  simp only [List.cons_append, List.nil_append] at hread ⊢
  rw [hread]
  congr 2
  simp [zeros]
  ring

/-- The case of `render` that writes an exponent. -/
theorem numeralValue_scientific (e : ℤ) : ∀ {ds : List Char}, AllDigits ds →
    numeralValue ((match ds with
        | [] => []
        | [d] => [d]
        | d :: rest => d :: '.' :: rest) ++
      'e' :: (if e < 0 then '-' else '+') :: digitsOf e.natAbs) =
      digitsValue ds * 10 ^ (e + 1 - ds.length)
  | [], hds => by
    rw [numeralValue_exponent (by simp), pointedValue_noPoint hds, exponentValue_signed]
    simp [digitsValue]
  | [d], hds => by
    rw [numeralValue_exponent (hds.ne 'e' rfl), pointedValue_noPoint hds, exponentValue_signed]
    simp
  | d :: d' :: rest, hds => by
    have hfirst : AllDigits [d] := fun c hc => hds c (by simp_all)
    have hmark : ∀ c ∈ d :: '.' :: d' :: rest, decide (c ≠ 'e') = true := by
      intro c hc
      by_cases hpoint : c = '.'
      · simp [hpoint]
      · exact hds.ne 'e' rfl c (by simp_all)
    have hread := pointedValue_point hfirst (d' :: rest) e
    simp only [List.cons_append, List.nil_append] at hread
    rw [numeralValue_exponent hmark, exponentValue_signed, hread]
    congr 2
    simp

theorem numeralValue_render (x : Numeral) : numeralValue x.render = x.value := by
  rw [Numeral.value_eq]
  have hds : AllDigits (stripZeros (digitsOf x.coefficient)) :=
    allDigits_stripZeros (allDigits_digitsOf _)
  unfold Numeral.render
  generalize stripZeros (digitsOf x.coefficient) = ds at hds
  dsimp only
  split
  · rename_i hright
    obtain ⟨k, hk⟩ := Int.eq_ofNat_of_zero_le (sub_nonneg.mpr hright.1)
    rw [hk, Int.toNat_natCast]
    exact numeralValue_right hds k
  split
  · rename_i hinside
    obtain ⟨k, hk⟩ := Int.eq_ofNat_of_zero_le hinside.1.le
    rw [hk, Int.toNat_natCast]
    exact numeralValue_inside hds (by omega)
  split
  · rename_i hleft
    obtain ⟨k, hk⟩ := Int.eq_ofNat_of_zero_le (neg_nonneg.mpr hleft.2)
    have hpoint : x.point = -k := by omega
    rw [hk, hpoint, Int.toNat_natCast]
    exact numeralValue_left hds k
  · have hread := numeralValue_scientific (x.point - 1) hds
    rw [sub_add_cancel] at hread
    exact hread

/-! ## The digits that are looked for -/

namespace Magnitude

theorem inUnits_pos (c : ℕ) (e : ℤ) : 0 < (inUnits c e).2 := by
  unfold inUnits
  split
  · exact Nat.one_pos
  · exact Nat.pow_pos (by decide)

theorem inUnits_eq (c : ℕ) (e : ℤ) : ((inUnits c e).1 : ℚ) / (inUnits c e).2 = c * 10 ^ e := by
  unfold inUnits
  split
  · rename_i he
    rw [Nat.cast_mul, natPow_toNat 10 he, Nat.cast_ofNat, Nat.cast_one, div_one]
  · rename_i he
    rw [natPow_toNat_neg 10 he, Nat.cast_ofNat, div_inv_eq_mul]

theorem readsBack_iff {m : Magnitude} {c : ℕ} {e : ℤ} :
    m.readsBack c e = true ↔ roundRatio (inUnits c e).1 (inUnits c e).2 = some m := by
  simp [readsBack]

theorem readsBack_of_onGrid {m : Magnitude} {n d c : ℕ} {e : ℤ} (h : m.onGrid n d e = some c) :
    m.readsBack c e = true := by
  have either : ∀ first second : ℕ,
      (if first ≠ 0 && m.readsBack first e then some first
        else if second ≠ 0 && m.readsBack second e then some second else none) = some c →
      m.readsBack c e = true := by
    intro first second hchosen
    split at hchosen
    · rename_i hfirst
      cases hchosen
      exact (Bool.and_eq_true_iff.mp hfirst).2
    split at hchosen
    · rename_i hsecond
      cases hchosen
      exact (Bool.and_eq_true_iff.mp hsecond).2
    · exact absurd hchosen (by simp)
  exact either _ _ h

/-- All digits of a magnitude pass `readsBack`. -/
theorem readsBack_exact {m : Magnitude} (h : m.IsStored) :
    let all := if 0 ≤ m.exponent then (m.ratio.1, 0)
      else (m.mantissa * Nat.pow 5 (-m.exponent).toNat, m.exponent)
    m.readsBack all.1 all.2 = true := by
  dsimp only
  rw [readsBack_iff, ← roundRatio_ratio h]
  refine roundRatio_congr (inUnits_pos _ _) m.ratio_pos ?_
  split
  · rename_i he
    simp [inUnits, ratio, he]
  · rename_i he
    simp only [inUnits, ratio, he, if_false, Nat.pow_eq]
    rw [mul_assoc, ← mul_pow, show 5 * 2 = 10 from rfl]

/-- What `Magnitude.search` returns passes `readsBack`, whatever the fuel. -/
theorem search_readsBack {m : Magnitude} (h : m.IsStored) (k : ℤ) (fuel count : ℕ) :
    m.readsBack (m.search m.ratio.1 m.ratio.2 k fuel count).1
      (m.search m.ratio.1 m.ratio.2 k fuel count).2 = true := by
  induction fuel generalizing count with
  | zero => exact readsBack_exact h
  | succ fuel ih =>
    unfold search
    split
    · rename_i c hfound
      exact readsBack_of_onGrid hfound
    · exact ih (count + 1)

theorem exists_digits_eq (m : Magnitude) :
    ∃ k : ℤ, m.digits = .ofUnits (m.search m.ratio.1 m.ratio.2 k 17 1) := ⟨_, rfl⟩

/-- The shortest `digits` of a magnitude are a quotient that `roundRatio` takes back to it. -/
theorem exists_roundRatio_digits {m : Magnitude} (h : m.IsStored) :
    ∃ n d : ℕ, 0 < d ∧ (n : ℚ) / d = m.digits.value ∧ roundRatio n d = some m := by
  obtain ⟨k, hk⟩ := exists_digits_eq m
  have hfound := search_readsBack h k 17 1
  rw [hk]
  -- the search is closed to unification, which would run it
  generalize m.search m.ratio.1 m.ratio.2 k 17 1 = found at hfound
  refine ⟨_, _, inUnits_pos found.1 found.2, ?_, readsBack_iff.mp hfound⟩
  rw [inUnits_eq]
  simp only [Numeral.ofUnits, Numeral.value, add_sub_cancel_right]

end Magnitude

/-! ## The characters of a numeral -/

/-- Digits, signs, the point and `e`. -/
def isNumeralChar (c : Char) : Bool :=
  c.isDigit || c == '-' || c == '+' || c == '.' || c == 'e'

theorem AllDigits.all {ds : List Char} (h : AllDigits ds) : ds.all isNumeralChar = true := by
  rw [List.all_eq_true]
  intro c hc
  simp [isNumeralChar, h c hc]

/-- The exponent as `render` writes it after the `e`. -/
def signed (e : ℤ) : List Char := (if e < 0 then '-' else '+') :: digitsOf e.natAbs

/-- Every `Numeral.render` is digits, then a point with digits, an exponent, or both. -/
theorem render_shape (x : Numeral) :
    ∃ whole fraction, AllDigits whole ∧ AllDigits fraction ∧
      (x.render = whole ++ '.' :: fraction ∨
        ∃ e, x.render = whole ++ 'e' :: signed e ∨
          x.render = whole ++ '.' :: (fraction ++ 'e' :: signed e)) := by
  have hds : AllDigits (stripZeros (digitsOf x.coefficient)) :=
    allDigits_stripZeros (allDigits_digitsOf _)
  unfold Numeral.render
  generalize stripZeros (digitsOf x.coefficient) = ds at hds
  dsimp only
  split
  · exact ⟨ds ++ zeros _, ['0'], hds.append (allDigits_zeros _), allDigits_zeros 1, .inl rfl⟩
  split
  · exact ⟨ds.take _, ds.drop _, fun c hc => hds c (List.mem_of_mem_take hc),
      fun c hc => hds c (List.mem_of_mem_drop hc), .inl rfl⟩
  split
  · exact ⟨['0'], zeros _ ++ ds, allDigits_zeros 1, (allDigits_zeros _).append hds, .inl rfl⟩
  · match ds, hds with
    | [], hds => exact ⟨[], [], hds, hds, .inr ⟨x.point - 1, .inl rfl⟩⟩
    | [d], hds => exact ⟨[d], [], hds, allDigits_zeros 0, .inr ⟨x.point - 1, .inl rfl⟩⟩
    | d :: d' :: rest, hds =>
      exact ⟨[d], d' :: rest, fun c hc => hds c (by simp_all), fun c hc => hds c (by simp_all),
        .inr ⟨x.point - 1, .inr rfl⟩⟩

theorem all_signed (e : ℤ) : (signed e).all isNumeralChar = true := by
  have hdigits := (allDigits_digitsOf e.natAbs).all
  unfold signed
  split <;> simp [hdigits, isNumeralChar]

theorem all_render (x : Numeral) : x.render.all isNumeralChar = true := by
  obtain ⟨whole, fraction, hwhole, hfraction, hshape⟩ := render_shape x
  have hpoint : isNumeralChar '.' = true := rfl
  have hletter : isNumeralChar 'e' = true := rfl
  rcases hshape with heq | ⟨e, heq | heq⟩ <;> rw [heq] <;>
    simp only [List.all_append, List.all_cons, hwhole.all, hfraction.all, all_signed, hpoint,
      hletter, Bool.and_self]

/-- A point or an `e` keeps `Numeral.render` apart from integers. -/
theorem mark_mem_render (x : Numeral) : '.' ∈ x.render ∨ 'e' ∈ x.render := by
  obtain ⟨whole, fraction, -, -, heq | ⟨e, heq | heq⟩⟩ := render_shape x <;> simp [heq]

/-- No `Numeral.render` starts with a minus. -/
theorem render_head (x : Numeral) : ∃ c cs, x.render = c :: cs ∧ c ≠ '-' := by
  obtain ⟨whole, fraction, hwhole, -, hshape⟩ := render_shape x
  cases whole with
  | nil => rcases hshape with heq | ⟨e, heq | heq⟩ <;> exact ⟨_, _, heq, by decide⟩
  | cons d ds =>
    have hd : d ≠ '-' := by
      rintro rfl
      exact absurd (hwhole '-' (by simp)) (by decide)
    rcases hshape with heq | ⟨e, heq | heq⟩ <;> exact ⟨_, _, heq, hd⟩

/-! ## Numbers that are written alike -/

namespace Binary64

/-- The part of `Binary64.render` after the sign. -/
def unsigned (x : Binary64) : List Char :=
  if x.magnitude.mantissa = 0 then ['0', '.', '0'] else x.magnitude.digits.render

theorem render_eq (x : Binary64) :
    x.render = (if x.negative then ['-'] else []) ++ x.unsigned := rfl

/-- Reading `unsigned` back and rounding by `roundRatio` gives the magnitude. -/
theorem exists_roundRatio_unsigned {x : Binary64} (h : x.magnitude.IsStored) :
    ∃ n d : ℕ, 0 < d ∧ (n : ℚ) / d = numeralValue x.unsigned ∧
      Magnitude.roundRatio n d = some x.magnitude := by
  unfold unsigned
  split
  · rename_i hzero
    refine ⟨0, 1, Nat.one_pos, ?_, ?_⟩
    · have hread := numeralValue_right (allDigits_zeros 1) 0
      simp only [zeros, List.replicate_succ, List.replicate_zero, List.append_nil, List.cons_append,
        List.nil_append] at hread
      rw [hread]
      simp [digitsValue, Nat.ofDigitChars]
    · rcases h.normal with hmin | hle
      · simp only [Magnitude.roundRatio, if_true, Magnitude.zero, ← hmin, ← hzero]
      · omega
  · rw [numeralValue_render]
    exact Magnitude.exists_roundRatio_digits h

theorem magnitude_eq_of_unsigned {x y : Binary64} (hx : x.magnitude.IsStored)
    (hy : y.magnitude.IsStored) (h : x.unsigned = y.unsigned) : x.magnitude = y.magnitude := by
  obtain ⟨n, d, hd, hvalue, hround⟩ := exists_roundRatio_unsigned hx
  obtain ⟨n', d', hd', hvalue', hround'⟩ := exists_roundRatio_unsigned hy
  have hcross : n * d' = n' * d := by
    have hquotients : (n : ℚ) / d = n' / d' := by rw [hvalue, hvalue', h]
    rw [div_eq_div_iff (by exact_mod_cast hd.ne') (by exact_mod_cast hd'.ne')] at hquotients
    exact_mod_cast hquotients
  rw [Magnitude.roundRatio_congr hd hd' hcross, hround'] at hround
  exact (Option.some.inj hround).symm

theorem all_text (x : Binary64) : x.render.all isNumeralChar = true := by
  have hunsigned : x.unsigned.all isNumeralChar = true := by
    unfold unsigned
    split
    · rfl
    · exact all_render _
  rw [render_eq, List.all_append, hunsigned]
  cases x.negative <;> rfl

theorem unsigned_head (x : Binary64) : ∃ c cs, x.unsigned = c :: cs ∧ c ≠ '-' := by
  unfold unsigned
  split
  · exact ⟨_, _, rfl, by decide⟩
  · exact render_head _

/-- A point or an `e` keeps `Binary64.render` apart from integers. -/
theorem mark_mem_text (x : Binary64) : '.' ∈ x.render ∨ 'e' ∈ x.render := by
  have hmark : '.' ∈ x.unsigned ∨ 'e' ∈ x.unsigned := by
    unfold unsigned
    split
    · simp
    · exact mark_mem_render _
  rw [render_eq]
  exact hmark.imp (List.mem_append_right _) (List.mem_append_right _)

/-- On magnitudes that satisfy `IsStored`, `Binary64.render` is injective. -/
theorem render_injective {x y : Binary64} (hx : x.magnitude.IsStored) (hy : y.magnitude.IsStored)
    (h : x.render = y.render) : x = y := by
  obtain ⟨c, cs, hc, hne⟩ := unsigned_head x
  obtain ⟨c', cs', hc', hne'⟩ := unsigned_head y
  have hsplit : x.negative = y.negative ∧ x.unsigned = y.unsigned := by
    rw [render_eq, render_eq, hc, hc'] at h
    rw [hc, hc']
    -- a sign on one side only would be the other side's first character
    cases hneg : x.negative <;> cases hneg' : y.negative <;>
      simp [hneg, hneg', hne, Ne.symm hne'] at h ⊢ <;> exact h
  obtain ⟨negative, magnitude⟩ := x
  obtain ⟨negative', magnitude'⟩ := y
  have hmagnitude := magnitude_eq_of_unsigned hx hy hsplit.2
  simp only at hmagnitude hsplit
  rw [hmagnitude, hsplit.1]

end Binary64

end ToolGate.Decimal

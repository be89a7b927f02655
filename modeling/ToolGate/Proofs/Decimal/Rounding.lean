/-
Rounding depends on the value alone, and leaves alone what the format can hold.

* `Magnitude.value` — the rational number that a magnitude stands for.
* `Magnitude.IsStored` — the format can hold the magnitude: at most 53 bits of mantissa, all of them
  used unless the exponent is the lowest.
* `IsExponent` — the exponent of a value. There is one at most, and `exponentOf` finds it.
* `roundRatio_congr` — equal quotients are rounded alike.
* `roundRatio_ratio` — a magnitude of the format is its own rounding.
* `isStored_of_roundRatio`, `Binary64.isStored_of_ofDecimal` — what rounding gives is of the format,
  and so is what a decimal numeral is read as.

Everything is compared in the rational numbers, where a power of two may have a negative exponent.
-/
import Mathlib
import ToolGate.Decimal.Binary64

namespace ToolGate.Decimal

/-! ## Values and exponents -/

/-- The rational `mantissa * 2 ^ exponent`. -/
def Magnitude.value (m : Magnitude) : ℚ := m.mantissa * 2 ^ m.exponent

/-- Bounds under which the format holds a `Magnitude`. -/
structure Magnitude.IsStored (m : Magnitude) : Prop where
  mantissa_lt : m.mantissa < 2 ^ 53
  min_le : minExponent ≤ m.exponent
  le_max : m.exponent ≤ maxExponent
  normal : m.exponent = minExponent ∨ 2 ^ 52 ≤ m.mantissa

/-- The exponent that gives `q` a mantissa of 53 bits, or `minExponent` if that is higher. -/
structure IsExponent (q : ℚ) (e : ℤ) : Prop where
  min_le : minExponent ≤ e
  lt : q < 2 ^ (e + 53)
  normal : e = minExponent ∨ 2 ^ (e + 52) ≤ q

theorem IsExponent.unique {q : ℚ} {e e' : ℤ} (h : IsExponent q e)
    (h' : IsExponent q e') : e = e' := by
  -- of two exponents the higher one is not the lowest, so the value reaches a bit that the lower
  -- one says it stays below
  have key : ∀ {a b : ℤ}, IsExponent q a → IsExponent q b → ¬ a < b := by
    intro a b ha hb hab
    rcases hb.normal with hmin | hle
    · exact absurd ha.min_le (by omega)
    · have hpow : (2 : ℚ) ^ (a + 53) ≤ 2 ^ (b + 52) :=
        zpow_le_zpow_right₀ (by norm_num) (by omega)
      exact absurd ha.lt (not_lt.mpr (hpow.trans hle))
  rcases lt_trichotomy e e' with hlt | heq | hgt
  · exact absurd hlt (key h h')
  · exact heq
  · exact absurd hgt (key h' h)

/-! ## Quotients of natural numbers -/

theorem roundHalfEven_mul_left {k : ℕ} (hk : 0 < k) (n d : ℕ) :
    roundHalfEven (k * n) (k * d) = roundHalfEven n d := by
  have hlt : k * d < 2 * (k * (n % d)) ↔ d < 2 * (n % d) := by
    rw [Nat.mul_left_comm, Nat.mul_lt_mul_left hk]
  have heq : 2 * (k * (n % d)) = k * d ↔ 2 * (n % d) = d := by
    rw [Nat.mul_left_comm, Nat.mul_right_inj hk.ne']
  simp only [roundHalfEven, Nat.mul_div_mul_left _ _ hk, Nat.mul_mod_mul_left, hlt, heq]

theorem roundHalfEven_congr {n d n' d' : ℕ} (hd : 0 < d) (hd' : 0 < d') (h : n * d' = n' * d) :
    roundHalfEven n d = roundHalfEven n' d' := by
  rw [← roundHalfEven_mul_left hd' n d, ← roundHalfEven_mul_left hd n' d', mul_comm d' n, h,
    mul_comm n' d, mul_comm d' d]

theorem roundHalfEven_mul_self (k : ℕ) {d : ℕ} (hd : 0 < d) : roundHalfEven (k * d) d = k := by
  simp [roundHalfEven, Nat.mul_div_cancel k hd, hd.ne]

theorem roundHalfEven_le {n d k : ℕ} (h : n < k * d) : roundHalfEven n d ≤ k := by
  have hq : n / d < k := Nat.div_lt_of_lt_mul (by rwa [mul_comm] at h)
  simp only [roundHalfEven]
  split <;> omega

theorem le_roundHalfEven {n d k : ℕ} (hd : 0 < d) (h : k * d ≤ n) : k ≤ roundHalfEven n d := by
  have hq : k ≤ n / d := (Nat.le_div_iff_mul_le hd).mpr h
  simp only [roundHalfEven]
  split <;> omega

/-! ## Powers with integers as exponents -/

/-- Casting `Nat.pow` to `zpow`, for exponents that are not negative. -/
theorem natPow_toNat (b : ℕ) {e : ℤ} (he : 0 ≤ e) :
    ((Nat.pow b e.toNat : ℕ) : ℚ) = (b : ℚ) ^ e := by
  obtain ⟨k, rfl⟩ := Int.eq_ofNat_of_zero_le he
  simp

/-- Casting `Nat.pow` to an inverse `zpow`, for negative exponents. -/
theorem natPow_toNat_neg (b : ℕ) {e : ℤ} (he : ¬ 0 ≤ e) :
    ((Nat.pow b (-e).toNat : ℕ) : ℚ) = ((b : ℚ) ^ e)⁻¹ := by
  rw [natPow_toNat b (by omega), zpow_neg]

namespace Magnitude

theorem scaled_pos (n : ℕ) {d : ℕ} (hd : 0 < d) (e : ℤ) : 0 < (scaled n d e).2 := by
  unfold scaled
  split
  · exact Nat.mul_pos hd (Nat.pow_pos (by decide))
  · exact hd

/-- The quotient of `scaled n d e` is `n / d / 2 ^ e`. -/
theorem scaled_eq (n d : ℕ) (e : ℤ) :
    ((scaled n d e).1 : ℚ) / (scaled n d e).2 = n / d / 2 ^ e := by
  unfold scaled
  split
  · rename_i he
    rw [Nat.cast_mul, natPow_toNat 2 he, Nat.cast_ofNat, div_mul_eq_div_div]
  · rename_i he
    rw [Nat.cast_mul, natPow_toNat_neg 2 he, Nat.cast_ofNat, div_eq_mul_inv, div_eq_mul_inv,
      div_eq_mul_inv, mul_right_comm]

theorem ratio_pos (m : Magnitude) : 0 < m.ratio.2 := by
  unfold ratio
  split
  · exact Nat.one_pos
  · exact Nat.pow_pos (by decide)

theorem ratio_eq (m : Magnitude) : (m.ratio.1 : ℚ) / m.ratio.2 = m.value := by
  unfold ratio value
  split
  · rename_i he
    rw [Nat.cast_mul, natPow_toNat 2 he, Nat.cast_ofNat, Nat.cast_one, div_one]
  · rename_i he
    rw [natPow_toNat_neg 2 he, Nat.cast_ofNat, div_inv_eq_mul]

/-- Comparisons with `scaled` are comparisons with the quotient. -/
theorem mul_le_scaled_iff (k n : ℕ) {d : ℕ} (hd : 0 < d) (e : ℤ) :
    k * (scaled n d e).2 ≤ (scaled n d e).1 ↔ (k : ℚ) * 2 ^ e ≤ n / d := by
  have hb : (0 : ℚ) < (scaled n d e).2 := by exact_mod_cast scaled_pos n hd e
  rw [← le_div_iff₀ (zpow_pos (by norm_num) e), ← scaled_eq, le_div_iff₀ hb]
  exact_mod_cast Iff.rfl

/-! ## The exponent of a quotient -/

/-- The difference of `Nat.log2` brackets a quotient within a factor of two. -/
theorem quotient_bounds {n d : ℕ} (hn : n ≠ 0) (hd : 0 < d) :
    (2 : ℚ) ^ ((n.log2 : ℤ) - d.log2 - 1) < n / d ∧
      (n : ℚ) / d < 2 ^ ((n.log2 : ℤ) - d.log2 + 1) := by
  have hdq : (0 : ℚ) < d := by exact_mod_cast hd
  have hn_low : (2 : ℚ) ^ (n.log2 : ℤ) ≤ n := by exact_mod_cast Nat.log2_self_le hn
  have hn_high : (n : ℚ) < 2 ^ ((n.log2 : ℤ) + 1) := by exact_mod_cast Nat.lt_log2_self
  have hd_low : (2 : ℚ) ^ (d.log2 : ℤ) ≤ d := by exact_mod_cast Nat.log2_self_le hd.ne'
  have hd_high : (d : ℚ) < 2 ^ ((d.log2 : ℤ) + 1) := by exact_mod_cast Nat.lt_log2_self
  constructor
  · rw [lt_div_iff₀ hdq]
    calc (2 : ℚ) ^ ((n.log2 : ℤ) - d.log2 - 1) * d
        < 2 ^ ((n.log2 : ℤ) - d.log2 - 1) * 2 ^ ((d.log2 : ℤ) + 1) := by gcongr
      _ = 2 ^ (n.log2 : ℤ) := by rw [← zpow_add₀ (by norm_num)]; congr 1; ring
      _ ≤ n := hn_low
  · rw [div_lt_iff₀ hdq]
    calc (n : ℚ) < 2 ^ ((n.log2 : ℤ) + 1) := hn_high
      _ = 2 ^ ((n.log2 : ℤ) - d.log2 + 1) * 2 ^ (d.log2 : ℤ) := by
        rw [← zpow_add₀ (by norm_num)]; congr 1; ring
      _ ≤ 2 ^ ((n.log2 : ℤ) - d.log2 + 1) * d := by gcongr

theorem isExponent_exponentOf {n d : ℕ} (hn : n ≠ 0) (hd : 0 < d) :
    IsExponent (n / d) (exponentOf n d) := by
  obtain ⟨hlow, hhigh⟩ := quotient_bounds hn hd
  have mono : ∀ {a b : ℤ}, a ≤ b → (2 : ℚ) ^ a ≤ 2 ^ b := zpow_le_zpow_right₀ (by norm_num)
  have hbit : ∀ e : ℤ, ((Nat.pow 2 53 : ℕ) : ℚ) * 2 ^ e = 2 ^ (e + 53) := by
    intro e
    rw [zpow_add₀ (by norm_num), mul_comm]
    norm_num
  simp only [exponentOf, mul_le_scaled_iff _ _ hd, hbit]
  generalize he : max ((n.log2 : ℤ) - d.log2 - 53) minExponent = e
  split
  · rename_i hle
    exact ⟨by omega, hhigh.trans_le (mono (by omega)), .inr (by rwa [add_assoc, add_comm 1])⟩
  · rename_i hlt
    refine ⟨by omega, not_le.mp hlt, ?_⟩
    by_cases hmin : e = minExponent
    · exact .inl hmin
    · exact .inr ((mono (by omega)).trans hlow.le)

/-! ## Rounding a quotient -/

theorem scaled_cross {n d n' d' : ℕ} (hd : 0 < d) (hd' : 0 < d') (h : n * d' = n' * d) (e : ℤ) :
    (scaled n d e).1 * (scaled n' d' e).2 = (scaled n' d' e).1 * (scaled n d e).2 := by
  have hdq : (d : ℚ) ≠ 0 := by exact_mod_cast hd.ne'
  have hdq' : (d' : ℚ) ≠ 0 := by exact_mod_cast hd'.ne'
  have hb : ((scaled n d e).2 : ℚ) ≠ 0 := by exact_mod_cast (scaled_pos n hd e).ne'
  have hb' : ((scaled n' d' e).2 : ℚ) ≠ 0 := by exact_mod_cast (scaled_pos n' hd' e).ne'
  have hval : (n : ℚ) / d = n' / d' := by
    rw [div_eq_div_iff hdq hdq']
    exact_mod_cast h
  have hscaled := scaled_eq n d e
  rw [hval, ← scaled_eq n' d' e, div_eq_div_iff hb hb'] at hscaled
  exact_mod_cast hscaled

/-- Equal quotients have equal `roundRatio`. -/
theorem roundRatio_congr {n d n' d' : ℕ} (hd : 0 < d) (hd' : 0 < d') (h : n * d' = n' * d) :
    roundRatio n d = roundRatio n' d' := by
  by_cases hn : n = 0
  · have hn' : n' = 0 := by
      subst hn
      simpa [hd.ne'] using h.symm
    simp [roundRatio, hn, hn']
  · have hn' : n' ≠ 0 := by
      rintro rfl
      simp [hn, hd'.ne'] at h
    have hval : (n : ℚ) / d = n' / d' := by
      rw [div_eq_div_iff (by exact_mod_cast hd.ne') (by exact_mod_cast hd'.ne')]
      exact_mod_cast h
    have hexp : exponentOf n d = exponentOf n' d' :=
      (hval ▸ isExponent_exponentOf hn hd).unique (isExponent_exponentOf hn' hd')
    have hround := roundHalfEven_congr (scaled_pos n hd (exponentOf n' d'))
      (scaled_pos n' hd' (exponentOf n' d')) (scaled_cross hd hd' h _)
    simp only [roundRatio, hn, hn', if_false, hexp, hround]

/-! ## Magnitudes of the format -/

theorem isStored_zero : zero.IsStored := ⟨by decide, by decide, by decide, .inl rfl⟩

theorem IsStored.isExponent {m : Magnitude} (h : m.IsStored) : IsExponent m.value m.exponent where
  min_le := h.min_le
  lt := by
    rw [value, zpow_add₀ (by norm_num), mul_comm]
    gcongr
    exact_mod_cast h.mantissa_lt
  normal := by
    rcases h.normal with hmin | hle
    · exact .inl hmin
    · right
      rw [value, zpow_add₀ (by norm_num), mul_comm]
      gcongr
      exact_mod_cast hle

/-- On `IsStored` magnitudes, `roundRatio` is the identity. -/
theorem roundRatio_ratio {m : Magnitude} (h : m.IsStored) :
    roundRatio m.ratio.1 m.ratio.2 = some m := by
  by_cases hm : m.mantissa = 0
  · have hzero : m = zero := by
      rcases h.normal with hmin | hle
      · exact congrArg₂ Magnitude.mk hm hmin
      · omega
    subst hzero
    rfl
  · have hn : m.ratio.1 ≠ 0 := by
      unfold ratio
      split
      · exact Nat.mul_ne_zero hm (Nat.pow_pos (by decide)).ne'
      · exact hm
    have hexp : exponentOf m.ratio.1 m.ratio.2 = m.exponent :=
      (ratio_eq m ▸ isExponent_exponentOf hn m.ratio_pos).unique h.isExponent
    have hb : ((scaled m.ratio.1 m.ratio.2 m.exponent).2 : ℚ) ≠ 0 := by
      exact_mod_cast (scaled_pos _ m.ratio_pos _).ne'
    have hmantissa : (scaled m.ratio.1 m.ratio.2 m.exponent).1 =
        m.mantissa * (scaled m.ratio.1 m.ratio.2 m.exponent).2 := by
      have hval := scaled_eq m.ratio.1 m.ratio.2 m.exponent
      rw [ratio_eq, value, mul_div_assoc, div_self (zpow_ne_zero _ (by norm_num)), mul_one,
        div_eq_iff hb] at hval
      exact_mod_cast hval
    have hlt : m.mantissa ≠ Nat.pow 2 53 := h.mantissa_lt.ne
    simp only [roundRatio, hn, if_false, hexp, hmantissa,
      roundHalfEven_mul_self _ (scaled_pos _ m.ratio_pos _), hlt, h.le_max, if_true]

/-- What `roundRatio` gives: the `roundHalfEven` mantissa at `exponentOf`, or a carry into the next
exponent. -/
theorem roundRatio_cases {n d : ℕ} (hn : n ≠ 0) {m : Magnitude} (h : roundRatio n d = some m) :
    m.exponent ≤ maxExponent ∧ (m = ⟨2 ^ 52, exponentOf n d + 1⟩ ∨
      m.exponent = exponentOf n d ∧ m.mantissa ≠ 2 ^ 53 ∧
        m.mantissa =
          roundHalfEven (scaled n d (exponentOf n d)).1 (scaled n d (exponentOf n d)).2) := by
  simp only [roundRatio, hn, if_false] at h
  split at h
  · simp only [Option.ite_none_right_eq_some, Option.some.injEq] at h
    obtain ⟨hmax, rfl⟩ := h
    exact ⟨hmax, .inl rfl⟩
  · rename_i hne
    simp only [Option.ite_none_right_eq_some, Option.some.injEq] at h
    obtain ⟨hmax, rfl⟩ := h
    exact ⟨hmax, .inr ⟨rfl, hne, rfl⟩⟩

/-- Whatever `roundRatio` gives, `IsStored`. -/
theorem isStored_of_roundRatio {n d : ℕ} (hd : 0 < d) {m : Magnitude}
    (h : roundRatio n d = some m) :
    m.IsStored := by
  by_cases hn : n = 0
  · simp only [roundRatio, hn, if_true, Option.some.injEq] at h
    exact h ▸ isStored_zero
  · obtain ⟨hmin, hlt, hnormal⟩ := isExponent_exponentOf hn hd
    obtain ⟨hmax, rfl | ⟨hexp, hne, hmantissa⟩⟩ := roundRatio_cases hn h
    · exact ⟨Nat.pow_lt_pow_right (by decide) (by decide), Int.le_add_one hmin, hmax, .inr le_rfl⟩
    · rw [← hexp] at hmin hlt hnormal hmantissa
      have hle : m.mantissa ≤ 2 ^ 53 := by
        rw [hmantissa]
        refine roundHalfEven_le (not_le.mp ?_)
        rw [mul_le_scaled_iff _ _ hd, not_le]
        rwa [zpow_add₀ (by norm_num), mul_comm] at hlt
      refine ⟨lt_of_le_of_ne hle hne, hmin, hmax, ?_⟩
      rcases hnormal with heq | hge
      · exact .inl heq
      · right
        rw [hmantissa]
        refine le_roundHalfEven (scaled_pos n hd _) ?_
        rw [mul_le_scaled_iff _ _ hd]
        rwa [zpow_add₀ (by norm_num), mul_comm] at hge

/-- From one on, `roundRatio` does not give zero. -/
theorem mantissa_ne_zero_of_roundRatio {n d : ℕ} (hd : 0 < d) (hle : d ≤ n) {m : Magnitude}
    (h : roundRatio n d = some m) : m.mantissa ≠ 0 := by
  have hn : n ≠ 0 := (hd.trans_le hle).ne'
  obtain ⟨-, rfl | ⟨-, -, hmantissa⟩⟩ := roundRatio_cases hn h
  · exact (Nat.pow_pos (by decide)).ne'
  · rw [hmantissa, ← Nat.one_le_iff_ne_zero]
    refine le_roundHalfEven (scaled_pos n hd _) ?_
    rw [mul_le_scaled_iff _ _ hd, Nat.cast_one, one_mul]
    have hone : (2 : ℚ) ^ (0 : ℤ) ≤ n / d := by
      rw [zpow_zero, one_le_div (by exact_mod_cast hd)]
      exact_mod_cast hle
    rcases (isExponent_exponentOf hn hd).normal with heq | hge
    · rw [heq]
      exact (zpow_le_zpow_right₀ (by norm_num) (by decide)).trans hone
    · exact (zpow_le_zpow_right₀ (by norm_num) (by omega)).trans hge

/-! ## Reading a decimal numeral -/

theorem isStored_of_mul {x y m : Magnitude} (h : x.mul y = some m) : m.IsStored :=
  isStored_of_roundRatio (Nat.mul_pos x.ratio_pos y.ratio_pos) h

theorem isStored_of_div {x y m : Magnitude} (hy : y.mantissa ≠ 0) (h : x.div y = some m) :
    m.IsStored := by
  have hratio : 0 < y.ratio.1 := by
    unfold ratio
    split
    · exact Nat.mul_pos (Nat.pos_of_ne_zero hy) (Nat.pow_pos (by decide))
    · exact Nat.pos_of_ne_zero hy
  exact isStored_of_roundRatio (Nat.mul_pos x.ratio_pos hratio) h

theorem mantissa_ne_zero_of_tenPow {k : ℕ} {m : Magnitude} (h : tenPow k = some m) :
    m.mantissa ≠ 0 :=
  mantissa_ne_zero_of_roundRatio Nat.one_pos (Nat.pow_pos (by decide)) h

theorem isStored_of_scaleByTen {steps : ℕ} {x m : Magnitude} {e : ℤ} (hx : x.IsStored)
    (h : x.scaleByTen steps e = some m) : m.IsStored := by
  fun_induction scaleByTen steps x e with
  | case1 =>
    -- one product or quotient with a power of ten
    simp only [Option.bind_eq_bind, Option.bind_eq_some_iff] at h
    obtain ⟨p, hp, hround⟩ := h
    split at hround
    · exact isStored_of_mul hround
    · exact isStored_of_div (mantissa_ne_zero_of_tenPow hp) hround
  | case2 => exact Option.some.inj h ▸ hx
  | case3 => cases h
  | case4 => exact Option.some.inj h ▸ isStored_zero
  | case5 _ _ _ _ _ _ ih =>
    simp only [Option.bind_eq_bind, Option.bind_eq_some_iff] at h
    obtain ⟨p, hp, y, hy, hrest⟩ := h
    exact ih y (isStored_of_div (mantissa_ne_zero_of_tenPow hp) hy) hrest

end Magnitude

/-- Whatever `ofDecimal` reads, `IsStored`. -/
theorem Binary64.isStored_of_ofDecimal {negative : Bool} {significand : ℕ} {exponent : ℤ}
    {x : Binary64} (h : ofDecimal negative significand exponent = some x) :
    x.magnitude.IsStored := by
  simp only [ofDecimal, Option.bind_eq_bind, Option.bind_eq_some_iff, Option.some.injEq] at h
  obtain ⟨y, hy, m, hm, rfl⟩ := h
  exact Magnitude.isStored_of_scaleByTen (Magnitude.isStored_of_roundRatio Nat.one_pos hy) hm

end ToolGate.Decimal

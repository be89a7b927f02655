/-
Matching by sets of positions is right.

The positions that `ends` computes from those where an expression may start are the ends of the
stretches that the expression spans from there.

* `Times` — one stretch after another, a number of times. `spans_many_iff`: what a repetition spans.
* `Times.shorten` — steps that lead nowhere can be left out, so a repetition needs no more of them
  than the text has positions.
* `Follows` — a step on sets leads where a relation on positions says. `follows_iterate`,
  `follows_reach`: the rounds of a repetition do.
* `Ends` — the same for `ends` and the stretches of an expression. There is a lemma for each way to
  build an expression; `ends_mark` has all of them.
* `found_iff`, `whole_iff` — the decisions for `Found` and `Whole`.
-/
import Mathlib
import ToolGate.Regular.Search

namespace ToolGate.Regular

/-! ## Repeated steps -/

section

variable {R : Nat → Nat → Prop} {m n i j k : Nat}

/-- So many steps of `R` lead from one position to another. -/
def Times (R : Nat → Nat → Prop) : Nat → Nat → Nat → Prop
  | 0, i, k => i = k
  | n + 1, i, k => ∃ j, R i j ∧ Times R n j k

theorem times_add : Times R (m + n) i k ↔ ∃ j, Times R m i j ∧ Times R n j k := by
  induction m generalizing i with
  | zero => simp [Times]
  | succ m ih =>
    rw [Nat.succ_add]
    simp only [Times, ih]
    constructor
    · rintro ⟨a, ha, j, hj, hk⟩
      exact ⟨j, ⟨a, ha, hj⟩, hk⟩
    · rintro ⟨j, ⟨a, ha, hj⟩, hk⟩
      exact ⟨a, ha, j, hj, hk⟩

theorem Times.le (hle : ∀ i j, R i j → i ≤ j) (h : Times R n i k) : i ≤ k := by
  induction n generalizing i with
  | zero => exact h.le
  | succ n ih =>
    obtain ⟨j, hij, hjk⟩ := h
    exact (hle i j hij).trans (ih hjk)

/-- Steps that do not move on can be left out: `k - i` of them are enough. -/
theorem Times.shorten (hle : ∀ i j, R i j → i ≤ j) (h : Times R n i k) :
    ∃ m, m ≤ n ∧ m ≤ k - i ∧ Times R m i k := by
  induction n generalizing i with
  | zero => exact ⟨0, le_rfl, Nat.zero_le _, h⟩
  | succ n ih =>
    obtain ⟨j, hij, hjk⟩ := h
    obtain ⟨m, hmn, hm, hsteps⟩ := ih hjk
    -- a step that stays where it is goes; any other leaves fewer positions to those after it
    rcases (hle i j hij).eq_or_lt with rfl | hlt
    · exact ⟨m, by omega, hm, hsteps⟩
    · have hjk' := hjk.le hle
      exact ⟨m + 1, by omega, by omega, j, hij, hsteps⟩

/-- Any number of steps leads as far as `lo` of them and as many more as there are positions. -/
theorem Times.rounds (hle : ∀ i j, R i j → i ≤ j) (h : Times R n i k) {size lo : Nat}
    {hi : Option Nat} (hlo : lo ≤ n) (hhi : ∀ top, hi = some top → n ≤ top) (hk : k ≤ size) :
    ∃ j, Times R lo i j ∧
      ∃ m, m ≤ (hi.elim size fun top => min (top - lo) size) ∧ Times R m j k := by
  obtain ⟨more, rfl⟩ := Nat.exists_eq_add_of_le hlo
  obtain ⟨j, hij, hjk⟩ := times_add.mp h
  obtain ⟨m, hmore, hm, hshort⟩ := hjk.shorten hle
  refine ⟨j, hij, m, ?_, hshort⟩
  cases hi with
  | none => exact hm.trans ((Nat.sub_le k j).trans hk)
  | some top =>
    have := hhi top rfl
    exact le_min (by omega) (by omega)

end

/-! ## What expressions span -/

section

variable {σ α β : Type} {sat : α → σ → Bool} {test : β → Option σ → Option σ → Bool} {t : List σ}
  {e : Expr α β} {i j k lo : Nat} {hi : Option Nat}

/-- What an expression `Spans` lies in the text, and does not end before it starts. -/
theorem Spans.bounds (h : Spans sat test t e i j) : i ≤ j ∧ j ≤ t.length := by
  induction h with
  | empty h => exact ⟨le_rfl, h⟩
  | one h _ =>
    obtain ⟨hlt, -⟩ := List.getElem?_eq_some_iff.mp h
    omega
  | look h _ => exact ⟨le_rfl, h⟩
  | seq _ _ ihx ihy => omega
  | left _ ih => exact ih
  | right _ ih => exact ih
  | group _ ih => exact ih
  | stop h => exact ⟨le_rfl, h⟩
  | more _ _ _ ihx ihrest => omega

/-- A repetition spans stretches of its body one after another, as many as are allowed. -/
theorem spans_many_iff : Spans sat test t (.many lo hi e) i k ↔
    i ≤ t.length ∧ ∃ n, lo ≤ n ∧ (∀ m, hi = some m → n ≤ m) ∧ Times (Spans sat test t e) n i k := by
  constructor
  · intro h
    -- by induction on the stretches of the body, for all bounds: they get less with each one
    generalize hmany : Expr.many lo hi e = repeated at h
    induction h generalizing lo hi with
    | stop h =>
      cases hmany
      exact ⟨h, 0, le_rfl, fun _ _ => Nat.zero_le _, rfl⟩
    | more hx _ hhi _ ih =>
      cases hmany
      obtain ⟨-, n, hlo, hn, hsteps⟩ := ih rfl
      refine ⟨hx.bounds.1.trans hx.bounds.2, n + 1, by omega, ?_, _, hx, hsteps⟩
      rintro m rfl
      have hlast := hn (m - 1) rfl
      have hm : m ≠ 0 := fun h => hhi (by rw [h])
      omega
    | _ => cases hmany
  · rintro ⟨hi', n, hlo, hn, hsteps⟩
    induction n generalizing lo hi i with
    | zero =>
      obtain rfl : i = k := hsteps
      obtain rfl : lo = 0 := Nat.le_zero.mp hlo
      exact .stop hi'
    | succ n ih =>
      obtain ⟨j, hij, hjk⟩ := hsteps
      refine .more hij (ih hij.bounds.2 (by omega) (fun m hm => ?_) hjk) ?_
      · obtain ⟨top, htop, rfl⟩ := Option.map_eq_some_iff.mp hm
        have := hn top htop
        omega
      · rintro rfl
        have := hn 0 rfl
        omega

end

/-! ## Sets of positions -/

section

variable {σ : Type}

/-- A set of one position, or of none. -/
theorem testBit_single_iff {b : Bool} {i j : Nat} :
    (if b then 1 <<< i else 0 : Nat).testBit j = true ↔ j = i ∧ b = true := by
  cases b <;> simp [Nat.one_shiftLeft, Nat.testBit_two_pow, eq_comm]

theorem testBit_symbolsFrom (p : σ → Bool) (t : List σ) (i j : Nat) :
    (symbolsFrom p i t).testBit j = true ↔ ∃ k c, j = i + k ∧ t[k]? = some c ∧ p c = true := by
  induction t generalizing i with
  | nil => simp [symbolsFrom]
  | cons c rest ih =>
    rw [symbolsFrom, Nat.testBit_or, Bool.or_eq_true, testBit_single_iff, ih]
    constructor
    · rintro (⟨rfl, hc⟩ | ⟨k, d, rfl, hk, hd⟩)
      · exact ⟨0, c, rfl, rfl, hc⟩
      · exact ⟨k + 1, d, by omega, hk, hd⟩
    · rintro ⟨_ | k, d, rfl, hk, hd⟩
      · cases hk
        exact .inl ⟨rfl, hd⟩
      · exact .inr ⟨k, d, by omega, hk, hd⟩

theorem testBit_placesFrom (p : Option σ → Option σ → Bool) (t : List σ)
    (prev : Option σ) (i j : Nat) :
    (placesFrom p prev i t).testBit j = true ↔
      ∃ k, j = i + k ∧ k ≤ t.length ∧ p (if k = 0 then prev else before? t k) t[k]? = true := by
  induction t generalizing prev i with
  | nil =>
    rw [placesFrom, testBit_single_iff]
    simp
  | cons c rest ih =>
    rw [placesFrom, Nat.testBit_or, Bool.or_eq_true, testBit_single_iff, ih]
    constructor
    · rintro (⟨rfl, hc⟩ | ⟨k, rfl, hk, hp⟩)
      · exact ⟨0, rfl, Nat.zero_le _, hc⟩
      · refine ⟨k + 1, by omega, by simpa using hk, ?_⟩
        cases k <;> exact hp
    · rintro ⟨_ | k, rfl, hk, hp⟩
      · exact .inl ⟨rfl, hp⟩
      · refine .inr ⟨k, by omega, by simpa using hk, ?_⟩
        cases k <;> exact hp

end

/-- Rounds that `iterate` leaves out would not have changed the set. -/
theorem iterate_eq (step : Nat → Nat) (n s : Nat) : iterate step n s = step^[n] s := by
  induction n generalizing s with
  | zero => rfl
  | succ n ih =>
    rw [iterate, Function.iterate_succ_apply]
    split
    · next hfixed => rw [hfixed, Function.iterate_fixed hfixed]
    · exact ih (step s)

/-- To `reach` positions is to add those of one round, again and again. -/
theorem reach_eq (step : Nat → Nat) (n s : Nat) :
    reach step n s = (fun s => s ||| step s)^[n] s := by
  rw [← iterate_eq]
  induction n generalizing s with
  | zero => rfl
  | succ n ih => rw [reach, iterate, ih]

section

variable {R : Nat → Nat → Prop} {size : Nat} {step : Nat → Nat} {s : Nat}

/-- All positions of the set `s` are below `size`. -/
def Below (size s : Nat) : Prop := ∀ i, s.testBit i = true → i < size

/-- A `step` on sets of positions leads, from each position, where `R` says. -/
def Follows (size : Nat) (step : Nat → Nat) (R : Nat → Nat → Prop) : Prop :=
  ∀ s, Below size s → ∀ j, (step s).testBit j = true ↔ ∃ i, s.testBit i = true ∧ R i j

theorem Follows.below (h : Follows size step R) (hR : ∀ i j, R i j → j < size) (hs : Below size s) :
    Below size (step s) := by
  intro j hj
  obtain ⟨i, -, hij⟩ := (h s hs j).mp hj
  exact hR i j hij

theorem Follows.below_iterate (h : Follows size step R) (hR : ∀ i j, R i j → j < size) (n : Nat)
    (hs : Below size s) : Below size (iterate step n s) := by
  rw [iterate_eq]
  induction n generalizing s with
  | zero => exact hs
  | succ n ih => exact ih (h.below hR hs)

theorem follows_iterate (h : Follows size step R) (hR : ∀ i j, R i j → j < size) (n : Nat) :
    Follows size (iterate step n) (Times R n) := by
  intro s hs j
  rw [iterate_eq]
  induction n generalizing s with
  | zero => simp [Times]
  | succ n ih =>
    rw [Function.iterate_succ_apply, ih _ (h.below hR hs)]
    simp only [h s hs, Times]
    constructor
    · rintro ⟨a, ⟨i, hi, hia⟩, haj⟩
      exact ⟨i, hi, a, hia, haj⟩
    · rintro ⟨i, hi, a, hia, haj⟩
      exact ⟨a, ⟨i, hi, hia⟩, haj⟩

theorem follows_reach (h : Follows size step R) (hR : ∀ i j, R i j → j < size) (n : Nat) :
    Follows size (reach step n) fun i j => ∃ k, k ≤ n ∧ Times R k i j := by
  intro s hs j
  rw [reach_eq]
  induction n generalizing s with
  | zero =>
    constructor
    · exact fun hj => ⟨j, hj, 0, le_rfl, rfl⟩
    · rintro ⟨i, hi, k, hk, hsteps⟩
      obtain rfl : k = 0 := Nat.le_zero.mp hk
      obtain rfl : i = j := hsteps
      exact hi
  | succ n ih =>
    have hnext : Below size (s ||| step s) := by
      intro i hi
      rw [Nat.testBit_or, Bool.or_eq_true] at hi
      exact hi.elim (hs i) (h.below hR hs i)
    rw [Function.iterate_succ_apply, ih _ hnext]
    simp only [Nat.testBit_or, Bool.or_eq_true, h s hs]
    constructor
    · rintro ⟨i, hi | ⟨a, ha, hai⟩, k, hk, hsteps⟩
      · exact ⟨i, hi, k, by omega, hsteps⟩
      · exact ⟨a, ha, k + 1, by omega, i, hai, hsteps⟩
    · rintro ⟨i, hi, k, hk, hsteps⟩
      cases k with
      | zero => exact ⟨i, .inl hi, 0, Nat.zero_le _, hsteps⟩
      | succ k =>
        obtain ⟨a, hia, haj⟩ := hsteps
        exact ⟨a, .inr ⟨i, hi, hia⟩, k, by omega, haj⟩

end

/-! ## The ends of stretches -/

/-- The rounds of a repetition, as `iterate` and `reach`. -/
theorem ends_many (size lo : Nat) (hi : Option Nat) (x : Expr Nat Nat) (s : Nat)
    (hroom : ∀ top, hi = some top → lo ≤ top) :
    ends size (.many lo hi x) s =
      reach (ends size x) (hi.elim size fun top => min (top - lo) size)
        (iterate (ends size x) lo s) := by
  cases hi with
  | none => rfl
  | some top => simp only [ends, if_neg (Nat.not_lt.mpr (hroom top rfl)), Option.elim_some]

section

variable {σ α β : Type} {sat : α → σ → Bool} {test : β → Option σ → Option σ → Bool} {t : List σ}

/-- What `ends` computes for the marked expression are the ends of the stretches that `e`
`Spans`. -/
def Ends (sat : α → σ → Bool) (test : β → Option σ → Option σ → Bool) (t : List σ)
    (marked : Expr Nat Nat) (e : Expr α β) : Prop :=
  Follows (t.length + 1) (ends (t.length + 1) marked) (Spans sat test t e)

theorem ends_one (a : α) : Ends sat test t (.one (symbolsFrom (sat a) 0 t)) (.one a) := by
  intro s hs j
  simp only [ends, Nat.testBit_shiftLeft, Nat.testBit_and, Bool.and_eq_true, decide_eq_true_eq,
    testBit_symbolsFrom]
  constructor
  · rintro ⟨hj, hi, k, c, hk, hc, ha⟩
    refine ⟨j - 1, hi, ?_⟩
    obtain rfl : j = k + 1 := by omega
    exact .one hc ha
  · rintro ⟨i, hi, hij⟩
    cases hij with
    | one hc ha => exact ⟨by omega, hi, i, _, by omega, hc, ha⟩

theorem ends_look (b : β) : Ends sat test t (.look (placesFrom (test b) none 0 t)) (.look b) := by
  intro s hs j
  simp only [ends, Nat.testBit_and, Bool.and_eq_true, testBit_placesFrom]
  constructor
  · rintro ⟨hj, k, hk, hlt, hb⟩
    obtain rfl : j = k := by omega
    refine ⟨j, hj, .look hlt ?_⟩
    cases j <;> exact hb
  · rintro ⟨i, hi, hij⟩
    cases hij with
    | look hlt hb =>
      refine ⟨hi, j, by omega, hlt, ?_⟩
      cases j <;> exact hb

variable {x y : Expr α β} {markedX markedY : Expr Nat Nat}

/-- Stretches end in the text. -/
theorem Spans.lt_size {e : Expr α β} (i j : Nat) (h : Spans sat test t e i j) : j < t.length + 1 :=
  Nat.lt_succ_of_le h.bounds.2

theorem Ends.seq (hx : Ends sat test t markedX x) (hy : Ends sat test t markedY y) :
    Ends sat test t (.seq markedX markedY) (.seq x y) := by
  intro s hs j
  refine (hy _ (Follows.below hx Spans.lt_size hs) j).trans ?_
  simp only [hx s hs]
  constructor
  · rintro ⟨k, ⟨i, hi, hik⟩, hkj⟩
    exact ⟨i, hi, .seq hik hkj⟩
  · rintro ⟨i, hi, hij⟩
    cases hij with
    | seq hik hkj => exact ⟨_, ⟨i, hi, hik⟩, hkj⟩

theorem Ends.alt (hx : Ends sat test t markedX x) (hy : Ends sat test t markedY y) :
    Ends sat test t (.alt markedX markedY) (.alt x y) := by
  intro s hs j
  rw [ends, Nat.testBit_or, Bool.or_eq_true, hx s hs, hy s hs]
  constructor
  · rintro (⟨i, hi, hij⟩ | ⟨i, hi, hij⟩)
    · exact ⟨i, hi, .left hij⟩
    · exact ⟨i, hi, .right hij⟩
  · rintro ⟨i, hi, hij⟩
    cases hij with
    | left hspans => exact .inl ⟨i, hi, hspans⟩
    | right hspans => exact .inr ⟨i, hi, hspans⟩

theorem Ends.group (hx : Ends sat test t markedX x) :
    Ends sat test t (.group markedX) (.group x) := by
  intro s hs j
  refine (hx s hs j).trans ⟨?_, ?_⟩
  · rintro ⟨i, hi, hij⟩
    exact ⟨i, hi, .group hij⟩
  · rintro ⟨i, hi, hij⟩
    cases hij with
    | group hspans => exact ⟨i, hi, hspans⟩

/-- The rounds that `Times.rounds` counts find every stretch of a repetition. -/
theorem Ends.many (hx : Ends sat test t markedX x) (lo : Nat) (hi : Option Nat) :
    Ends sat test t (.many lo hi markedX) (.many lo hi x) := by
  intro s hs j
  by_cases hroom : ∀ top, hi = some top → lo ≤ top
  · rw [ends_many _ _ _ _ _ hroom,
      follows_reach hx Spans.lt_size _ _ (Follows.below_iterate hx Spans.lt_size lo hs)]
    simp only [follows_iterate hx Spans.lt_size lo s hs]
    constructor
    · rintro ⟨k, ⟨i, hstart, hik⟩, m, hm, hkj⟩
      have hcount : ∀ top, hi = some top → lo + m ≤ top := by
        rintro top rfl
        have hmtop : m ≤ top - lo := hm.trans (min_le_left _ _)
        have := hroom top rfl
        omega
      exact ⟨i, hstart, spans_many_iff.mpr ⟨Nat.le_of_lt_succ (hs i hstart), lo + m,
        Nat.le_add_right _ _, hcount, times_add.mpr ⟨k, hik, hkj⟩⟩⟩
    · rintro ⟨i, hstart, hij⟩
      obtain ⟨-, n, hlo, hn, hsteps⟩ := spans_many_iff.mp hij
      obtain ⟨k, hik, hrest⟩ :=
        hsteps.rounds (fun _ _ h => h.bounds.1) hlo hn (Nat.le_succ_of_le hij.bounds.2)
      exact ⟨k, ⟨i, hstart, hik⟩, hrest⟩
  · -- more rounds are asked for than are allowed
    push Not at hroom
    obtain ⟨top, rfl, htop⟩ := hroom
    have hnone : ends (t.length + 1) (.many lo (some top) markedX) s = 0 := if_pos htop
    rw [hnone, Nat.zero_testBit]
    constructor
    · nofun
    · rintro ⟨i, -, hij⟩
      obtain ⟨-, n, hlo, hn, -⟩ := spans_many_iff.mp hij
      have := hn top rfl
      omega

end

section

variable {σ α β : Type} (sat : α → σ → Bool) (test : β → Option σ → Option σ → Bool) (t : List σ)

/-- An expression that is marked has the `Ends` of the expression. -/
theorem ends_mark (e : Expr α β) : Ends sat test t (e.mark sat test t) e := by
  induction e with
  | nothing =>
    intro s hs j
    simp only [Expr.mark, Expr.map, ends, Nat.zero_testBit]
    constructor
    · nofun
    · rintro ⟨i, -, hij⟩
      cases hij
  | empty =>
    intro s hs j
    constructor
    · exact fun hj => ⟨j, hj, .empty (Nat.le_of_lt_succ (hs j hj))⟩
    · rintro ⟨i, hi, hij⟩
      cases hij
      exact hi
  | one a => exact ends_one a
  | look b => exact ends_look b
  | seq x y ihx ihy => exact ihx.seq ihy
  | alt x y ihx ihy => exact ihx.alt ihy
  | many lo hi x ih => exact ih.many lo hi
  | group x ih => exact ih.group

/-! ## The decisions -/

/-- The search `found` decides `Found`. -/
theorem found_iff (e : Expr α β) : found sat test e t = true ↔ Found sat test e t := by
  have hall : ∀ i, (1 <<< (t.length + 1) - 1 : Nat).testBit i = true ↔ i < t.length + 1 := by
    intro i
    rw [Nat.one_shiftLeft, Nat.testBit_two_pow_sub_one, decide_eq_true_eq]
  have hends := ends_mark sat test t e _ fun i hi => (hall i).mp hi
  rw [found, bne_iff_ne]
  constructor
  · intro hne
    obtain ⟨j, hj⟩ := Nat.exists_testBit_of_ne_zero hne
    obtain ⟨i, -, hij⟩ := (hends j).mp hj
    exact ⟨i, j, hij⟩
  · rintro ⟨i, j, hij⟩ hzero
    have hstart := (hall i).mpr (Nat.lt_succ_of_le (hij.bounds.1.trans hij.bounds.2))
    have hj := (hends j).mpr ⟨i, hstart, hij⟩
    rw [hzero, Nat.zero_testBit] at hj
    cases hj

/-- The search `whole` decides `Whole`. -/
theorem whole_iff (e : Expr α β) : whole sat test e t = true ↔ Whole sat test e t := by
  have hone : ∀ i, (1 : Nat).testBit i = true ↔ i = 0 :=
    fun i => Nat.testBit_one_eq_true_iff_self_eq_zero
  have hstart : Below (t.length + 1) 1 := fun i hi => (hone i).mp hi ▸ Nat.succ_pos _
  rw [whole, ends_mark sat test t e 1 hstart]
  simp only [hone, exists_eq_left]
  rfl

end

end ToolGate.Regular

/-
The text of a value can be read in one way only.

Two texts of values that go on in some way are compared from the left. What follows a number has to
start with something that no numeral holds, because a numeral does not show where it ends; texts,
lists and objects are closed by their last character.

* `scanChars_escape` — a text in quotes is read back, so it shows where it ends and which text it
  is.
* `renderNumber_append_inj` — so does a number before anything that is not part of a numeral.
* `WellFormed.readable` — so does every well-formed value, by induction on its parts.
-/
import Mathlib
import ToolGate.Json.Printer
import ToolGate.Json.Scan
import ToolGate.Proofs.Decimal.Numeral
import ToolGate.Proofs.Json.Sameness

namespace ToolGate.Json

/-! ## Texts -/

/-- The escape of a control character is read back by `scanEscape`. -/
theorem scanEscape_control {c : Char} (hc : c.toNat < 0x20) (rest : List Char) :
    scanEscape ('u' :: '0' :: '0' :: hexDigit (c.toNat / 16) :: hexDigit (c.toNat % 16) :: rest) =
      .ok (c, rest) := by
  have hdigits : ∀ n < 0x20, hexValue? (hexDigit (n / 16)) = some (n / 16) ∧
      hexValue? (hexDigit (n % 16)) = some (n % 16) := by decide
  obtain ⟨hhigh, hlow⟩ := hdigits c.toNat hc
  have hzero : hexValue? '0' = some 0 := by decide
  have hunits :
      scanHex4 ('0' :: '0' :: hexDigit (c.toNat / 16) :: hexDigit (c.toNat % 16) :: rest) =
        .ok (c.toNat, rest) := by
    simp only [scanHex4, hzero, hhigh, hlow, Except.ok.injEq, Prod.mk.injEq, and_true]
    omega
  have hlone : isLowSurrogate c.toNat = false := by
    simp only [isLowSurrogate, Bool.and_eq_false_iff, decide_eq_false_iff_not]
    omega
  have hpaired : isHighSurrogate c.toNat = false := by
    simp only [isHighSurrogate, Bool.and_eq_false_iff, decide_eq_false_iff_not]
    omega
  simp only [scanEscape, if_true, scanCodeUnits, hunits, hlone, hpaired, Char.ofNat_toNat,
    Bool.false_eq_true, if_false]

/-- Either `escapeChar` leaves the character alone, or `scanEscape` reads it back. -/
theorem escapeChar_cases (c : Char) :
    (escapeChar c = [c] ∧ c ≠ '"' ∧ c ≠ '\\' ∧ ¬ c.toNat < 0x20) ∨
      ∃ ds, escapeChar c = '\\' :: ds ∧ ∀ rest, scanEscape (ds ++ rest) = .ok (c, rest) := by
  unfold escapeChar
  split_ifs with hquote hbackslash hb hf hn hr ht hcontrol
  · exact .inr ⟨_, rfl, fun _ => by rw [hquote]; rfl⟩
  · exact .inr ⟨_, rfl, fun _ => by rw [hbackslash]; rfl⟩
  · exact .inr ⟨_, rfl, fun _ => by rw [hb]; rfl⟩
  · exact .inr ⟨_, rfl, fun _ => by rw [hf]; rfl⟩
  · exact .inr ⟨_, rfl, fun _ => by rw [hn]; rfl⟩
  · exact .inr ⟨_, rfl, fun _ => by rw [hr]; rfl⟩
  · exact .inr ⟨_, rfl, fun _ => by rw [ht]; rfl⟩
  · exact .inr ⟨_, rfl, fun rest => scanEscape_control hcontrol rest⟩
  · exact .inl ⟨rfl, hquote, hbackslash, hcontrol⟩

/-- With enough fuel, `scanChars` undoes `escape`. -/
theorem scanChars_escape (rest : List Char) :
    ∀ (cs : List Char) (fuel : ℕ), cs.length < fuel →
      scanChars fuel (escape cs ++ '"' :: rest) = .ok (cs, rest)
  | [], fuel + 1, _ => rfl
  | c :: cs, fuel + 1, hfuel => by
    have ih := scanChars_escape rest cs fuel (Nat.lt_of_succ_lt_succ hfuel)
    rw [escape, List.append_assoc]
    obtain ⟨heq, hquote, hbackslash, hcontrol⟩ | ⟨ds, heq, hread⟩ := escapeChar_cases c
    · simp only [heq, List.cons_append, List.nil_append, scanChars, if_neg hquote,
        if_neg hbackslash, if_neg hcontrol, ih]
      rfl
    · simp only [heq, List.cons_append, scanChars, if_true, hread, ih]
      rfl

/-- An `escape` up to its closing quote determines the text and the rest. -/
theorem escape_append_inj {cs cs' rest rest' : List Char}
    (h : escape cs ++ '"' :: rest = escape cs' ++ '"' :: rest') : cs = cs' ∧ rest = rest' := by
  have hread := scanChars_escape rest cs (cs.length + cs'.length + 1) (by omega)
  rw [h, scanChars_escape rest' cs' _ (by omega)] at hread
  simp only [Except.ok.injEq, Prod.mk.injEq] at hread
  exact ⟨hread.1.symm, hread.2.symm⟩

theorem renderText_append_inj {s s' : String} {rest rest' : List Char}
    (h : renderText s ++ rest = renderText s' ++ rest') : s = s' ∧ rest = rest' := by
  simp only [renderText, List.cons_append, List.append_assoc, List.nil_append, List.cons.injEq,
    true_and] at h
  obtain ⟨hs, hrest⟩ := escape_append_inj h
  exact ⟨String.toList_injective hs, hrest⟩

/-! ## Numbers -/

open Decimal (isNumeralChar AllDigits allDigits_digitsOf digitsOf)

theorem digitsOf_injective {n m : ℕ} (h : digitsOf n = digitsOf m) : n = m := by
  have hread : ∀ k : ℕ, Nat.ofDigitChars 10 (digitsOf k) 0 = k := fun _ =>
    Nat.ofDigitChars_ten_toDigits
  rw [← hread n, ← hread m, h]

theorem digitsOf_head (n : ℕ) : ∃ d ds, digitsOf n = d :: ds ∧ d.isDigit = true := by
  obtain ⟨d, ds, hd⟩ := List.exists_cons_of_ne_nil (Nat.toDigits_ne_nil (n := n) (b := 10))
  exact ⟨d, ds, hd, allDigits_digitsOf n d (by rw [digitsOf, hd]; exact List.mem_cons_self)⟩

theorem integerText_injective {n m : ℤ} (h : integerText n = integerText m) : n = m := by
  cases n with
  | ofNat k =>
    cases m with
    | ofNat l => exact congrArg Int.ofNat (digitsOf_injective h)
    | negSucc l =>
      obtain ⟨d, ds, hd, hdigit⟩ := digitsOf_head k
      simp only [integerText, hd, List.cons.injEq] at h
      rw [h.1] at hdigit
      exact absurd hdigit (by decide)
  | negSucc k =>
    cases m with
    | ofNat l =>
      obtain ⟨d, ds, hd, hdigit⟩ := digitsOf_head l
      simp only [integerText, hd, List.cons.injEq] at h
      rw [← h.1] at hdigit
      exact absurd hdigit (by decide)
    | negSucc l =>
      have hkl : k + 1 = l + 1 := digitsOf_injective (List.cons.inj h).2
      rw [Nat.succ.inj hkl]

/-- In `integerText` there are digits and a minus, and no more. -/
theorem integerText_chars (n : ℤ) : ∀ c ∈ integerText n, c.isDigit = true ∨ c = '-' := by
  intro c hc
  cases n with
  | ofNat k => exact .inl (allDigits_digitsOf k c hc)
  | negSucc k =>
    rcases List.mem_cons.mp hc with rfl | hc
    · exact .inr rfl
    · exact .inl (allDigits_digitsOf _ c hc)

theorem renderNumber_all (n : Number) : (renderNumber n).all isNumeralChar = true := by
  cases n with
  | integer n =>
    rw [List.all_eq_true]
    intro c hc
    rcases integerText_chars n c hc with hdigit | rfl
    · simp [isNumeralChar, hdigit]
    · rfl
  | real x => exact Decimal.Binary64.all_text x

theorem integerText_ne_render (n : ℤ) (x : Decimal.Binary64) : integerText n ≠ x.render := by
  intro heq
  have hno : ∀ c ∈ x.render, c.isDigit = true ∨ c = '-' := heq ▸ integerText_chars n
  rcases Decimal.Binary64.mark_mem_text x with hmark | hmark
  · exact absurd (hno '.' hmark) (by decide)
  · exact absurd (hno 'e' hmark) (by decide)

theorem renderNumber_injective {n m : Number} (hn : n.IsStored) (hm : m.IsStored)
    (h : renderNumber n = renderNumber m) : n = m := by
  cases n with
  | integer n =>
    cases m with
    | integer m => exact congrArg _ (integerText_injective h)
    | real y => exact absurd h (integerText_ne_render n y)
  | real x =>
    cases m with
    | integer m => exact absurd h.symm (integerText_ne_render m x)
    | real y => exact congrArg _ (Decimal.Binary64.render_injective hn hm h)

/-- Nothing of a numeral follows. -/
def Ends (rest : List Char) : Prop := ∀ c cs, rest = c :: cs → isNumeralChar c = false

theorem ends_nil : Ends [] := fun _ _ h => nomatch h

theorem ends_cons {c : Char} (hc : isNumeralChar c = false) (cs : List Char) : Ends (c :: cs) := by
  intro d ds h
  rw [← (List.cons.inj h).1]
  exact hc

theorem takeWhile_numeral {cs rest : List Char} (hcs : cs.all isNumeralChar = true)
    (h : Ends rest) :
    (cs ++ rest).takeWhile isNumeralChar = cs := by
  rw [List.takeWhile_append_of_pos (List.all_eq_true.mp hcs)]
  cases rest with
  | nil => simp
  | cons c rest => simp [h c rest rfl]

/-- A `renderNumber` with a rest that `Ends` determines the number and the rest. -/
theorem renderNumber_append_inj {n m : Number} (hn : n.IsStored) (hm : m.IsStored)
    {rest rest' : List Char} (hrest : Ends rest) (hrest' : Ends rest')
    (h : renderNumber n ++ rest = renderNumber m ++ rest') : n = m ∧ rest = rest' := by
  have htext : renderNumber n = renderNumber m := by
    rw [← takeWhile_numeral (renderNumber_all n) hrest, h,
      takeWhile_numeral (renderNumber_all m) hrest']
  rw [htext] at h
  exact ⟨renderNumber_injective hn hm htext, List.append_cancel_left h⟩

/-! ## Values -/

/-- The constructor index of values that start with `c`. -/
def sortAt (c : Char) : ℕ :=
  if c = 'n' then 0
  else if c = 't' ∨ c = 'f' then 1
  else if c = '"' then 3
  else if c = '[' then 4
  else if c = '\x7b' then 5
  else 2

theorem renderNumber_head (n : Number) :
    ∃ c cs, renderNumber n = c :: cs ∧ isNumeralChar c = true := by
  have hne : renderNumber n ≠ [] := by
    cases n with
    | integer n =>
      cases n with
      | ofNat k =>
        obtain ⟨d, ds, hd, -⟩ := digitsOf_head k
        simp [renderNumber, integerText, hd]
      | negSucc k => simp [renderNumber, integerText]
    | real x =>
      rcases Decimal.Binary64.mark_mem_text x with hmark | hmark <;> exact List.ne_nil_of_mem hmark
  obtain ⟨c, cs, heq⟩ := List.exists_cons_of_ne_nil hne
  have hall := renderNumber_all n
  rw [heq, List.all_cons, Bool.and_eq_true] at hall
  exact ⟨c, cs, heq, hall.1⟩

/-- The first character of a `render` tells the constructor, and is no `]`. -/
theorem render_head (j : Json) :
    ∃ c cs, j.render = c :: cs ∧ sortAt c = j.ctorIdx ∧ c ≠ ']' := by
  cases j with
  | null => exact ⟨_, _, by rw [render], by decide, by decide⟩
  | boolean b => cases b <;> exact ⟨_, _, by rw [render, renderBoolean], by decide, by decide⟩
  | number n =>
    obtain ⟨c, cs, heq, hc⟩ := renderNumber_head n
    have hne : ∀ d, isNumeralChar d = false → c ≠ d := by
      rintro d hd rfl
      rw [hd] at hc
      exact absurd hc (by decide)
    refine ⟨c, cs, by rw [render, heq], ?_, hne ']' rfl⟩
    simp [sortAt, hne 'n' rfl, hne 't' rfl, hne 'f' rfl, hne '"' rfl, hne '[' rfl, hne '\x7b' rfl,
      Json.ctorIdx]
  | text s => exact ⟨_, _, by rw [render, renderText], rfl, by decide⟩
  | list xs => cases xs <;> exact ⟨_, _, by rw [render], rfl, by decide⟩
  | object fs =>
    cases fs with
    | nil => exact ⟨_, _, by rw [render], rfl, by decide⟩
    | cons field rest => exact ⟨_, _, by rw [render], rfl, by decide⟩

theorem ctorIdx_eq_of_render {j j' : Json} {rest rest' : List Char}
    (h : j.render ++ rest = j'.render ++ rest') : j.ctorIdx = j'.ctorIdx := by
  obtain ⟨c, cs, hc, hsort, -⟩ := render_head j
  obtain ⟨c', cs', hc', hsort', -⟩ := render_head j'
  rw [hc, hc', List.cons_append, List.cons_append, List.cons.injEq] at h
  rw [← hsort, ← hsort', h.1]

theorem ends_renderItems (xs : List Json) (rest : List Char) : Ends (renderItems xs ++ rest) := by
  cases xs <;> rw [renderItems] <;> exact ends_cons rfl _

theorem ends_renderFields (fs : Fields) (rest : List Char) : Ends (renderFields fs ++ rest) := by
  cases fs <;> rw [renderFields] <;> exact ends_cons rfl _

/-- Among `WellFormed` values and rests that `Ends`, the `render` of `j` determines both `j` and the
rest. -/
def Readable (j : Json) : Prop :=
  ∀ {j' : Json} {rest rest' : List Char}, WellFormed j' → Ends rest → Ends rest' →
    j.render ++ rest = j'.render ++ rest' → j = j' ∧ rest = rest'

theorem renderItems_append_inj {xs ys : List Json} {rest rest' : List Char}
    (hxs : ∀ x ∈ xs, Readable x) (hys : ∀ y ∈ ys, WellFormed y)
    (h : renderItems xs ++ rest = renderItems ys ++ rest') : xs = ys ∧ rest = rest' := by
  induction xs generalizing ys with
  | nil =>
    cases ys with
    | nil => simpa [renderItems] using h
    | cons y ys => simp [renderItems] at h
  | cons x xs ih =>
    cases ys with
    | nil => simp [renderItems] at h
    | cons y ys =>
      simp only [renderItems, List.cons_append, List.append_assoc, List.cons.injEq, true_and] at h
      obtain ⟨hx, hitems⟩ := hxs x List.mem_cons_self (hys y List.mem_cons_self)
        (ends_renderItems xs rest) (ends_renderItems ys rest') h
      obtain ⟨hrest, hends⟩ := ih (fun z hz => hxs z (List.mem_cons_of_mem _ hz))
        (fun z hz => hys z (List.mem_cons_of_mem _ hz)) hitems
      exact ⟨by rw [hx, hrest], hends⟩

/-- A field is as `Readable` as its value. -/
theorem field_append_inj {k k' : String} {v v' : Json} {rest rest' : List Char} (hv : Readable v)
    (hv' : WellFormed v') (hrest : Ends rest) (hrest' : Ends rest')
    (h : renderText k ++ ':' :: (v.render ++ rest) = renderText k' ++ ':' :: (v'.render ++ rest')) :
    k = k' ∧ v = v' ∧ rest = rest' := by
  obtain ⟨hk, htail⟩ := renderText_append_inj h
  obtain ⟨hvalue, hends⟩ := hv hv' hrest hrest' (List.cons.inj htail).2
  exact ⟨hk, hvalue, hends⟩

theorem renderFields_append_inj {fs fs' : Fields} {rest rest' : List Char}
    (hfs : ∀ k v, (k, v) ∈ fs → Readable v) (hfs' : ∀ k v, (k, v) ∈ fs' → WellFormed v)
    (h : renderFields fs ++ rest = renderFields fs' ++ rest') : fs = fs' ∧ rest = rest' := by
  induction fs generalizing fs' with
  | nil =>
    cases fs' with
    | nil => simpa [renderFields] using h
    | cons field' fs' => simp [renderFields] at h
  | cons field fs ih =>
    cases fs' with
    | nil => simp [renderFields] at h
    | cons field' fs' =>
      obtain ⟨k, v⟩ := field
      obtain ⟨k', v'⟩ := field'
      simp only [renderFields, List.cons_append, List.append_assoc, List.cons.injEq, true_and] at h
      obtain ⟨hk, hv, hfields⟩ := field_append_inj (hfs k v List.mem_cons_self)
        (hfs' k' v' List.mem_cons_self) (ends_renderFields fs rest) (ends_renderFields fs' rest') h
      obtain ⟨hrest, hends⟩ := ih (fun q w hw => hfs q w (List.mem_cons_of_mem _ hw))
        (fun q w hw => hfs' q w (List.mem_cons_of_mem _ hw)) hfields
      exact ⟨by rw [hk, hv, hrest], hends⟩

theorem readable_list {xs : List Json} (hxs : ∀ x ∈ xs, Readable x) : Readable (.list xs) := by
  intro j' rest rest' hj' hrest hrest' h
  cases hj' with
  | @list ys hys =>
    -- an empty list is closed where another one has its first item, which does not begin so
    cases xs with
    | nil =>
      cases ys with
      | nil => simpa [render] using h
      | cons y ys =>
        obtain ⟨c, cs, hc, -, hne⟩ := render_head y
        simp [render, hc, Ne.symm hne] at h
    | cons x xs =>
      cases ys with
      | nil =>
        obtain ⟨c, cs, hc, -, hne⟩ := render_head x
        simp [render, hc, hne] at h
      | cons y ys =>
        simp only [render, List.cons_append, List.append_assoc, List.cons.injEq, true_and] at h
        obtain ⟨hx, hitems⟩ := hxs x List.mem_cons_self (hys y List.mem_cons_self)
          (ends_renderItems xs rest) (ends_renderItems ys rest') h
        obtain ⟨hxs', hends⟩ := renderItems_append_inj
          (fun z hz => hxs z (List.mem_cons_of_mem _ hz))
          (fun z hz => hys z (List.mem_cons_of_mem _ hz)) hitems
        exact ⟨by rw [hx, hxs'], hends⟩
  | _ => exact absurd (ctorIdx_eq_of_render h) (by simp [Json.ctorIdx])

theorem readable_object {fs : Fields} (hfs : ∀ k v, (k, v) ∈ fs → Readable v) :
    Readable (.object fs) := by
  intro j' rest rest' hj' hrest hrest' h
  cases hj' with
  | @object fs' _ hfs' =>
    cases fs with
    | nil =>
      cases fs' with
      | nil => simpa [render] using h
      | cons field' fs' => simp [render, renderText] at h
    | cons field fs =>
      cases fs' with
      | nil => simp [render, renderText] at h
      | cons field' fs' =>
        obtain ⟨k, v⟩ := field
        obtain ⟨k', v'⟩ := field'
        simp only [render, List.cons_append, List.append_assoc, List.cons.injEq, true_and] at h
        obtain ⟨hk, hv, hfields⟩ := field_append_inj
          (hfs k v List.mem_cons_self) (hfs' k' v' List.mem_cons_self)
          (ends_renderFields fs rest) (ends_renderFields fs' rest') h
        obtain ⟨hfs'', hends⟩ := renderFields_append_inj
          (fun q w hw => hfs q w (List.mem_cons_of_mem _ hw))
          (fun q w hw => hfs' q w (List.mem_cons_of_mem _ hw)) hfields
        exact ⟨by rw [hk, hv, hfs''], hends⟩
  | _ => exact absurd (ctorIdx_eq_of_render h) (by simp [Json.ctorIdx])

/-- Every `WellFormed` value is `Readable`. -/
theorem WellFormed.readable {j : Json} (hj : WellFormed j) : Readable j := by
  induction hj with
  | list _ ih => exact readable_list ih
  | object _ _ ih => exact readable_object ih
  | null =>
    intro j' rest rest' hj' _ _ h
    cases hj' with
    | null => exact ⟨rfl, List.append_cancel_left h⟩
    | _ => exact absurd (ctorIdx_eq_of_render h) (by simp [Json.ctorIdx])
  | boolean b =>
    intro j' rest rest' hj' _ _ h
    cases hj' with
    | boolean b' => cases b <;> cases b' <;> simp_all [render, renderBoolean]
    | _ => exact absurd (ctorIdx_eq_of_render h) (by simp [Json.ctorIdx])
  | number hn =>
    intro j' rest rest' hj' hrest hrest' h
    cases hj' with
    | number hm =>
      obtain ⟨heq, hends⟩ := renderNumber_append_inj hn hm hrest hrest' (by simpa [render] using h)
      exact ⟨congrArg _ heq, hends⟩
    | _ => exact absurd (ctorIdx_eq_of_render h) (by simp [Json.ctorIdx])
  | text s =>
    intro j' rest rest' hj' _ _ h
    cases hj' with
    | text s' =>
      obtain ⟨heq, hends⟩ := renderText_append_inj (by simpa [render] using h)
      exact ⟨congrArg _ heq, hends⟩
    | _ => exact absurd (ctorIdx_eq_of_render h) (by simp [Json.ctorIdx])

/-- On `WellFormed` values, `render` is injective. -/
theorem render_injective {j j' : Json} (hj : WellFormed j) (hj' : WellFormed j')
    (h : j.render = j'.render) : j = j' :=
  (hj.readable hj' ends_nil ends_nil (by rw [h])).1

end ToolGate.Json

/-
What trimming drops, and what it leaves.

* `trimEnd_append` — blanks are dropped from the end of two texts as they are from the end of the
  second, and from the first as well if nothing is left of the second.
* `Around`, `around_dropEnds` — a text is what is left of it when characters of one kind are dropped
  at both ends, with such characters around it; `Around.dropEnds_eq`: they do not matter.
* `Bare`, `dropEnds_eq_self_iff` — nothing is dropped just from a text that has none at its ends.
* `trim_pad` — blanks around a text do not matter.
* `trim_eq_trimStart_trimEnd` — it does not matter which end is trimmed first.
* `afterStart?_eq_some`, `beforeEnd?_eq_some` — a start or an end that is taken off is what is
  missing.
-/
import Mathlib
import ToolGate.Text.Blank

namespace ToolGate.Text

variable {p q : Char → Bool} {c : Char} {cs ds core : List Char}

/-! ## One end -/

theorem trimStart_cons_of_blank (h : isBlank c = true) : trimStart (c :: cs) = trimStart cs :=
  List.dropWhile_cons_of_pos h

theorem trimStart_cons_of_solid (h : isBlank c = false) : trimStart (c :: cs) = c :: cs :=
  List.dropWhile_cons_of_neg (by simp [h])

/-- Nothing is dropped in front of what is not blank, but for blanks before it. -/
theorem trimStart_append_solid (h : isBlank c = false) :
    trimStart (cs ++ c :: ds) = trimStart cs ++ c :: ds := by
  induction cs with
  | nil => exact trimStart_cons_of_solid h
  | cons d cs ih =>
    by_cases hd : isBlank d = true
    · rw [List.cons_append, trimStart_cons_of_blank hd, trimStart_cons_of_blank hd, ih]
    · rw [Bool.not_eq_true] at hd
      rw [List.cons_append, trimStart_cons_of_solid hd, trimStart_cons_of_solid hd,
        List.cons_append]

/-- What `trimEnd` leaves of the second text keeps the first as it is. -/
theorem trimEnd_append (cs ds : List Char) :
    trimEnd (cs ++ ds) = if trimEnd ds = [] then trimEnd cs else cs ++ trimEnd ds := by
  rw [trimEnd, dropEnd, List.reverse_append, List.dropWhile_append, trimEnd, dropEnd, trimEnd,
    dropEnd]
  cases hds : ds.reverse.dropWhile isBlank with
  | nil => simp
  | cons d ds' => simp

theorem trimEnd_cons (c : Char) (cs : List Char) :
    trimEnd (c :: cs) = if trimEnd cs = [] ∧ isBlank c = true then [] else c :: trimEnd cs := by
  rw [← List.singleton_append, trimEnd_append]
  by_cases hc : isBlank c = true <;> simp [hc, trimEnd, dropEnd]

theorem trimEnd_cons_of_solid (h : isBlank c = false) : trimEnd (c :: cs) = c :: trimEnd cs := by
  rw [trimEnd_cons, if_neg (by simp [h])]

/-- Nothing is dropped up to what is not blank. -/
theorem trimEnd_append_solid (h : isBlank c = false) :
    trimEnd (cs ++ c :: ds) = cs ++ c :: trimEnd ds := by
  rw [trimEnd_append, trimEnd_cons_of_solid h, if_neg (List.cons_ne_nil _ _)]

theorem trimEnd_trimEnd (cs : List Char) : trimEnd (trimEnd cs) = trimEnd cs :=
  List.rdropWhile_idempotent _ _

theorem trimEnd_prefix (cs : List Char) : trimEnd cs <+: cs := List.rdropWhile_prefix _ _

/-! ## Both ends, for any kind of characters -/

/-- Without the characters at both ends that pass the test. -/
def dropEnds (p : Char → Bool) (cs : List Char) : List Char := dropEnd p (dropStart p cs)

/-- A text is `core` with characters around it that pass the test. -/
def Around (p : Char → Bool) (core cs : List Char) : Prop :=
  ∃ before after, cs = before ++ core ++ after ∧
    (∀ c ∈ before, p c = true) ∧ ∀ c ∈ after, p c = true

/-- Neither the first nor the last character of a text passes the test. -/
structure Bare (p : Char → Bool) (cs : List Char) : Prop where
  first : ∀ c ∈ cs.head?, p c = false
  last : ∀ c ∈ cs.getLast?, p c = false

theorem around_dropEnds (p : Char → Bool) (cs : List Char) : Around p (dropEnds p cs) cs := by
  refine ⟨cs.takeWhile p, (dropStart p cs).rtakeWhile p, ?_, fun c => List.mem_takeWhile_imp,
    fun c => List.mem_rtakeWhile_imp⟩
  have hend : dropEnds p cs ++ (dropStart p cs).rtakeWhile p = dropStart p cs :=
    List.rdropWhile_append_rtakeWhile
  rw [List.append_assoc, hend]
  exact List.takeWhile_append_dropWhile.symm

/-- What is `Around` a text does not matter to `dropEnds`. -/
theorem Around.dropEnds_eq (h : Around p core cs) : dropEnds p cs = dropEnds p core := by
  obtain ⟨before, after, rfl, hbefore, hafter⟩ := h
  have hstart : dropStart p (before ++ core ++ after) = dropStart p (core ++ after) := by
    rw [List.append_assoc]
    exact List.dropWhile_append_of_pos hbefore
  rw [dropEnds, hstart, dropEnds, dropStart, dropStart, List.dropWhile_append]
  split
  · rename_i hempty
    rw [List.isEmpty_iff.mp hempty, List.dropWhile_eq_nil_iff.mpr hafter]
  · rw [dropEnd, List.reverse_append,
      List.dropWhile_append_of_pos fun c hc => hafter c (List.mem_reverse.mp hc), dropEnd]

theorem Around.mono (h : Around p core cs) (hpq : ∀ c, p c = true → q c = true) :
    Around q core cs := by
  obtain ⟨before, after, heq, hbefore, hafter⟩ := h
  exact ⟨before, after, heq, fun c hc => hpq c (hbefore c hc), fun c hc => hpq c (hafter c hc)⟩

theorem Around.isInfix (h : Around p core cs) : core <:+: cs := by
  obtain ⟨before, after, rfl, -⟩ := h
  exact ⟨before, after, rfl⟩

theorem dropStart_eq_self_iff : dropStart p cs = cs ↔ ∀ c ∈ cs.head?, p c = false := by
  cases cs with
  | nil => simp [dropStart]
  | cons c cs =>
    rw [dropStart, List.dropWhile_eq_self_iff]
    simp

theorem dropEnd_eq_self_iff : dropEnd p cs = cs ↔ ∀ c ∈ cs.getLast?, p c = false := by
  rw [dropEnd, List.reverse_eq_iff, ← List.head?_reverse]
  exact dropStart_eq_self_iff

/-- Nothing is dropped just from a text that is `Bare`. -/
theorem dropEnds_eq_self_iff : dropEnds p cs = cs ↔ Bare p cs := by
  constructor
  · intro h
    -- The end is dropped from what is left of the start, so if all is left, all was left of the
    -- start.
    have hlength : (dropEnds p cs).length ≤ (dropStart p cs).length :=
      (List.rdropWhile_prefix p (dropStart p cs)).length_le
    rw [h] at hlength
    have hstart : dropStart p cs = cs := (List.dropWhile_suffix p).eq_of_length_le hlength
    rw [dropEnds, hstart] at h
    exact ⟨dropStart_eq_self_iff.mp hstart, dropEnd_eq_self_iff.mp h⟩
  · rintro ⟨hfirst, hlast⟩
    rw [dropEnds, dropStart_eq_self_iff.mpr hfirst, dropEnd_eq_self_iff.mpr hlast]

instance (p : Char → Bool) (cs : List Char) : Decidable (Bare p cs) :=
  decidable_of_iff (dropEnds p cs = cs) dropEnds_eq_self_iff

theorem dropEnds_isInfix (p : Char → Bool) (cs : List Char) : dropEnds p cs <:+: cs :=
  (around_dropEnds p cs).isInfix

theorem bare_dropEnds (p : Char → Bool) (cs : List Char) : Bare p (dropEnds p cs) :=
  dropEnds_eq_self_iff.mp (around_dropEnds p cs).dropEnds_eq.symm

/-- Characters may be dropped at once that are dropped later anyway. -/
theorem dropEnds_dropEnds (hpq : ∀ c, p c = true → q c = true) (cs : List Char) :
    dropEnds q (dropEnds p cs) = dropEnds q cs :=
  ((around_dropEnds p cs).mono hpq).dropEnds_eq.symm

theorem bare_of_forall (h : ∀ c ∈ cs, p c = false) : Bare p cs :=
  ⟨fun c hc => h c (List.mem_of_head? hc), fun c hc => h c (List.mem_of_getLast? hc)⟩

theorem Bare.append (hcs : Bare p cs) (hds : Bare p ds) : Bare p (cs ++ ds) := by
  constructor
  · intro c hc
    rw [List.head?_append, Option.mem_def, Option.or_eq_some_iff] at hc
    rcases hc with hc | ⟨-, hc⟩
    · exact hcs.first c hc
    · exact hds.first c hc
  · intro c hc
    rw [List.getLast?_append, Option.mem_def, Option.or_eq_some_iff] at hc
    rcases hc with hc | ⟨-, hc⟩
    · exact hds.last c hc
    · exact hcs.last c hc

theorem bare_or_iff : Bare (fun c => p c || q c) cs ↔ Bare p cs ∧ Bare q cs := by
  constructor
  · rintro ⟨hfirst, hlast⟩
    simp only [Bool.or_eq_false_iff] at hfirst hlast
    exact ⟨⟨fun c hc => (hfirst c hc).1, fun c hc => (hlast c hc).1⟩,
      ⟨fun c hc => (hfirst c hc).2, fun c hc => (hlast c hc).2⟩⟩
  · rintro ⟨hp, hq⟩
    exact ⟨fun c hc => Bool.or_eq_false_iff.mpr ⟨hp.first c hc, hq.first c hc⟩,
      fun c hc => Bool.or_eq_false_iff.mpr ⟨hp.last c hc, hq.last c hc⟩⟩

/-! ## Blanks at both ends -/

theorem trim_eq_dropEnds (cs : List Char) : trim cs = dropEnds isBlank cs := rfl

/-- Blanks around a text do not matter to `trim`. -/
theorem trim_pad {before after : List Char} (hbefore : ∀ c ∈ before, isBlank c = true)
    (hafter : ∀ c ∈ after, isBlank c = true) : trim (before ++ cs ++ after) = trim cs :=
  Around.dropEnds_eq ⟨before, after, rfl, hbefore, hafter⟩

/-- It does not matter which end is trimmed first. -/
theorem trim_eq_trimStart_trimEnd (cs : List Char) : trim cs = trimStart (trimEnd cs) := by
  unfold trim
  induction cs with
  | nil => rfl
  | cons c cs ih =>
    by_cases hc : isBlank c = true
    · rw [trimStart_cons_of_blank hc, ih, trimEnd_cons]
      by_cases hcs : trimEnd cs = []
      · rw [if_pos ⟨hcs, hc⟩, hcs]
      · rw [if_neg (by simp [hcs]), trimStart_cons_of_blank hc]
    · rw [Bool.not_eq_true] at hc
      rw [trimStart_cons_of_solid hc, trimEnd_cons_of_solid hc, trimStart_cons_of_solid hc]

theorem trim_trimEnd (cs : List Char) : trim (trimEnd cs) = trim cs := by
  rw [trim_eq_trimStart_trimEnd, trimEnd_trimEnd, ← trim_eq_trimStart_trimEnd]

/-! ## Starts and ends that are taken off -/

theorem afterStart?_eq_some {start rest : List Char} :
    afterStart? start cs = some rest ↔ cs = start ++ rest := by
  induction start generalizing cs with
  | nil => simp [afterStart?]
  | cons p ps ih =>
    cases cs with
    | nil => simp [afterStart?]
    | cons c cs =>
      by_cases hc : p = c
      · simp [afterStart?, hc, ih]
      · simp [afterStart?, hc, Ne.symm hc]

theorem afterStart?_eq_none {start : List Char} : afterStart? start cs = none ↔ ¬ start <+: cs := by
  rw [← not_iff_not, not_not, ← ne_eq, Option.ne_none_iff_exists']
  simp only [afterStart?_eq_some]
  exact ⟨fun ⟨rest, h⟩ => ⟨rest, h.symm⟩, fun ⟨rest, h⟩ => ⟨rest, h.symm⟩⟩

theorem beforeEnd?_eq_some {ending front : List Char} :
    beforeEnd? ending cs = some front ↔ cs = front ++ ending := by
  rw [beforeEnd?, Option.map_eq_some_iff]
  simp only [afterStart?_eq_some, List.reverse_eq_iff]
  constructor
  · rintro ⟨rest, rfl, rfl⟩
    simp
  · rintro rfl
    exact ⟨front.reverse, by simp, by simp⟩

theorem beforeEnd?_eq_none {ending : List Char} :
    beforeEnd? ending cs = none ↔ ¬ ending <:+ cs := by
  rw [← not_iff_not, not_not, ← ne_eq, Option.ne_none_iff_exists']
  simp only [beforeEnd?_eq_some]
  exact ⟨fun ⟨front, h⟩ => ⟨front, h.symm⟩, fun ⟨front, h⟩ => ⟨front, h.symm⟩⟩

end ToolGate.Text

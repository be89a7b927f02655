/-
The command that a message gives is the one that was written in it.

* `Phrase` — the ways to write the word of a command.
* `Fronted` — what stands at the front of some characters: a command, and nothing that could end one
  that began before it.
* `readCommand_append` — no command begins in front of a blank and goes on behind it, but for one
  that the command behind the blank completes.
* `findCommand_append` — so the command after a blank is found if there is none before it.
* `parse?_approve` — and a message that says so approves, whatever follows the id.
-/
import Mathlib
import ToolGate.Approval.Command
import ToolGate.Proofs.RequestId
import ToolGate.Proofs.Text.Trimming

namespace ToolGate.Approval

open Text (isBlank)

/-! ## Blanks -/

/-- Characters that are all `isBlank`, at least one. -/
def Blanks (cs : List Char) : Prop := cs ≠ [] ∧ ∀ c ∈ cs, isBlank c = true

/-- The first character is there and not `isBlank`. -/
def StartsSolid (cs : List Char) : Prop := ∃ c ds, cs = c :: ds ∧ isBlank c = false

theorem StartsSolid.append {cs : List Char} (h : StartsSolid cs) (tail : List Char) :
    StartsSolid (cs ++ tail) := by
  obtain ⟨c, ds, rfl, hc⟩ := h
  exact ⟨c, ds ++ tail, rfl, hc⟩

theorem StartsSolid.dropWhile {cs : List Char} (h : StartsSolid cs) :
    cs.dropWhile isBlank = cs := by
  obtain ⟨c, ds, rfl, hc⟩ := h
  simp [hc]

theorem dropWhile_blanks {blanks cs : List Char} (h : ∀ c ∈ blanks, isBlank c = true)
    (hcs : StartsSolid cs) : (blanks ++ cs).dropWhile isBlank = cs := by
  rw [List.dropWhile_append_of_pos h, hcs.dropWhile]

theorem afterBlanks?_append {blanks cs : List Char} (h : Blanks blanks) (hcs : StartsSolid cs) :
    afterBlanks? (blanks ++ cs) = some cs := by
  obtain ⟨hne, hblank⟩ := h
  obtain ⟨c, rest, rfl⟩ := List.exists_cons_of_ne_nil hne
  rw [List.cons_append, afterBlanks?, if_pos (hblank c List.mem_cons_self),
    dropWhile_blanks (fun d hd => hblank d (List.mem_cons_of_mem _ hd)) hcs]

/-! ## Words -/

theorem afterWord?_append {word cs : List Char} (h : InAnyCase word cs) (rest : List Char) :
    afterWord? word (cs ++ rest) = some rest := by
  induction word generalizing cs with
  | nil =>
    obtain rfl : cs = [] := List.map_eq_nil_iff.mp h
    rfl
  | cons w ws ih =>
    obtain ⟨c, ds, rfl, hc, hds⟩ := List.map_eq_cons_iff.mp h
    rw [List.cons_append, afterWord?, if_pos hc]
    exact ih hds

theorem lowerAscii_of_isBlank {c : Char} (h : isBlank c = true) : Action.lowerAscii c = c := by
  rcases lowerAscii_eq c with heq | ⟨hlow, hhigh, -⟩
  · exact heq
  · simp only [isBlank, Bool.or_eq_true, Bool.and_eq_true, decide_eq_true_eq, beq_iff_eq] at h
    omega

/-- For words without blanks, `afterWord?` does not look past one: what follows makes no
difference. -/
theorem afterWord?_before_blank {word : List Char} (hword : ∀ w ∈ word, isBlank w = false)
    {cs : List Char} (h : EndsInBlank cs) (tail : List Char) :
    afterWord? word (cs ++ tail) = (afterWord? word cs).map (· ++ tail) ∧
      ∀ rest, afterWord? word cs = some rest → EndsInBlank rest := by
  induction word generalizing cs with
  | nil => exact ⟨rfl, fun rest hrest => Option.some.inj hrest ▸ h⟩
  | cons w ws ih =>
    cases cs with
    | nil => exact absurd h not_endsInBlank_nil
    | cons c cs =>
      simp only [List.cons_append, afterWord?]
      by_cases hc : Action.lowerAscii c = w
      · have hsolid : isBlank c = false := by
          by_contra hblank
          rw [Bool.not_eq_false] at hblank
          have hw := hword w List.mem_cons_self
          rw [← hc, lowerAscii_of_isBlank hblank, hblank] at hw
          exact absurd hw (by decide)
        rw [if_pos hc, if_pos hc]
        exact ih (fun d hd => hword d (List.mem_cons_of_mem _ hd)) (h.tail hsolid)
      · rw [if_neg hc, if_neg hc]
        exact ⟨rfl, fun rest hrest => by simp at hrest⟩

theorem endsInBlank_dropWhile {cs : List Char} (h : EndsInBlank cs) :
    cs.dropWhile isBlank = [] ∨
      EndsInBlank (cs.dropWhile isBlank) := by
  induction cs with
  | nil => exact .inl rfl
  | cons c cs ih =>
    by_cases hc : isBlank c = true
    · rw [List.dropWhile_cons_of_pos hc]
      rcases endsInBlank_cons.mp h with ⟨rfl, -⟩ | htail
      · exact .inl rfl
      · exact ih htail
    · rw [List.dropWhile_cons_of_neg hc]
      exact .inr h

/-- Where the characters end in a blank, `afterBlanks?` fails, stops before that blank or eats them
all. -/
theorem afterBlanks?_before_blank {cs tail : List Char} (h : EndsInBlank cs)
    (htail : StartsSolid tail) :
    (afterBlanks? cs = none ∧ afterBlanks? (cs ++ tail) = none) ∨
      (afterBlanks? cs = some [] ∧ afterBlanks? (cs ++ tail) = some tail) ∨
      ∃ rest, EndsInBlank rest ∧ afterBlanks? cs = some rest ∧
        afterBlanks? (cs ++ tail) = some (rest ++ tail) := by
  cases cs with
  | nil => exact absurd h not_endsInBlank_nil
  | cons c cs =>
    by_cases hc : isBlank c = true
    · simp only [List.cons_append, afterBlanks?, if_pos hc]
      have hrest : cs.dropWhile isBlank = [] ∨ EndsInBlank (cs.dropWhile isBlank) := by
        rcases endsInBlank_cons.mp h with ⟨rfl, -⟩ | hcs
        · exact .inl rfl
        · exact endsInBlank_dropWhile hcs
      rcases hrest with hnil | hends
      · have hall : ∀ d ∈ cs, isBlank d = true := List.dropWhile_eq_nil_iff.mp hnil
        exact .inr (.inl ⟨by rw [hnil], by rw [dropWhile_blanks hall htail]⟩)
      · have hne : (cs.dropWhile isBlank).isEmpty = false := by
          cases hds : cs.dropWhile isBlank with
          | nil => exact absurd (hds ▸ hends) not_endsInBlank_nil
          | cons => rfl
        refine .inr (.inr ⟨_, hends, rfl, ?_⟩)
        rw [List.dropWhile_append, hne]
        rfl
    · exact .inl ⟨by simp [afterBlanks?, hc], by simp [afterBlanks?, hc]⟩

/-! ## Commands -/

/-- A command of `id` in front, which completes no command that began before it: past its first
`word`, `readOnce` still gives `id` or none. -/
structure Fronted (word : List Char) (id : RequestId) (cs : List Char) : Prop where
  solid : StartsSolid cs
  no_id : RequestId.scan cs = none
  once : readOnce word cs = none ∨ readOnce word cs = some id
  command : readCommand word cs = some id

section

variable {word cs tail : List Char} {id : RequestId}

theorem readWordAndId_append (hword : ∀ w ∈ word, isBlank w = false) (h : EndsInBlank cs)
    (htail : Fronted word id tail) : readWordAndId word (cs ++ tail) = readWordAndId word cs := by
  obtain ⟨heq, hrest⟩ := afterWord?_before_blank hword h tail
  unfold readWordAndId
  rw [heq]
  cases hafter : afterWord? word cs with
  | none => rfl
  | some rest =>
    simp only [Option.map_some, Option.bind_eq_bind, Option.bind_some]
    obtain ⟨hnone, hnone'⟩ | ⟨hnil, htail'⟩ | ⟨more, hmore, hsome, hsome'⟩ :=
      afterBlanks?_before_blank (hrest rest hafter) htail.solid
    · rw [hnone, hnone']
    · rw [hnil, htail', Option.bind_some, Option.bind_some, htail.no_id]
      rfl
    · rw [hsome, hsome', Option.bind_some, Option.bind_some, RequestId.scan_append hmore]
      cases RequestId.scan more <;> rfl

theorem readOnce_append (hword : ∀ w ∈ word, isBlank w = false) (h : EndsInBlank cs)
    (htail : Fronted word id tail) : readOnce word (cs ++ tail) = readOnce word cs := by
  cases cs with
  | nil => exact absurd h not_endsInBlank_nil
  | cons c cs =>
    by_cases hc : c = '/'
    · subst hc
      exact readWordAndId_append hword (h.tail rfl) htail
    · have hslash : ∀ ds, afterSlash (c :: ds) = c :: ds := by
        intro ds
        simp [afterSlash, hc]
      rw [readOnce, readOnce, List.cons_append, hslash, hslash, ← List.cons_append]
      exact readWordAndId_append hword h htail

/-- Across a blank, `readTwice` gives what it gave before, or the `readOnce` of what follows. -/
theorem readTwice_append (hword : ∀ w ∈ word, isBlank w = false) (h : EndsInBlank cs)
    (htail : Fronted word id tail) :
    readTwice word (cs ++ tail) = readTwice word cs ∨
      readTwice word (cs ++ tail) = readOnce word tail := by
  cases cs with
  | nil => exact absurd h not_endsInBlank_nil
  | cons c cs =>
    by_cases hc : c = '/'
    · subst hc
      obtain ⟨heq, hrest⟩ := afterWord?_before_blank hword (h.tail rfl) tail
      simp only [List.cons_append, readTwice, heq]
      cases hafter : afterWord? word cs with
      | none => exact .inl rfl
      | some rest =>
        simp only [Option.map_some, Option.bind_eq_bind, Option.bind_some]
        obtain ⟨hnone, hnone'⟩ | ⟨hnil, htail'⟩ | ⟨more, hmore, hsome, hsome'⟩ :=
          afterBlanks?_before_blank (hrest rest hafter) htail.solid
        · exact .inl (by rw [hnone, hnone'])
        · exact .inr (by rw [htail', Option.bind_some])
        · exact .inl (by
            rw [hsome, hsome', Option.bind_some, Option.bind_some,
              readOnce_append hword hmore htail])
    · exact .inl (by simp [readTwice, hc])

/-- Where `readCommand` fails before a blank, it fails with a `Fronted` text behind it, or gives its
`id`. -/
theorem readCommand_append (hword : ∀ w ∈ word, isBlank w = false) (h : EndsInBlank cs)
    (htail : Fronted word id tail) (hnone : readCommand word cs = none) :
    readCommand word (cs ++ tail) = none ∨ readCommand word (cs ++ tail) = some id := by
  simp only [readCommand, Option.orElse_eq_orElse, Option.orElse_eq_or] at hnone ⊢
  rw [Option.or_eq_none_iff] at hnone
  rw [readOnce_append hword h htail, hnone.2, Option.or_none]
  rcases readTwice_append hword h htail with heq | heq
  · exact .inl (heq.trans hnone.1)
  · rcases htail.once with honce | honce
    · exact .inl (heq.trans honce)
    · exact .inr (heq.trans honce)

theorem findAfterBlank_append (hword : ∀ w ∈ word, isBlank w = false)
    (htail : Fronted word id tail) :
    ∀ {cs : List Char}, EndsInBlank cs → findAfterBlank word cs = none →
      findAfterBlank word (cs ++ tail) = some id
  | [], h, _ => absurd h not_endsInBlank_nil
  | c :: cs, h, hnone => by
    simp only [findAfterBlank, List.cons_append, Option.orElse_eq_orElse,
      Option.orElse_eq_or] at hnone ⊢
    rcases endsInBlank_cons.mp h with ⟨rfl, hc⟩ | hcs
    · rw [if_pos hc, List.nil_append, htail.command]
      rfl
    · by_cases hc : isBlank c = true
      · rw [if_pos hc, Option.or_eq_none_iff] at hnone
        rw [if_pos hc, findAfterBlank_append hword htail hcs hnone.2]
        rcases readCommand_append hword hcs htail hnone.1 with heq | heq <;> rw [heq] <;> rfl
      · rw [if_neg hc] at hnone ⊢
        exact findAfterBlank_append hword htail hcs hnone

end

theorem name_solid (verdict : Verdict) : ∀ w ∈ verdict.name.toList, isBlank w = false := by
  cases verdict <;> simp [Verdict.name, isBlank]

/-- A `Fronted` text at the start or after a blank is found, if `findCommand` finds nothing
before. -/
theorem findCommand_append {verdict : Verdict} {id : RequestId} {cs tail : List Char}
    (hcs : cs = [] ∨ EndsInBlank cs) (hnone : findCommand verdict cs = none)
    (htail : Fronted verdict.name.toList id tail) : findCommand verdict (cs ++ tail) = some id := by
  have hword := name_solid verdict
  simp only [findCommand, Option.orElse_eq_orElse, Option.orElse_eq_or] at hnone ⊢
  rw [Option.or_eq_none_iff] at hnone
  rcases hcs with rfl | hcs
  · rw [List.nil_append, htail.command]
    rfl
  · rw [findAfterBlank_append hword htail hcs hnone.2]
    rcases readCommand_append hword hcs htail hnone.1 with heq | heq <;> rw [heq] <;> rfl

/-! ## The ways to write a command -/

/-- Spellings of a command's word: plain, slashed, or slashed and then again. -/
inductive Phrase (word : List Char) : List Char → Prop where
  | plain {cs : List Char} (h : InAnyCase word cs) : Phrase word cs
  | slashed {cs : List Char} (h : InAnyCase word cs) : Phrase word ('/' :: cs)
  | twice {cs blanks ds : List Char} (h : InAnyCase word cs) (hblanks : Blanks blanks)
      (h' : InAnyCase word ds) : Phrase word ('/' :: (cs ++ blanks ++ ds))

theorem exists_of_afterWord? {word cs rest : List Char} (h : afterWord? word cs = some rest) :
    ∃ ds, cs = ds ++ rest ∧ InAnyCase word ds := by
  induction word generalizing cs with
  | nil =>
    cases h
    exact ⟨[], rfl, rfl⟩
  | cons w ws ih =>
    cases cs with
    | nil => simp [afterWord?] at h
    | cons c cs =>
      simp only [afterWord?] at h
      split at h
      · rename_i hc
        obtain ⟨ds, rfl, hds⟩ := ih h
        exact ⟨c :: ds, rfl, by rw [InAnyCase, List.map_cons, hc, hds]⟩
      · simp at h

/-- Where `RequestId.scan` succeeds, the first eight characters are hexadecimal digits. -/
theorem hexValue?_of_scan {cs : List Char} {found : RequestId × List Char}
    (h : RequestId.scan cs = some found) : ∀ c ∈ cs.take 8, Json.hexValue? c ≠ none := by
  cases hread : RequestId.scanDigits 8 0 cs with
  | none => simp [RequestId.scan, RequestId.groups, RequestId.scanGroups, hread] at h
  | some found' =>
    obtain ⟨ds, rfl, hds⟩ := RequestId.exists_of_scanDigits hread
    rw [List.take_left' hds.length]
    exact hds.digit

/-- A `Verdict.name` fits in the first group of an id and has a letter past `f`. -/
theorem name_not_hex (verdict : Verdict) :
    verdict.name.toList.length ≤ 8 ∧ ∃ w ∈ verdict.name.toList, Json.hexValue? w = none := by
  cases verdict <;> simp [Verdict.name, Json.hexValue?]

/-- Where `afterWord?` finds a `Verdict.name`, `RequestId.scan` fails. -/
theorem scan_of_afterWord? {verdict : Verdict} {cs rest : List Char}
    (h : afterWord? verdict.name.toList cs = some rest) : RequestId.scan cs = none := by
  obtain ⟨hlength, w, hw, hhex⟩ := name_not_hex verdict
  by_contra hsome
  obtain ⟨found, hfound⟩ := Option.ne_none_iff_exists'.mp hsome
  obtain ⟨ds, rfl, hds⟩ := exists_of_afterWord? h
  rw [← hds, List.length_map] at hlength
  rw [← hds] at hw
  obtain ⟨c, hc, rfl⟩ := List.mem_map.mp hw
  have hmem : c ∈ (ds ++ rest).take 8 := by
    rw [List.take_append, List.take_of_length_le hlength]
    exact List.mem_append_left _ hc
  rw [hexValue?_lowerAscii] at hhex
  exact hexValue?_of_scan hfound c hmem hhex

theorem afterWord?_of_scan {verdict : Verdict} {cs : List Char} {found : RequestId × List Char}
    (h : RequestId.scan cs = some found) : afterWord? verdict.name.toList cs = none := by
  cases hafter : afterWord? verdict.name.toList cs with
  | none => rfl
  | some rest =>
    rw [scan_of_afterWord? hafter] at h
    exact absurd h (by simp)

theorem scan_slash (cs : List Char) : RequestId.scan ('/' :: cs) = none := rfl

theorem solid_of_scan {cs : List Char} {found : RequestId × List Char}
    (h : RequestId.scan cs = some found) : StartsSolid cs := by
  cases cs with
  | nil => simp [RequestId.scan, RequestId.groups, RequestId.scanGroups, RequestId.scanDigits] at h
  | cons c cs =>
    obtain ⟨d, hd⟩ := Option.ne_none_iff_exists'.mp (hexValue?_of_scan h c (by simp))
    exact ⟨c, cs, rfl, isBlank_of_hexValue? hd⟩

theorem afterSlash_of_ne {c : Char} (hc : c ≠ '/') (cs : List Char) :
    afterSlash (c :: cs) = c :: cs := by
  simp [afterSlash, hc]

/-- Where `RequestId.scan` succeeds, `readOnce` fails. -/
theorem readOnce_of_scan {verdict : Verdict} {cs : List Char} {found : RequestId × List Char}
    (h : RequestId.scan cs = some found) : readOnce verdict.name.toList cs = none := by
  obtain ⟨c, ds, rfl, -⟩ := solid_of_scan h
  have hc : c ≠ '/' := by
    rintro rfl
    simp [scan_slash] at h
  rw [readOnce, afterSlash_of_ne hc, readWordAndId, afterWord?_of_scan h]
  rfl

section

variable {verdict : Verdict} {id : RequestId} {cs ds blanks idText rest : List Char}

/-- A `Verdict.name` in any case starts with neither a blank nor a slash. -/
theorem exists_head (h : InAnyCase verdict.name.toList cs) :
    ∃ c ds, cs = c :: ds ∧ isBlank c = false ∧ c ≠ '/' := by
  cases cs with
  | nil => cases verdict <;> simp [InAnyCase, Verdict.name] at h
  | cons c ds =>
    have hmem : Action.lowerAscii c ∈ verdict.name.toList := by
      rw [← h]
      simp
    refine ⟨c, ds, rfl, ?_, ?_⟩
    · by_contra hblank
      rw [Bool.not_eq_false] at hblank
      rw [lowerAscii_of_isBlank hblank] at hmem
      simp [name_solid verdict c hmem] at hblank
    · rintro rfl
      cases verdict <;> simp [Verdict.name, Action.lowerAscii] at hmem

theorem readWordAndId_phrase (hcs : InAnyCase verdict.name.toList cs) (hblanks : Blanks blanks)
    (hid : InAnyCase id.toChars idText) (rest : List Char) :
    readWordAndId verdict.name.toList (cs ++ (blanks ++ (idText ++ rest))) = some id := by
  have hscan := RequestId.scan_toChars hid rest
  simp only [readWordAndId, afterWord?_append hcs,
    afterBlanks?_append hblanks (solid_of_scan hscan), hscan, Option.bind_eq_bind, Option.bind_some]

theorem readOnce_plain (hcs : InAnyCase verdict.name.toList cs) (hblanks : Blanks blanks)
    (hid : InAnyCase id.toChars idText) (rest : List Char) :
    readOnce verdict.name.toList (cs ++ (blanks ++ (idText ++ rest))) = some id := by
  have hread := readWordAndId_phrase hcs hblanks hid rest
  obtain ⟨c, ds, rfl, -, hslash⟩ := exists_head hcs
  rw [readOnce, List.cons_append, afterSlash_of_ne hslash]
  exact hread

theorem readOnce_slashed (hcs : InAnyCase verdict.name.toList cs) (hblanks : Blanks blanks)
    (hid : InAnyCase id.toChars idText) (rest : List Char) :
    readOnce verdict.name.toList ('/' :: (cs ++ (blanks ++ (idText ++ rest)))) = some id :=
  readWordAndId_phrase hcs hblanks hid rest

theorem fronted_plain (hcs : InAnyCase verdict.name.toList cs) (hblanks : Blanks blanks)
    (hid : InAnyCase id.toChars idText) (rest : List Char) :
    Fronted verdict.name.toList id (cs ++ (blanks ++ (idText ++ rest))) := by
  have honce := readOnce_plain hcs hblanks hid rest
  obtain ⟨c, ds, rfl, hsolid, hslash⟩ := exists_head hcs
  refine ⟨⟨c, _, rfl, hsolid⟩, scan_of_afterWord? (afterWord?_append hcs _), .inr honce, ?_⟩
  rw [readCommand, honce]
  simp [readTwice, hslash]

theorem fronted_slashed (hcs : InAnyCase verdict.name.toList cs) (hblanks : Blanks blanks)
    (hid : InAnyCase id.toChars idText) (rest : List Char) :
    Fronted verdict.name.toList id ('/' :: (cs ++ (blanks ++ (idText ++ rest)))) := by
  have honce := readOnce_slashed hcs hblanks hid rest
  refine ⟨⟨'/', _, rfl, rfl⟩, scan_slash _, .inr honce, ?_⟩
  -- what follows the first word is an id and not the word again
  have hscan := RequestId.scan_toChars hid rest
  have htwice : readTwice verdict.name.toList
      ('/' :: (cs ++ (blanks ++ (idText ++ rest)))) = none := by
    simp only [readTwice, afterWord?_append hcs, afterBlanks?_append hblanks (solid_of_scan hscan),
      Option.bind_eq_bind, Option.bind_some, readOnce_of_scan hscan]
  rw [readCommand, honce, htwice]
  rfl

/-- A slashed word in front of a `Fronted` text keeps it `Fronted`, if `readOnce` reads that
text. -/
theorem Fronted.lead (hcs : InAnyCase verdict.name.toList cs) (hblanks : Blanks blanks)
    (h : Fronted verdict.name.toList id rest)
    (hread : readOnce verdict.name.toList rest = some id) :
    Fronted verdict.name.toList id ('/' :: (cs ++ (blanks ++ rest))) := by
  have hafter := afterBlanks?_append hblanks h.solid
  have honce : readOnce verdict.name.toList ('/' :: (cs ++ (blanks ++ rest))) = none := by
    simp only [readOnce, afterSlash, readWordAndId, afterWord?_append hcs, hafter, h.no_id,
      Option.bind_eq_bind, Option.bind_some, Option.bind_none]
  refine ⟨⟨'/', _, rfl, rfl⟩, scan_slash _, .inl honce, ?_⟩
  rw [readCommand, honce]
  simp only [readTwice, afterWord?_append hcs, hafter, Option.bind_eq_bind, Option.bind_some, hread]
  rfl

/-- Every `Phrase`, with blanks and an id, is `Fronted`. -/
theorem Phrase.fronted {phrase : List Char} (h : Phrase verdict.name.toList phrase)
    (hblanks : Blanks blanks) (hid : InAnyCase id.toChars idText) (rest : List Char) :
    Fronted verdict.name.toList id (phrase ++ blanks ++ idText ++ rest) := by
  cases h with
  | plain hcs => simpa using fronted_plain hcs hblanks hid rest
  | slashed hcs => simpa using fronted_slashed hcs hblanks hid rest
  | twice hcs hbetween hds =>
    simpa using Fronted.lead hcs hbetween (fronted_plain hds hblanks hid rest)
      (readOnce_plain hds hblanks hid rest)

end

/-! ## Messages -/

theorem dropWhile_append_solid {cs ds : List Char} (h : StartsSolid ds) :
    (cs ++ ds).dropWhile isBlank = cs.dropWhile isBlank ++ ds := by
  obtain ⟨c, rest, rfl, hc⟩ := h
  exact Text.trimStart_append_solid hc

/-- A solid middle stops `Text.trim` on both sides. -/
theorem trim_append {pre middle suffix : List Char} (hstart : StartsSolid middle)
    (hend : StartsSolid middle.reverse) :
    Text.trim (pre ++ middle ++ suffix) =
      pre.dropWhile isBlank ++ (middle ++ (suffix.reverse.dropWhile isBlank).reverse) := by
  have htrimmed : Text.trimStart (pre ++ middle ++ suffix) =
      pre.dropWhile isBlank ++ (middle ++ suffix) := by
    rw [Text.trimStart, Text.dropStart, List.append_assoc,
      dropWhile_append_solid (hstart.append suffix)]
  rw [Text.trim, htrimmed, Text.trimEnd, Text.dropEnd, List.reverse_append, List.reverse_append,
    List.append_assoc, dropWhile_append_solid (hend.append _)]
  simp

/-- At a blank, `readCommand` fails. -/
theorem readCommand_of_isBlank (verdict : Verdict) {c : Char} (hc : isBlank c = true)
    (cs : List Char) :
    readCommand verdict.name.toList (c :: cs) = none := by
  have hslash : c ≠ '/' := by
    rintro rfl
    exact absurd hc (by decide)
  have hword : afterWord? verdict.name.toList (c :: cs) = none := by
    cases hafter : afterWord? verdict.name.toList (c :: cs) with
    | none => rfl
    | some rest =>
      obtain ⟨ds, heq, hds⟩ := exists_of_afterWord? hafter
      obtain ⟨d, more, rfl, hsolid, -⟩ := exists_head hds
      cases heq
      simp [hc] at hsolid
  simp [readCommand, readTwice, readOnce, readWordAndId, afterSlash_of_ne, hslash, hword]

/-- Leading blanks make no difference to `findCommand`. -/
theorem findCommand_dropWhile (verdict : Verdict) (cs : List Char) :
    findCommand verdict (cs.dropWhile isBlank) = findCommand verdict cs := by
  induction cs with
  | nil => rfl
  | cons c cs ih =>
    by_cases hc : isBlank c = true
    · rw [List.dropWhile_cons_of_pos hc, ih]
      simp only [findCommand, findAfterBlank, if_pos hc, readCommand_of_isBlank verdict hc,
        Option.orElse_eq_orElse, Option.orElse_eq_or, Option.none_or]
    · rw [List.dropWhile_cons_of_neg hc]

theorem mem_hexDigits {count n : ℕ} {c : Char} (h : c ∈ RequestId.hexDigits count n) :
    ∃ k < 16, c = Nat.digitChar k := by
  induction count generalizing n with
  | zero => simp [RequestId.hexDigits] at h
  | succ count ih =>
    rw [RequestId.hexDigits] at h
    rcases List.mem_append.mp h with hc | hc
    · exact ih hc
    · exact ⟨n % 16, Nat.mod_lt _ (by decide), List.mem_singleton.mp hc⟩

theorem mem_hyphenate {groups : List ℕ} {ds : List Char} {c : Char}
    (h : c ∈ RequestId.hyphenate groups ds) : c = '-' ∨ c ∈ ds := by
  induction groups generalizing ds with
  | nil => simp [RequestId.hyphenate] at h
  | cons count counts ih =>
    cases counts with
    | nil => exact .inr (List.mem_of_mem_take h)
    | cons next counts =>
      simp only [RequestId.hyphenate] at h
      rcases List.mem_append.mp h with hc | hc
      · exact .inr (List.mem_of_mem_take hc)
      · rcases List.mem_cons.mp hc with rfl | hc
        · exact .inl rfl
        · exact (ih hc).imp_right List.mem_of_mem_drop

/-- The text of `RequestId.toChars` is its own lower case. -/
theorem inAnyCase_toChars (id : RequestId) : InAnyCase id.toChars id.toChars := by
  have hdigits : ∀ k < 16, Action.lowerAscii (Nat.digitChar k) = Nat.digitChar k := by decide
  refine (List.map_congr_left fun c hc => ?_).trans (List.map_id _)
  rcases mem_hyphenate hc with rfl | hdigit
  · rfl
  · obtain ⟨k, hk, rfl⟩ := mem_hexDigits hdigit
    exact hdigits k hk

/-- No character of an id `isBlank`. -/
theorem isBlank_of_mem_idText {id : RequestId} {idText : List Char}
    (h : InAnyCase id.toChars idText) :
    ∀ c ∈ idText, isBlank c = false := by
  have hdigits : ∀ k < 16, isBlank (Nat.digitChar k) = false := by decide
  intro c hc
  have hmem : Action.lowerAscii c ∈ id.toChars := h ▸ List.mem_map_of_mem hc
  have hsolid : isBlank (Action.lowerAscii c) = false := by
    rcases mem_hyphenate hmem with heq | hdigit
    · rw [heq]
      rfl
    · obtain ⟨k, hk, heq⟩ := mem_hexDigits hdigit
      rw [heq]
      exact hdigits k hk
  by_contra hblank
  rw [Bool.not_eq_false] at hblank
  rw [lowerAscii_of_isBlank hblank, hblank] at hsolid
  exact absurd hsolid (by decide)

/-- Read backwards, a text that ends in an id `StartsSolid`. -/
theorem solid_reverse_idText {id : RequestId} {idText : List Char} (h : InAnyCase id.toChars idText)
    (front : List Char) : StartsSolid (front ++ idText).reverse := by
  obtain ⟨c, ds, hreverse⟩ : ∃ c ds, idText.reverse = c :: ds := by
    have hscan := RequestId.scan_toChars h []
    rw [List.append_nil] at hscan
    obtain ⟨c, ds, rfl, -⟩ := solid_of_scan hscan
    exact List.exists_cons_of_ne_nil (by simp)
  have hc : c ∈ idText := by
    rw [← List.mem_reverse, hreverse]
    exact List.mem_cons_self
  exact ⟨c, ds ++ front.reverse, by rw [List.reverse_append, hreverse]; rfl,
    isBlank_of_mem_idText h c hc⟩

/-- A message approves `id` in `Command.parse?` if a `Phrase`, blanks and the id in any case stand
at its start or after a blank, and no approval before them. What follows does not matter. -/
theorem parse?_approve {id : RequestId} {pre phrase blanks idText : List Char} (suffix : List Char)
    (hpre : pre = [] ∨ EndsInBlank pre) (hnone : findCommand .approve pre = none)
    (hphrase : Phrase Verdict.approve.name.toList phrase) (hblanks : Blanks blanks)
    (hid : InAnyCase id.toChars idText) :
    Command.parse? (String.ofList (pre ++ phrase ++ blanks ++ idText ++ suffix)) =
      some ⟨id, .approve⟩ := by
  have hfirst : StartsSolid (phrase ++ blanks ++ idText) := by
    simpa using (hphrase.fronted hblanks hid []).solid
  have hlast := solid_reverse_idText hid (phrase ++ blanks)
  have htrim : Text.trim (String.ofList (pre ++ phrase ++ blanks ++ idText ++ suffix)).toList =
      pre.dropWhile isBlank ++
        (phrase ++ blanks ++ idText ++ (suffix.reverse.dropWhile isBlank).reverse) := by
    rw [String.toList_ofList, ← trim_append hfirst hlast]
    simp
  have hpre' : pre.dropWhile isBlank = [] ∨ EndsInBlank (pre.dropWhile isBlank) := by
    rcases hpre with rfl | hpre
    · exact .inl rfl
    · exact endsInBlank_dropWhile hpre
  have hfound := findCommand_append hpre' ((findCommand_dropWhile .approve pre).trans hnone)
    (hphrase.fronted hblanks hid (suffix.reverse.dropWhile isBlank).reverse)
  simp only [Command.parse?, htrim, hfound]
  rfl

end ToolGate.Approval

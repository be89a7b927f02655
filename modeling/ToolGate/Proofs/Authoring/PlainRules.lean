/-
What is extracted from a text in plain words, and from a listing of rules.

Carriage returns at the ends of lines and empty lines are no part of any rule, so a text may be
taken as what stands between its line feeds.

* `filterMap_linesFrom` — a reader that passes them over finds the same in lines and between line
  feeds.
* `ruleBy`, `unquoted`, `plainRule?_eq` — the rule of a line is what follows the hyphen, when it is
  cleaned in a certain way.
* `rulesBy_append` — a text is extracted line by line, whatever way of cleaning is used.
* `IsPlain`, `isPlain_of_mem` — what every rule that is extracted is.
* `plainRules_listing_iff` — a list of rules is extracted again from its listing just if its items
  are such rules, without quotes at their ends.
* `listed_rules_are_extracted` — these together.
-/
import Mathlib
import ToolGate.Authoring.Compile
import ToolGate.Proofs.Text.Trimming

namespace ToolGate

/-! ## Lines -/

namespace Text

variable {α : Type} {f : List Char → Option α} {current cs line : List Char}

/-- At a line feed, `linesFrom` ends a line, less a carriage return at its end. -/
theorem linesFrom_newLine (current cs : List Char) : ∃ line,
    linesFrom current ('\n' :: cs) = line :: linesFrom [] cs ∧
      (current.reverse = line ∨ current.reverse = line ++ ['\r']) := by
  refine ⟨_, rfl, ?_⟩
  split
  · exact .inr List.reverse_cons
  · exact .inl rfl

/-- For readers that ignore empty lines and carriage returns at the end, `linesFrom` is
`splitOn '\n'`. -/
theorem filterMap_linesFrom (hnil : f [] = none) (hreturn : ∀ line, f (line ++ ['\r']) = f line)
    (hcurrent : '\n' ∉ current) :
    (linesFrom current cs).filterMap f = ((current.reverse ++ cs).splitOn '\n').filterMap f := by
  have hreverse : '\n' ∉ current.reverse := fun hmem => hcurrent (List.mem_reverse.mp hmem)
  -- The characters read so far have no line feed, so cutting begins at the first one that is still
  -- to come.
  induction cs generalizing current with
  | nil =>
    rw [List.append_nil, List.splitOn_eq_singleton hreverse, linesFrom]
    split
    · rename_i hempty
      rw [List.isEmpty_iff.mp hempty]
      simp [hnil]
    · rfl
  | cons c cs ih =>
    by_cases hc : c = '\n'
    · subst hc
      obtain ⟨line, hlines, hline⟩ := linesFrom_newLine current cs
      have hread : f line = f current.reverse := by
        rcases hline with heq | heq
        · rw [heq]
        · rw [heq, hreturn]
      rw [hlines, List.splitOn_append_cons_self_of_not_mem hreverse, List.filterMap_cons,
        List.filterMap_cons, hread, ih List.not_mem_nil List.not_mem_nil]
      rfl
    · have hnext : '\n' ∉ c :: current := List.not_mem_cons_of_ne_of_not_mem (Ne.symm hc) hcurrent
      rw [linesFrom, ih hnext (fun hmem => hnext (List.mem_reverse.mp hmem)), List.reverse_cons,
        List.append_assoc, List.singleton_append]
      exact hc

/-- No line of `linesFrom` has a line feed. -/
theorem newLine_not_mem_of_mem_linesFrom (hcurrent : '\n' ∉ current)
    (h : line ∈ linesFrom current cs) :
    '\n' ∉ line := by
  induction cs generalizing current with
  | nil =>
    rw [linesFrom] at h
    split at h
    · simp at h
    · rw [List.mem_singleton.mp h]
      exact fun hmem => hcurrent (List.mem_reverse.mp hmem)
  | cons c cs ih =>
    by_cases hc : c = '\n'
    · subst hc
      obtain ⟨ended, hlines, hended⟩ := linesFrom_newLine current cs
      rw [hlines, List.mem_cons] at h
      rcases h with rfl | hrest
      · refine fun hmem => hcurrent (List.mem_reverse.mp ?_)
        rcases hended with heq | heq
        · rwa [heq]
        · exact heq ▸ List.mem_append_left _ hmem
      · exact ih List.not_mem_nil hrest
    · rw [linesFrom] at h
      · exact ih (List.not_mem_cons_of_ne_of_not_mem (Ne.symm hc) hcurrent) h
      · exact hc

end Text

namespace Authoring

open Text (isBlank trim trimStart trimEnd dropEnds Bare)

variable {clean : List Char → List Char} {line rest rule cs : List Char}

/-! ## The rule of a line -/

/-- The rule of a line, for any `clean` of what follows the hyphen. -/
def ruleBy (clean : List Char → List Char) (line : List Char) : Option (List Char) :=
  match trim line with
  | '-' :: rest => if (clean rest).isEmpty then none else some (clean rest)
  | _ => none

/-- The rules of a text, by `ruleBy` on each line. -/
def rulesBy (clean : List Char → List Char) (text : String) : List String :=
  (Text.lines text.toList).filterMap fun line => (ruleBy clean line).map String.ofList

/-- What `plainRule?` does to the text behind the hyphen: blanks, then quotes, then blanks again. -/
def unquoted (cs : List Char) : List Char := trim (dropEnds isQuote (trim cs))

theorem ruleBy_of_hyphen (h : trim line = '-' :: rest) :
    ruleBy clean line = if (clean rest).isEmpty then none else some (clean rest) := by
  simp only [ruleBy, h]

theorem ruleBy_of_no_hyphen (h : ∀ rest, trim line ≠ '-' :: rest) : ruleBy clean line = none := by
  unfold ruleBy
  split
  · rename_i rest hrest
    exact absurd hrest (h rest)
  · rfl

theorem ruleBy_eq_some :
    ruleBy clean line = some rule ↔
      ∃ rest, trim line = '-' :: rest ∧ clean rest = rule ∧ rule ≠ [] := by
  constructor
  · intro h
    unfold ruleBy at h
    split at h
    · rename_i rest hrest
      split at h
      · simp at h
      · rename_i hne
        cases h
        exact ⟨rest, hrest, rfl, fun hnil => hne (List.isEmpty_iff.mpr hnil)⟩
    · simp at h
  · rintro ⟨rest, hrest, rfl, hne⟩
    rw [ruleBy_of_hyphen hrest, if_neg (by simpa using hne)]

theorem ruleBy_congr {line' : List Char} (h : trim line = trim line') :
    ruleBy clean line = ruleBy clean line' := by
  rw [ruleBy, h, ruleBy]

/-- No blanks are left for `trimEnd` behind the hyphen of a trimmed line. -/
theorem trimEnd_of_hyphen (h : trim line = '-' :: rest) : trimEnd rest = rest := by
  have hend : trimEnd ('-' :: rest) = '-' :: rest := by rw [← h, trim, Text.trimEnd_trimEnd]
  rw [Text.trimEnd_cons_of_solid (by decide)] at hend
  exact (List.cons.inj hend).2

theorem plainRule?_eq (line : List Char) : plainRule? line = ruleBy unquoted line := by
  by_cases h : ∃ rest, trim line = '-' :: rest
  · obtain ⟨rest, hrest⟩ := h
    have htrim : trimStart rest = trim rest := by
      rw [Text.trim_eq_trimStart_trimEnd, trimEnd_of_hyphen hrest]
    rw [ruleBy_of_hyphen hrest]
    simp only [plainRule?, hrest, htrim]
    rfl
  · rw [ruleBy_of_no_hyphen (not_exists.mp h)]
    unfold plainRule?
    split
    · rename_i rest hrest
      exact absurd ⟨rest, hrest⟩ h
    · rfl

theorem plainRules_eq (text : String) : plainRules text = rulesBy unquoted text := by
  simp only [plainRules, rulesBy, plainRule?_eq]

/-! ## The rules of a text -/

theorem mem_rulesBy {rule text : String} :
    rule ∈ rulesBy clean text ↔
      ∃ line ∈ Text.lines text.toList, ruleBy clean line = some rule.toList := by
  simp only [rulesBy, List.mem_filterMap, Option.map_eq_some_iff]
  constructor
  · rintro ⟨line, hline, rule, hrule, rfl⟩
    exact ⟨line, hline, by rw [hrule, String.toList_ofList]⟩
  · rintro ⟨line, hline, hrule⟩
    exact ⟨line, hline, rule.toList, hrule, String.ofList_toList⟩

/-- For `rulesBy`, line feeds alone end lines. -/
theorem rulesBy_eq_splitOn (clean : List Char → List Char) (text : String) :
    rulesBy clean text =
      (text.toList.splitOn '\n').filterMap fun line => (ruleBy clean line).map String.ofList := by
  refine Text.filterMap_linesFrom rfl (fun line => ?_) List.not_mem_nil
  have hblank : ∀ c ∈ ['\r'], isBlank c = true := List.forall_mem_singleton.mpr (by decide)
  have htrim : trim (line ++ ['\r']) = trim line := @Text.trim_pad line [] ['\r'] nofun hblank
  rw [ruleBy_congr htrim]

/-- A line feed between two texts separates their `rulesBy`. -/
theorem rulesBy_append (clean : List Char → List Char) (first second : String) :
    rulesBy clean (first ++ "\n" ++ second) = rulesBy clean first ++ rulesBy clean second := by
  have hcut : List.splitOn '\n' (first ++ "\n" ++ second).toList =
      List.splitOn '\n' first.toList ++ List.splitOn '\n' second.toList := by
    rw [String.toList_append, String.toList_append, List.append_assoc]
    exact List.splitOn_append_cons_self _ _
  simp only [rulesBy_eq_splitOn, hcut, List.filterMap_append]

/-- One line, not empty, without blanks at its ends. -/
structure IsPlain (rule : String) : Prop where
  ne_empty : rule ≠ ""
  one_line : '\n' ∉ rule.toList
  trimmed : Bare isBlank rule.toList

instance (rule : String) : Decidable (IsPlain rule) :=
  decidable_of_iff (rule ≠ "" ∧ '\n' ∉ rule.toList ∧ Bare isBlank rule.toList)
    ⟨fun ⟨hne, hline, htrim⟩ => ⟨hne, hline, htrim⟩, fun h => ⟨h.ne_empty, h.one_line, h.trimmed⟩⟩

theorem unquoted_isInfix (cs : List Char) : unquoted cs <:+: cs :=
  (Text.dropEnds_isInfix _ _).trans ((Text.dropEnds_isInfix _ _).trans (Text.dropEnds_isInfix _ _))

/-- All `plainRules` of a text are `IsPlain`. -/
theorem isPlain_of_mem {rule text : String} (h : rule ∈ plainRules text) : IsPlain rule := by
  rw [plainRules_eq, mem_rulesBy] at h
  obtain ⟨line, hline, hrule⟩ := h
  obtain ⟨rest, hrest, hclean, hne⟩ := ruleBy_eq_some.mp hrule
  refine ⟨fun hempty => hne (by rw [hempty]; rfl), fun hmem => ?_, ?_⟩
  · have hpart : rule.toList <:+: line := by
      have hunquoted : rule.toList <:+: rest := hclean ▸ unquoted_isInfix rest
      have hafter : rest <:+: trim line := hrest ▸ (List.suffix_cons '-' rest).isInfix
      exact hunquoted.trans (hafter.trans (Text.dropEnds_isInfix isBlank line))
    exact Text.newLine_not_mem_of_mem_linesFrom List.not_mem_nil hline (hpart.subset hmem)
  · rw [← hclean]
    exact Text.bare_dropEnds isBlank _

/-! ## Listings -/

theorem unquoted_eq_self_iff : unquoted cs = cs ↔ Bare isBlank cs ∧ Bare isQuote cs := by
  constructor
  · intro h
    have hblank : Bare isBlank cs := by
      rw [← h]
      exact Text.bare_dropEnds isBlank _
    have htrim : trim cs = cs := Text.dropEnds_eq_self_iff.mpr hblank
    rw [unquoted, htrim] at h
    -- The trimming that comes last gives back all of the text, so no quotes can have been dropped
    -- before it.
    have hlength : cs.length ≤ (dropEnds isQuote cs).length := by
      have hpart : trim (dropEnds isQuote cs) <:+: dropEnds isQuote cs :=
        Text.dropEnds_isInfix isBlank _
      rw [h] at hpart
      exact hpart.length_le
    exact ⟨hblank, Text.dropEnds_eq_self_iff.mp
      ((Text.dropEnds_isInfix isQuote cs).eq_of_length_le hlength)⟩
  · rintro ⟨hblank, hquote⟩
    have htrim : trim cs = cs := Text.dropEnds_eq_self_iff.mpr hblank
    rw [unquoted, htrim, Text.dropEnds_eq_self_iff.mpr hquote, htrim]

/-- On a line of a listing, `plainRule?` is `unquoted`. -/
theorem plainRule?_listed (cs : List Char) :
    plainRule? ('-' :: ' ' :: cs) = if (unquoted cs).isEmpty then none else some (unquoted cs) := by
  have hline : trim ('-' :: ' ' :: cs) = '-' :: trimEnd (' ' :: cs) := by
    rw [trim, Text.trimStart_cons_of_solid (by decide), Text.trimEnd_cons_of_solid (by decide)]
  have hclean : unquoted (trimEnd (' ' :: cs)) = unquoted cs := by
    have htrim : trim (' ' :: cs) = trim cs := by
      rw [trim, Text.trimStart_cons_of_blank (by decide), trim]
    rw [unquoted, Text.trim_trimEnd, htrim, unquoted]
  rw [plainRule?_eq, ruleBy_of_hyphen hline, hclean]

/-- A listed rule comes back just if it is not empty and `Bare` of blanks and of quotes. -/
theorem plainRule?_listed_eq_self_iff :
    plainRule? ('-' :: ' ' :: cs) = some cs ↔ cs ≠ [] ∧ Bare isBlank cs ∧ Bare isQuote cs := by
  rw [plainRule?_listed, ← unquoted_eq_self_iff]
  constructor
  · intro h
    split at h
    · simp at h
    · rename_i hne
      have hself := Option.some.inj h
      rw [hself, List.isEmpty_iff] at hne
      exact ⟨hne, hself⟩
  · rintro ⟨hne, hself⟩
    rw [hself, if_neg (by simpa using hne)]

theorem toList_listing (rules : List String) :
    (listing rules).toList =
      ['\n'].intercalate (rules.map fun rule => '-' :: ' ' :: rule.toList) := by
  simp [listing, String.toList_intercalate, Function.comp_def]

/-- A `listing` of one-line rules is read rule by rule. -/
theorem plainRules_listing {rules : List String} (h : ∀ rule ∈ rules, '\n' ∉ rule.toList) :
    plainRules (listing rules) =
      rules.filterMap fun rule => (plainRule? ('-' :: ' ' :: rule.toList)).map String.ofList := by
  cases rules with
  | nil => rfl
  | cons rule rules =>
    have hcut : List.splitOn '\n' (listing (rule :: rules)).toList =
        (rule :: rules).map fun rule => '-' :: ' ' :: rule.toList := by
      rw [toList_listing]
      refine List.splitOn_intercalate '\n' ?_ (by simp)
      intro line hline
      obtain ⟨r, hr, rfl⟩ := List.mem_map.mp hline
      simpa using h r hr
    simp only [plainRules_eq, rulesBy_eq_splitOn, hcut, List.filterMap_map, plainRule?_eq,
      Function.comp_def]

/-- If `filterMap f` keeps a list, `f` keeps each item: it can neither drop nor change one. -/
theorem filterMap_eq_self_iff {α : Type} {f : α → Option α} {items : List α} :
    items.filterMap f = items ↔ ∀ item ∈ items, f item = some item := by
  induction items with
  | nil => simp
  | cons item items ih =>
    rw [List.forall_mem_cons, ← ih, List.filterMap_cons]
    cases hitem : f item with
    | some other => simp
    | none =>
      have hlength : (items.filterMap f).length ≤ items.length := List.length_filterMap_le f items
      simp only [reduceCtorEq, false_and, iff_false]
      intro h
      rw [h, List.length_cons] at hlength
      omega

/-- Lists that survive `plainRules (listing ·)`: each rule `IsPlain` and `Bare` of quotes. -/
theorem plainRules_listing_iff (rules : List String) :
    plainRules (listing rules) = rules ↔
      ∀ rule ∈ rules, IsPlain rule ∧ Bare isQuote rule.toList := by
  have hself : (∀ rule ∈ rules, '\n' ∉ rule.toList) → (plainRules (listing rules) = rules ↔
      ∀ rule ∈ rules, rule.toList ≠ [] ∧ Bare isBlank rule.toList ∧ Bare isQuote rule.toList) := by
    intro hlines
    rw [plainRules_listing hlines, filterMap_eq_self_iff]
    refine forall₂_congr fun rule _ => ?_
    rw [← plainRule?_listed_eq_self_iff, Option.map_eq_some_iff]
    constructor
    · rintro ⟨cs, hcs, rfl⟩
      rw [hcs, String.toList_ofList]
    · intro h
      exact ⟨rule.toList, h, String.ofList_toList⟩
  constructor
  · intro h
    -- What is extracted has no line feed, so the listing is read rule by rule, and `hself` applies.
    have hplain : ∀ rule ∈ rules, IsPlain rule := fun rule hrule => isPlain_of_mem (h ▸ hrule)
    have hbare := (hself fun rule hrule => (hplain rule hrule).one_line).mp h
    exact fun rule hrule => ⟨hplain rule hrule, (hbare rule hrule).2.2⟩
  · intro h
    refine (hself fun rule hrule => (h rule hrule).1.one_line).mpr fun rule hrule => ?_
    obtain ⟨hplain, hquote⟩ := h rule hrule
    exact ⟨fun hnil => hplain.ne_empty (String.toList_eq_nil_iff.mp hnil), hplain.trimmed, hquote⟩

/-- Round trip of `listing`, which is what `prompt` appends: `plainRules` gives the list back iff
every rule `IsPlain` and is `Bare isQuote`. Texts joined by a line feed have their `plainRules`
joined, and all of them are `IsPlain`. -/
theorem listed_rules_are_extracted :
    (∀ rules : List String, prompt rules = prompt [] ++ listing rules ∧
      (plainRules (listing rules) = rules ↔
        ∀ rule ∈ rules, IsPlain rule ∧ Bare isQuote rule.toList)) ∧
    (∀ first second : String,
      plainRules (first ++ "\n" ++ second) = plainRules first ++ plainRules second) ∧
    ∀ text, ∀ rule ∈ plainRules text, IsPlain rule := by
  refine ⟨fun rules => ⟨?_, plainRules_listing_iff rules⟩, fun first second => ?_,
    fun text rule => isPlain_of_mem⟩
  · have hnone : listing [] = "" := rfl
    simp only [prompt, hnone, String.append_empty, String.append_assoc]
  · simp only [plainRules_eq, rulesBy_append]

/-- Rules with hyphens, quotes, a carriage return and a wide blank inside, and a remark before
them. -/
theorem listed_rules_are_extracted_of_odd_rules :
    let rules := ["-n \"is\" never 'allowed' here", "block\rexec", "allow\u3000read", "-"]
    (∀ rule ∈ rules, IsPlain rule ∧ Bare isQuote rule.toList) ∧ plainRules (listing rules) = rules ∧
      plainRules ("My rules:\r" ++ "\n" ++ listing rules) = rules ∧ IsPlain "block\rexec" := by
  intro rules
  obtain ⟨hlisting, happend, hplain⟩ := listed_rules_are_extracted
  have hrules : ∀ rule ∈ rules, IsPlain rule ∧ Bare isQuote rule.toList := by decide +kernel
  have hextracted : plainRules (listing rules) = rules := (hlisting rules).2.mpr hrules
  have hremark : plainRules "My rules:\r" = [] := by decide +kernel
  refine ⟨hrules, hextracted, ?_, hplain (listing rules) _ ?_⟩
  · rw [happend, hremark, hextracted, List.nil_append]
  · rw [hextracted]
    decide +kernel

end Authoring

end ToolGate

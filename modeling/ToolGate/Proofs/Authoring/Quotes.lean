/-
When the quotes around rules in plain words are all dropped.

Blanks are dropped after a hyphen, then quotes on both sides, and then blanks again. A quote that
stands behind a blank is met by neither of these.

* `isMargin` — what is around a rule: blanks and quotes, in whatever order.
* `QuotedOnce`, `bare_unquoted_iff` — quotes are left just if they are not outside of all blanks.
* `QuotesOutside`, `forall_bare_iff` — so for the rules of a text.
* `quotes_dropped_iff` — and then the rules are those without any blanks and quotes around them, and
  extracting them again changes nothing.
* `quotes_left_behind_blanks` — a rule in two pairs of quotes with blanks between them.
-/
import Mathlib
import ToolGate.Proofs.Authoring.PlainRules

namespace ToolGate.Authoring

open Text (isBlank trim dropEnds Around Bare)

variable {clean clean' : List Char → List Char} {line cs : List Char} {text : String}

/-! ## The quotes around a rule -/

/-- Either `isBlank` or `isQuote`. -/
def isMargin (c : Char) : Bool := isBlank c || isQuote c

theorem isMargin_of_isBlank (c : Char) (h : isBlank c = true) : isMargin c = true := by
  rw [isMargin, h, Bool.true_or]

theorem isMargin_of_isQuote (c : Char) (h : isQuote c = true) : isMargin c = true := by
  rw [isMargin, h, Bool.or_true]

theorem isQuote_of_isBlank {c : Char} (h : isBlank c = true) : isQuote c = false := by
  by_contra hquote
  rw [Bool.not_eq_false, isQuote, Bool.or_eq_true, decide_eq_true_iff, decide_eq_true_iff] at hquote
  rcases hquote with rfl | rfl
  · exact absurd h (by decide)
  · exact absurd h (by decide)

theorem bare_isMargin_iff : Bare isMargin cs ↔ Bare isBlank cs ∧ Bare isQuote cs := Text.bare_or_iff

/-- Quotes around blanks around a core that is `Bare isMargin`. -/
def QuotedOnce (cs : List Char) : Prop :=
  ∃ inside core, Around isQuote inside cs ∧ Around isBlank core inside ∧ Bare isMargin core

/-- The `unquoted` text has no quotes at its ends just if it is `QuotedOnce`. -/
theorem bare_unquoted_iff : Bare isQuote (unquoted cs) ↔ QuotedOnce (trim cs) := by
  constructor
  · intro h
    have hcore : Bare isMargin (unquoted cs) :=
      bare_isMargin_iff.mpr ⟨Text.bare_dropEnds isBlank _, h⟩
    exact ⟨_, _, Text.around_dropEnds isQuote _, Text.around_dropEnds isBlank _, hcore⟩
  · rintro ⟨inside, core, hquotes, hblanks, hcore⟩
    obtain ⟨htrimmed, hbare⟩ := bare_isMargin_iff.mp hcore
    have hinside : Bare isQuote inside := by
      obtain ⟨before, after, rfl, hbefore, hafter⟩ := hblanks
      have hfirst : Bare isQuote before :=
        Text.bare_of_forall fun c hc => isQuote_of_isBlank (hbefore c hc)
      have hlast : Bare isQuote after :=
        Text.bare_of_forall fun c hc => isQuote_of_isBlank (hafter c hc)
      exact (hfirst.append hbare).append hlast
    have hunquoted : unquoted cs = core := calc
      unquoted cs = trim (dropEnds isQuote inside) := congrArg trim hquotes.dropEnds_eq
      _ = trim inside := by rw [Text.dropEnds_eq_self_iff.mpr hinside]
      _ = trim core := hblanks.dropEnds_eq
      _ = core := Text.dropEnds_eq_self_iff.mpr htrimmed
    rwa [hunquoted]

/-- What `unquoted` drops, `dropEnds isMargin` drops as well. -/
theorem dropEnds_isMargin_unquoted (cs : List Char) :
    dropEnds isMargin (unquoted cs) = dropEnds isMargin cs := by
  rw [unquoted, Text.trim_eq_dropEnds, Text.dropEnds_dropEnds isMargin_of_isBlank,
    Text.dropEnds_dropEnds isMargin_of_isQuote, Text.trim_eq_dropEnds,
    Text.dropEnds_dropEnds isMargin_of_isBlank]

/-- Without quotes at its ends, `unquoted` is `dropEnds isMargin`. -/
theorem unquoted_eq_dropEnds (h : Bare isQuote (unquoted cs)) :
    unquoted cs = dropEnds isMargin cs := by
  rw [← dropEnds_isMargin_unquoted]
  have hbare := bare_isMargin_iff.mpr ⟨Text.bare_dropEnds isBlank _, h⟩
  exact (Text.dropEnds_eq_self_iff.mpr hbare).symm

/-! ## The quotes in a text -/

/-- Behind every hyphen, the rest of the line is `QuotedOnce`. -/
def QuotesOutside (text : String) : Prop :=
  ∀ line ∈ Text.lines text.toList, ∀ rest, trim line = '-' :: rest → QuotedOnce (trim rest)

theorem ruleBy_congr_clean (h : ∀ rest, trim line = '-' :: rest → clean rest = clean' rest) :
    ruleBy clean line = ruleBy clean' line := by
  unfold ruleBy
  split
  · rename_i rest hrest
    rw [h rest hrest]
  · rfl

/-- All `plainRules` are `Bare isQuote` just if the text has `QuotesOutside`. -/
theorem forall_bare_iff (text : String) :
    (∀ rule ∈ plainRules text, Bare isQuote rule.toList) ↔ QuotesOutside text := by
  rw [plainRules_eq]
  constructor
  · intro h line hline rest hrest
    rw [← bare_unquoted_iff]
    by_cases hnil : unquoted rest = []
    · rw [hnil]
      exact Text.bare_of_forall nofun
    · have hrule : String.ofList (unquoted rest) ∈ rulesBy unquoted text := by
        refine mem_rulesBy.mpr ⟨line, hline, ?_⟩
        rw [String.toList_ofList]
        exact ruleBy_eq_some.mpr ⟨rest, hrest, rfl, hnil⟩
      have hbare := h _ hrule
      rwa [String.toList_ofList] at hbare
  · intro h rule hrule
    obtain ⟨line, hline, hread⟩ := mem_rulesBy.mp hrule
    obtain ⟨rest, hrest, hclean, -⟩ := ruleBy_eq_some.mp hread
    rw [← hclean]
    exact bare_unquoted_iff.mpr (h line hline rest hrest)

/-- Listing and reading again keeps `plainRules` just if they are `Bare isQuote`. -/
theorem plainRules_listing_plainRules_iff (text : String) :
    plainRules (listing (plainRules text)) = plainRules text ↔
      ∀ rule ∈ plainRules text, Bare isQuote rule.toList := by
  rw [plainRules_listing_iff]
  exact forall₂_congr fun rule hrule => and_iff_right (isPlain_of_mem hrule)

/-- The `plainRules` are those without any `isMargin` around just if the text has
`QuotesOutside`. -/
theorem plainRules_eq_rulesBy_iff (text : String) :
    plainRules text = rulesBy (dropEnds isMargin) text ↔ QuotesOutside text := by
  constructor
  · intro h
    rw [← forall_bare_iff, h]
    intro rule hrule
    obtain ⟨line, -, hread⟩ := mem_rulesBy.mp hrule
    obtain ⟨rest, -, hclean, -⟩ := ruleBy_eq_some.mp hread
    rw [← hclean]
    exact (bare_isMargin_iff.mp (Text.bare_dropEnds isMargin rest)).2
  · intro h
    rw [plainRules_eq]
    refine List.filterMap_congr fun line hline => congrArg (Option.map String.ofList) ?_
    exact ruleBy_congr_clean fun rest hrest =>
      unquoted_eq_dropEnds (bare_unquoted_iff.mpr (h line hline rest hrest))

instance (text : String) : Decidable (QuotesOutside text) :=
  decidable_of_iff (plainRules text = rulesBy (dropEnds isMargin) text)
    (plainRules_eq_rulesBy_iff text)

/-- Three equivalents of `QuotesOutside text`: no rule in `plainRules` has a quote at its ends;
`plainRules` survive `listing`; and `plainRules` drops everything that `isMargin`. -/
theorem quotes_dropped_iff (text : String) :
    ((∀ rule ∈ plainRules text, Bare isQuote rule.toList) ↔ QuotesOutside text) ∧
    (plainRules (listing (plainRules text)) = plainRules text ↔ QuotesOutside text) ∧
    (plainRules text = rulesBy (dropEnds isMargin) text ↔ QuotesOutside text) :=
  ⟨forall_bare_iff text, (plainRules_listing_plainRules_iff text).trans (forall_bare_iff text),
    plainRules_eq_rulesBy_iff text⟩

/-- Quotes around blanks are fine for `QuotesOutside`, and so are quotes inside a rule. -/
example : QuotesOutside "- \"' allow read '\"\nremarks: '\n-never \"send\" email" := by
  decide +kernel

/-- Two pairs of quotes with blanks between them: `plainRules` leaves the inner pair. -/
theorem quotes_left_behind_blanks :
    let text := "- \" 'allow read' \""
    plainRules text = ["'allow read'"] ∧ plainRules (listing (plainRules text)) = ["allow read"] ∧
      rulesBy (dropEnds isMargin) text = ["allow read"] ∧
      ¬ (∀ rule ∈ plainRules text, Bare isQuote rule.toList) ∧
      plainRules (listing (plainRules text)) ≠ plainRules text := by
  decide +kernel

end ToolGate.Authoring

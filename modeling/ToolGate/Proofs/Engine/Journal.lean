/-
When the line about a decision can be told apart into what it says.

A line has four parts with tabs between them. There is neither a tab nor the end of a line in the
decision and in the request, and the reason comes last and on one line. The name of the tool is
written as it was given.

* `replaced`, `oneLine` — a reason on one line, by two replacements; `flatten_eq`: in one go.
* `cutAtMarks`, `cutAtMarks_joined_iff` — parts with marks between them are given back just if there
  is no mark in them.
* `shownName`, `shownRequest`, `toList_decisionLine` — the parts of a line.
* `TellsApart` — a line is one and gives its parts back; `lines_tell_apart_iff`: just if the name
  lets it.
* `decisionLine_forged`, `line_end_in_name` — names that do not, and what they make of a line.
-/
import Mathlib
import ToolGate.Engine.Journal
import ToolGate.Proofs.Approval.Command

namespace ToolGate

/-! ## Reasons on one line -/

/-- Work horse of `replaced`. The number counts characters of the last match that are still to be
skipped. -/
def replaceFrom (part other : List Char) : Nat → List Char → List Char
  | _, [] => []
  | n + 1, _ :: cs => replaceFrom part other n cs
  | 0, c :: cs =>
    if part.isPrefixOf (c :: cs) then other ++ replaceFrom part other (part.length - 1) cs
    else c :: replaceFrom part other 0 cs

/-- Every `part`, found from the left, is replaced by `other`. -/
def replaced (part other cs : List Char) : List Char := replaceFrom part other 0 cs

/-- Line feeds in pairs become `"; "`, and then each that is left. -/
def oneLine (cs : List Char) : List Char :=
  replaced ['\n'] [';', ' '] (replaced ['\n', '\n'] [';', ' '] cs)

theorem flatten_eq (cs : List Char) : flatten cs = oneLine cs := by
  fun_induction flatten cs with
  | case1 => rfl
  | case2 cs ih => simp [ih, oneLine, replaced, replaceFrom]
  | case3 cs hnext ih =>
    cases cs with
    | nil => simp [oneLine, replaced, replaceFrom, flatten]
    | cons c cs =>
      have hc : '\n' ≠ c := fun h => hnext cs (h ▸ rfl)
      simp [ih, oneLine, replaced, replaceFrom, hc]
  | case4 c cs _ hc ih =>
    have hne : '\n' ≠ c := fun h => hc h.symm
    simp [ih, oneLine, replaced, replaceFrom, hne]

theorem newLine_not_mem_flatten (cs : List Char) : '\n' ∉ flatten cs := by
  fun_induction flatten cs with
  | case1 => simp
  | case2 cs ih => simp [ih]
  | case3 cs _ ih => simp [ih]
  | case4 c cs _ hc ih =>
    have hne : '\n' ≠ c := fun h => hc h.symm
    simp [ih, hne]

/-! ## Parts with marks between them -/

/-- Each of `parts` with a `mark` behind it, and then `last`. -/
def joined (mark : Char) (parts : List (List Char)) (last : List Char) : List Char :=
  parts.foldr (fun part rest => part ++ mark :: rest) last

/-- Cut at the first `n` marks. -/
def cutAtMarks (mark : Char) : Nat → List Char → List (List Char)
  | 0, cs => [cs]
  | n + 1, cs =>
    match cs.dropWhile (· ≠ mark) with
    | [] => [cs]
    | _ :: rest => cs.takeWhile (· ≠ mark) :: cutAtMarks mark n rest

section

variable {mark : Char} {part rest last : List Char} {parts : List (List Char)}

/-- A part without a `mark` is cut off whole. -/
theorem cutAtMarks_append (h : mark ∉ part) (n : ℕ) :
    cutAtMarks mark (n + 1) (part ++ mark :: rest) = part :: cutAtMarks mark n rest := by
  have hpart : ∀ c ∈ part, decide (c ≠ mark) = true := by
    intro c hc
    have hne : c ≠ mark := fun heq => h (heq ▸ hc)
    simpa using hne
  have hdrop : (part ++ mark :: rest).dropWhile (· ≠ mark) = mark :: rest := by
    rw [List.dropWhile_append_of_pos hpart]
    simp
  have htake : (part ++ mark :: rest).takeWhile (· ≠ mark) = part := by
    rw [List.takeWhile_append_of_pos hpart]
    simp
  rw [cutAtMarks, hdrop, htake]

/-- Parts that `cutAtMarks` cuts off have no `mark`. -/
theorem not_mem_of_cutAtMarks {n : ℕ} {cs : List Char} {more : List (List Char)}
    (h : cutAtMarks mark (n + 1) cs = part :: more) : mark ∉ part := by
  rw [cutAtMarks] at h
  split at h
  · rename_i hdrop
    cases h
    intro hmem
    have hall := List.dropWhile_eq_nil_iff.mp hdrop _ hmem
    simp at hall
  · cases h
    intro hmem
    have hne := List.mem_takeWhile_imp hmem
    simp at hne

/-- The function `cutAtMarks` undoes `joined` just if no part before the last has a `mark`. -/
theorem cutAtMarks_joined_iff :
    cutAtMarks mark parts.length (joined mark parts last) = parts ++ [last] ↔
      ∀ part ∈ parts, mark ∉ part := by
  induction parts with
  | nil => simp [joined, cutAtMarks]
  | cons part parts ih =>
    rw [List.forall_mem_cons, List.cons_append, List.length_cons]
    constructor
    · intro h
      have hpart : mark ∉ part := not_mem_of_cutAtMarks h
      refine ⟨hpart, ih.mp ?_⟩
      have hcut : cutAtMarks mark (parts.length + 1) (joined mark (part :: parts) last) =
          part :: cutAtMarks mark parts.length (joined mark parts last) := cutAtMarks_append hpart _
      exact (List.cons.inj (hcut.symm.trans h)).2
    · rintro ⟨hpart, hparts⟩
      exact (cutAtMarks_append hpart parts.length).trans (congrArg (part :: ·) (ih.mpr hparts))

end

/-! ## Lines -/

/-- The first 200 characters of the tool's name. -/
def shownName (call : ToolCall) : List Char := call.tool.toList.take 200

/-- The id in `requestId`, or a hyphen. -/
def shownRequest (e : Evaluation) : List Char :=
  match e.requestId with
  | some id => id.toChars
  | none => ['-']

/-- Decision, `shownName` and `shownRequest`. -/
def leadingParts (call : ToolCall) (e : Evaluation) : List (List Char) :=
  [e.decision.name.toList, shownName call, shownRequest e]

variable {call : ToolCall} {e : Evaluation}

theorem toList_decisionLine (call : ToolCall) (e : Evaluation) :
    (decisionLine call e).toList = joined '\t' (leadingParts call e) (oneLine e.reason.toList) := by
  rw [← flatten_eq]
  cases h : e.requestId <;>
    simp [decisionLine, joined, leadingParts, shownName, shownNameLength, shownRequest,
      RequestId.render, h]

theorem decision_name_solid (d : Decision) : ∀ c ∈ d.name.toList, Text.isBlank c = false := by
  cases d <;> simp [Decision.name] <;> decide

theorem shownRequest_solid (e : Evaluation) : ∀ c ∈ shownRequest e, Text.isBlank c = false := by
  unfold shownRequest
  cases e.requestId with
  | none => simp; decide
  | some id => exact Approval.isBlank_of_mem_idText (Approval.inAnyCase_toChars id)

/-- Solid characters are neither line feeds nor tabs. -/
theorem not_mem_of_solid {cs : List Char} (h : ∀ c ∈ cs, Text.isBlank c = false) :
    '\n' ∉ cs ∧ '\t' ∉ cs :=
  ⟨fun hmem => absurd (h _ hmem) (by decide), fun hmem => absurd (h _ hmem) (by decide)⟩

/-- A `decisionLine` is one line, and `cutAtMarks` at three tabs gives its four parts back. -/
structure TellsApart (call : ToolCall) (e : Evaluation) : Prop where
  one_line : '\n' ∉ (decisionLine call e).toList
  parts : cutAtMarks '\t' 3 (decisionLine call e).toList =
    leadingParts call e ++ [oneLine e.reason.toList]

theorem newLine_mem_decisionLine_iff :
    '\n' ∈ (decisionLine call e).toList ↔ '\n' ∈ shownName call := by
  have hdecision := (not_mem_of_solid (decision_name_solid e.decision)).1
  have hrequest := (not_mem_of_solid (shownRequest_solid e)).1
  have hreason := flatten_eq e.reason.toList ▸ newLine_not_mem_flatten e.reason.toList
  simp [toList_decisionLine, joined, leadingParts, hdecision, hrequest, hreason]

theorem cutAtMarks_decisionLine_iff :
    cutAtMarks '\t' 3 (decisionLine call e).toList =
        leadingParts call e ++ [oneLine e.reason.toList] ↔
      '\t' ∉ shownName call := by
  have hdecision := (not_mem_of_solid (decision_name_solid e.decision)).2
  have hrequest := (not_mem_of_solid (shownRequest_solid e)).2
  have hcut : cutAtMarks '\t' 3 (joined '\t' (leadingParts call e) (oneLine e.reason.toList)) =
        leadingParts call e ++ [oneLine e.reason.toList] ↔
      ∀ part ∈ leadingParts call e, '\t' ∉ part :=
    @cutAtMarks_joined_iff '\t' (oneLine e.reason.toList) (leadingParts call e)
  rw [toList_decisionLine, hcut]
  simp [leadingParts, hdecision, hrequest]

/-- A name that holds a line feed, a decision and a tab turns one `decisionLine` into two. The
second is a line of the caller's choice. -/
theorem decisionLine_forged (front name : String) (d : Decision) (args : Json.Fields)
    (e : Evaluation) (h : (front ++ "\n" ++ d.name ++ "\t" ++ name).length ≤ 200) :
    decisionLine ⟨front ++ "\n" ++ d.name ++ "\t" ++ name, args⟩ e =
      e.decision.name ++ "\t" ++ front ++ "\n" ++
        decisionLine ⟨name, args⟩ { e with decision := d } := by
  have hshown : (front ++ "\n" ++ d.name ++ "\t" ++ name).toList.take shownNameLength =
      (front ++ "\n" ++ d.name ++ "\t" ++ name).toList := List.take_of_length_le h
  have hname : name.toList.take shownNameLength = name.toList := by
    refine List.take_of_length_le (le_trans ?_ h)
    simp only [String.length_append, String.length_toList]
    omega
  simp only [decisionLine]
  rw [hshown, hname]
  simp only [String.ofList_toList, String.append_assoc]

/-- A `decisionLine` has a line feed iff the first 200 characters of the name do; it gives its parts
back at `cutAtMarks '\t' 3` iff they have no tab; so it `TellsApart` iff they have neither. The
reason may hold anything. -/
theorem lines_tell_apart_iff (call : ToolCall) (e : Evaluation) :
    ('\n' ∈ (decisionLine call e).toList ↔ '\n' ∈ call.tool.toList.take 200) ∧
    (cutAtMarks '\t' 3 (decisionLine call e).toList =
        [e.decision.name.toList, call.tool.toList.take 200, shownRequest e,
          oneLine e.reason.toList] ↔
      '\t' ∉ call.tool.toList.take 200) ∧
    (TellsApart call e ↔ ∀ c ∈ call.tool.toList.take 200, c ≠ '\n' ∧ c ≠ '\t') := by
  refine ⟨newLine_mem_decisionLine_iff, cutAtMarks_decisionLine_iff, ?_⟩
  rw [forall₂_and]
  constructor
  · rintro ⟨hline, hparts⟩
    exact ⟨fun c hc heq => hline (newLine_mem_decisionLine_iff.mpr (heq ▸ hc)),
      fun c hc heq => cutAtMarks_decisionLine_iff.mp hparts (heq ▸ hc)⟩
  · rintro ⟨hline, htab⟩
    exact ⟨fun hmem => hline _ (newLine_mem_decisionLine_iff.mp hmem) rfl,
      cutAtMarks_decisionLine_iff.mpr fun hmem => htab _ hmem rfl⟩

/-- A line feed in the name makes two lines; a tab shifts the parts; both of them report that
another tool was allowed. -/
theorem line_end_in_name :
    let e : Evaluation := ⟨.block, "no", none⟩
    '\n' ∈ (decisionLine ⟨"exec\nread", []⟩ e).toList ∧ ¬ TellsApart ⟨"exec\nread", []⟩ e ∧
      ¬ TellsApart ⟨"exec\tread", []⟩ e ∧
      decisionLine ⟨"exec\nallow\tread", []⟩ e =
        "block\texec\n" ++ decisionLine ⟨"read", []⟩ ⟨.allow, "no", none⟩ := by
  intro e
  have hends : '\n' ∈ (decisionLine ⟨"exec\nread", []⟩ e).toList :=
    newLine_mem_decisionLine_iff.mpr (by decide +kernel)
  refine ⟨hends, fun h => h.one_line hends, fun h => ?_, ?_⟩
  · exact cutAtMarks_decisionLine_iff.mp h.parts (by decide +kernel)
  · exact decisionLine_forged "exec" "read" .allow [] e (by decide +kernel)

end ToolGate

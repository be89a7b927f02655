/-
A code fence around the model's answer makes no difference.

* `inFence`, `inOpenFence` — a text in a fence, which need not be closed.
* `insideFence_around` — what is read of an answer that begins with a fence, whatever blanks are
  around it.
* `insideFence_closed`, `insideFence_open`, `insideFence_plain` — it is the text in the fence,
  trimmed, as it is the text itself if there is no fence.
* `fence_is_transparent` — so the rules that are made, or the failure, are the same.
-/
import Mathlib
import ToolGate.Authoring.Compile
import ToolGate.Proofs.Text.Trimming

namespace ToolGate.Authoring

open Text (isBlank trim trimEnd beforeEnd?)

/-! ## The first line -/

theorem afterFirstLine_line {line : List Char} (h : '\n' ∉ line) : afterFirstLine line = [] := by
  induction line with
  | nil => rfl
  | cons c cs ih =>
    obtain ⟨hc, hcs⟩ := List.ne_and_not_mem_of_not_mem_cons h
    rw [afterFirstLine, if_neg (Ne.symm hc), ih hcs]

theorem afterFirstLine_append {line : List Char} (h : '\n' ∉ line) (rest : List Char) :
    afterFirstLine (line ++ '\n' :: rest) = rest := by
  induction line with
  | nil => simp [afterFirstLine]
  | cons c cs ih =>
    obtain ⟨hc, hcs⟩ := List.ne_and_not_mem_of_not_mem_cons h
    rw [List.cons_append, afterFirstLine, if_neg (Ne.symm hc), ih hcs]

/-- Where only blanks follow the first line, `trimEnd` takes its line feed too. -/
theorem afterFirstLine_trimEnd {line : List Char} (h : '\n' ∉ line) (rest : List Char) :
    afterFirstLine (trimEnd (line ++ '\n' :: rest)) = trimEnd rest := by
  have hends : trimEnd ('\n' :: rest) = if trimEnd rest = [] then [] else '\n' :: trimEnd rest := by
    rw [Text.trimEnd_cons]
    simp only [show isBlank '\n' = true by decide, and_true]
  rw [Text.trimEnd_append, hends]
  by_cases hrest : trimEnd rest = []
  · rw [if_pos hrest, if_pos rfl, hrest]
    exact afterFirstLine_line fun hmem => h ((Text.trimEnd_prefix line).mem hmem)
  · rw [if_neg hrest, if_neg (List.cons_ne_nil _ _), afterFirstLine_append h]

/-! ## Fences -/

theorem trimEnd_append_fence (cs : List Char) : trimEnd (cs ++ fence) = cs ++ fence := by
  have hlast : cs ++ fence = (cs ++ ['`', '`']) ++ ['`'] := by simp [fence]
  rw [hlast]
  exact Text.trimEnd_append_solid (by decide)

theorem trim_fence_append (cs : List Char) : trim (fence ++ cs) = fence ++ trimEnd cs := by
  have hsolid : isBlank '`' = false := by decide
  simp only [trim, fence, List.cons_append, List.nil_append, Text.trimStart_cons_of_solid hsolid,
    Text.trimEnd_cons_of_solid hsolid]

/-- A closing `fence` survives `trimStart`. -/
theorem fence_suffix_trimStart {cs : List Char} (h : fence <:+ cs) :
    fence <:+ Text.trimStart cs := by
  obtain ⟨front, rfl⟩ := h
  exact ⟨Text.trimStart front, (Text.trimStart_append_solid (by decide)).symm⟩

/-- Without a `fence` in front, `insideFence` is `trim`. -/
theorem insideFence_plain {text : List Char} (h : ¬ fence <+: trim text) :
    insideFence text = trim text := by
  simp only [insideFence, Text.afterStart?_eq_none.mpr h]

section

variable {before after info body gap : List Char}
variable (hbefore : ∀ c ∈ before, isBlank c = true) (hafter : ∀ c ∈ after, isBlank c = true)
variable (hinfo : '\n' ∉ info)

include hbefore hafter hinfo

/-- Behind a `fence` and its line of information, `insideFence` reads up to a closing `fence`, or to
the end. -/
theorem insideFence_around :
    insideFence (before ++ (fence ++ (info ++ '\n' :: body)) ++ after) =
      trim ((beforeEnd? fence (trimEnd body)).getD body) := by
  have htrim : trim (before ++ (fence ++ (info ++ '\n' :: body)) ++ after) =
      fence ++ trimEnd (info ++ '\n' :: body) := by
    rw [Text.trim_pad hbefore hafter, trim_fence_append]
  simp only [insideFence, htrim, Text.afterStart?_eq_some.mpr rfl, afterFirstLine_trimEnd hinfo,
    Text.trimEnd_trimEnd]
  cases beforeEnd? fence (trimEnd body) with
  | none => exact Text.trim_trimEnd body
  | some front => rfl

theorem insideFence_closed (hgap : ∀ c ∈ gap, isBlank c = true) :
    insideFence (before ++ (fence ++ (info ++ '\n' :: (body ++ gap ++ fence))) ++ after) =
      trim body := by
  have hclosed : beforeEnd? fence (trimEnd (body ++ gap ++ fence)) = some (body ++ gap) :=
    Text.beforeEnd?_eq_some.mpr (trimEnd_append_fence _)
  rw [insideFence_around hbefore hafter hinfo, hclosed]
  exact @Text.trim_pad body [] gap nofun hgap

theorem insideFence_open (hgap : ∀ c ∈ gap, isBlank c = true) (h : ¬ fence <:+ trim body) :
    insideFence (before ++ (fence ++ (info ++ '\n' :: (body ++ gap))) ++ after) = trim body := by
  have htrim : trim (body ++ gap) = trim body := @Text.trim_pad body [] gap nofun hgap
  have hopen : beforeEnd? fence (trimEnd (body ++ gap)) = none := by
    rw [Text.beforeEnd?_eq_none]
    intro hfence
    rw [← htrim, Text.trim_eq_trimStart_trimEnd] at h
    exact h (fence_suffix_trimStart hfence)
  rw [insideFence_around hbefore hafter hinfo, hopen]
  exact htrim

end

/-! ## Rules from fenced answers -/

/-- All characters are `isBlank`. -/
def IsPadding (s : String) : Prop := ∀ c ∈ s.toList, isBlank c = true

instance (s : String) : Decidable (IsPadding s) :=
  decidable_of_iff (s.toList.all isBlank = true) List.all_eq_true

/-- A `fence`, a line of information and the text, unclosed. -/
def inOpenFence (info text : String) : String := String.ofList fence ++ info ++ "\n" ++ text

/-- The same with a closing `fence`. -/
def inFence (info text : String) : String := inOpenFence info text ++ String.ofList fence

theorem toList_inOpenFence (info text : String) :
    (inOpenFence info text).toList = fence ++ (info.toList ++ '\n' :: text.toList) := by
  simp [inOpenFence]

theorem toList_inFence (info text : String) :
    (inFence info text).toList = fence ++ (info.toList ++ '\n' :: (text.toList ++ fence)) := by
  simp [inFence, toList_inOpenFence]

/-- What `compile` makes of a reply whose fence is gone. -/
def rulesOf (text : String) : Except Failure (List Rule) :=
  ((Rule.Document.read text).map (·.rules)).mapError .answer

/-- When the model replies, `compile` is `rulesOf` of `insideFence`. -/
theorem compile_of_reply {rules : List String} {model : LanguageModel} {reply : String}
    (h : model (prompt rules) = .ok reply) :
    compile rules model = rulesOf (String.ofList (insideFence reply.toList)) := by
  rw [compile, h, rulesOf]
  cases hread : Rule.Document.read (String.ofList (insideFence reply.toList)) with
  | error e => simp only [hread]; rfl
  | ok doc => simp only [hread]; rfl

theorem compile_of_failure {rules : List String} {model : LanguageModel} {failure : Failure}
    (h : model (prompt rules) = .error failure) : compile rules model = .error failure := by
  rw [compile, h]

/-- A reply without a fence is compiled as `rulesOf` its trimmed text. The same text `inFence`, with
any line of information and any `IsPadding` around it, compiles to the same rules or to the same
failure, and so it does `inOpenFence` unless it ends in a `fence` itself. A failure of the model is
passed on. -/
theorem fence_is_transparent (rules : List String) :
    (∀ (plain : LanguageModel) (text : String), plain (prompt rules) = .ok text →
      ¬ fence <+: trim text.toList →
      compile rules plain = rulesOf (Text.trimText text) ∧
      ∀ info before gap after : String, '\n' ∉ info.toList →
        IsPadding before → IsPadding gap → IsPadding after →
        (∀ fenced : LanguageModel,
          fenced (prompt rules) = .ok (before ++ inFence info (text ++ gap) ++ after) →
          compile rules fenced = compile rules plain) ∧
        (¬ fence <:+ trim text.toList →
          ∀ fenced : LanguageModel,
            fenced (prompt rules) = .ok (before ++ inOpenFence info (text ++ gap) ++ after) →
            compile rules fenced = compile rules plain)) ∧
    ∀ (failing : LanguageModel) (failure : Failure), failing (prompt rules) = .error failure →
      compile rules failing = .error failure := by
  refine ⟨?_, fun _ _ => compile_of_failure⟩
  intro plain text hplain hunfenced
  have hread : compile rules plain = rulesOf (Text.trimText text) := by
    rw [compile_of_reply hplain, insideFence_plain hunfenced, Text.trimText]
  refine ⟨hread, fun info before gap after hinfo hbefore hgap hafter => ⟨?_, ?_⟩⟩
  · intro fenced hfenced
    have hinside : insideFence (before ++ inFence info (text ++ gap) ++ after).toList =
        trim text.toList := by
      simp only [String.toList_append, toList_inFence]
      exact insideFence_closed hbefore hafter hinfo hgap
    rw [compile_of_reply hfenced, hinside, hread, Text.trimText]
  · intro hend fenced hfenced
    have hinside : insideFence (before ++ inOpenFence info (text ++ gap) ++ after).toList =
        trim text.toList := by
      simp only [String.toList_append, toList_inOpenFence]
      exact insideFence_open hbefore hafter hinfo hgap hend
    rw [compile_of_reply hfenced, hinside, hread, Text.trimText]

/-- A reply with a `fence` inside and a word that is no value in its second line. -/
theorem fence_is_transparent_of_broken_answer :
    let text := "\x7b\"rules\":\n[], \"```\": nothing\n"
    let plain : LanguageModel := fun _ => .ok text
    let fenced : LanguageModel := fun _ =>
      .ok ("\n\t" ++ inFence "json " (text ++ "\r\n") ++ "\u00a0\n")
    let unclosed : LanguageModel := fun _ => .ok (" " ++ inOpenFence "" (text ++ "") ++ "\u3000")
    let failure : Failure := .answer ⟨.malformed .expectedWord, some ⟨2, 13⟩⟩
    compile ["allow read"] plain = .error failure ∧ compile ["allow read"] fenced = .error failure ∧
      compile ["allow read"] unclosed = .error failure := by
  intro text plain fenced unclosed failure
  obtain ⟨hread, hfences⟩ :=
    (fence_is_transparent ["allow read"]).1 plain text rfl (by decide +kernel)
  have hfailure : rulesOf (Text.trimText text) = .error failure := by decide +kernel
  have hplain : compile ["allow read"] plain = .error failure := hread.trans hfailure
  obtain ⟨hclosed, -⟩ := hfences "json " "\n\t" "\r\n" "\u00a0\n" (by decide +kernel)
    (by decide +kernel) (by decide +kernel) (by decide +kernel)
  obtain ⟨-, hopen⟩ := hfences "" " " "" "\u3000" (by decide +kernel) (by decide +kernel)
    (by decide +kernel) (by decide +kernel)
  exact ⟨hplain, (hclosed fenced rfl).trans hplain,
    (hopen (by decide +kernel) unclosed rfl).trans hplain⟩

end ToolGate.Authoring

/-
A document of rules is read back from its text.

* `sets_optionalField` — a field that is left out when there is nothing in it leaves nothing behind.
* `reads_rule`, `reads_document` — rules and documents are read from what is printed of them.
* `read_render` — so is a document from its text.
-/
import Mathlib
import ToolGate.Rule.Basic
import ToolGate.Proofs.Json.Decoding

namespace ToolGate.Rule

open Json Json.Decoder

/-- An action is read by its `name`. -/
theorem reads_action (action : Action) : Action.decoder.Reads 0 (.text action.name) action := by
  apply reads_choice
  cases action <;> rfl

/-- An `optionalField` puts into the record what stands in it, or nothing. -/
theorem sets_optionalField {σ : Type} {fields : List (Json.Field σ)} {name : String}
    {set : Option String → σ → σ} {s s' : σ} {value : Option String}
    (hfind : Field.find? fields name = some (.optional name (.optional .text) set))
    (hnone : set none s = s) (hset : set value s = s') :
    Sets fields 0 s (optionalField name value) s' := by
  cases value with
  | none =>
    rw [← hset, hnone]
    exact .nil s
  | some text => exact sets_single hfind ((reads_textAs _ text).optional (by simp)) hset

theorem keys_optionalField (name : String) (value : Option String) :
    ((optionalField name value).map Prod.fst).Sublist [name] := by
  cases value with
  | none => exact List.nil_sublist _
  | some text => exact List.Sublist.refl _

theorem reads_rule (rule : Rule) : decoder.Reads 1 rule.toJson rule := by
  refine reads_record ?_ ?_ ?_
  · -- the fields are put in one after another, in the order in which they are printed
    refine Sets.append (Sets.append (Sets.append (Sets.append
      (sets_single rfl (reads_action _) rfl)
      (sets_optionalField rfl rfl rfl))
      (sets_optionalField rfl rfl rfl))
      (sets_optionalField rfl rfl rfl)) ?_
    exact sets_single rfl (reads_textAs _ rule.reason) rfl
  · have hkeys :
        (["action"] ++ ["tool"] ++ ["toolPattern"] ++ ["intentPattern"] ++ ["reason"]).Nodup := by
      decide
    refine hkeys.sublist ?_
    simp only [List.map_append]
    refine List.Sublist.append ?_ (List.Sublist.refl ["reason"])
    exact (((List.Sublist.refl ["action"]).append (keys_optionalField _ _)).append
      (keys_optionalField _ _)).append (keys_optionalField _ _)
  · intro field hfield hmandatory
    simp only [List.mem_cons, List.not_mem_nil, or_false] at hfield
    rcases hfield with rfl | rfl | rfl | rfl | rfl
    · simp [Field.required]
    · cases hmandatory
    · cases hmandatory
    · cases hmandatory
    · cases hmandatory

namespace Document

theorem reads_document (doc : Document) : decoder.Reads 3 doc.toJson doc := by
  have hrules : (listOf Rule.decoder).Reads 2 (.list (doc.rules.map Rule.toJson)) doc.rules := by
    apply reads_listOf
    rw [List.forall₂_map_left_iff, List.forall₂_same]
    exact fun rule _ => reads_rule rule
  refine reads_record (sets_single rfl hrules rfl) (by simp) ?_
  simp [HasMandatory, Field.optional]

/-- A document is read back from what it is rendered as. -/
theorem read_render (doc : Document) : read doc.render = .ok doc :=
  decode_toPrettyText (reads_document doc) (by decide)

end Document

end ToolGate.Rule

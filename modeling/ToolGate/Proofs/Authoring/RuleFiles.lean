/-
Rules that were written are the rules that are loaded.

* `FileTree.readText_write` — what was written at a path is read there: writing puts a file at the
  place that the path leads to and leaves the folders on the way as they are (`follow_put`).
* `exists_write_of_writeInFolder` — writing a file succeeds only by writing it.
* `written_rules_are_loaded` — any list of rules, also one that was read, comes back from its text
  and from the file that it was written to.
-/
import Mathlib
import ToolGate.Authoring.Files
import ToolGate.Storage.FileTree
import ToolGate.Proofs.Rule.Document

namespace ToolGate.FileTree

variable {t t' : FileTree}

theorem node?_put_self (t : FileTree) {place : List String} (hplace : place ≠ [])
    (node : Int → Node) :
    (t.put place node).node? place = some (node t.now) := by
  simp [node?, put, hplace]

theorem node?_put_of_ne (t : FileTree) {place path : List String} (hpath : path ≠ place)
    (node : Int → Node) :
    (t.put place node).node? path = t.node? path := by
  have hne : (place == path) = false := by simpa using Ne.symm hpath
  have hfilter : (t.nodes.filter (·.1 != place)).find? (·.1 == path) =
      t.nodes.find? (·.1 == path) := by
    rw [List.find?_filter]
    congr 1
    funext n
    by_cases h : n.1 = path <;> simp [h, hpath]
  simp only [node?, put, List.find?_cons, hne, hfilter]

/-- Where no folder is replaced, `put` does not redirect `follow`. -/
theorem follow_put (t : FileTree) {place : List String}
    (hplace : ∀ changed, t.node? place ≠ some (.folder changed))
    (node : Int → Node) {parts : List String} {goal : List String} :
    ∀ {start : List String}, t.follow start parts = .ok goal →
      (t.put place node).follow start parts = .ok goal := by
  induction parts with
  | nil => exact fun h => h
  | cons part rest ih =>
    intro start h
    unfold follow at h ⊢
    split at h
    · cases h
    · cases h
    · rename_i changed hfolder
      -- the way leads through folders only, and none of them stands at the place
      have hstart : start ≠ place := by
        rintro rfl
        exact hplace changed hfolder
      rw [node?_put_of_ne t hstart, hfolder]
      exact ih h

/-- After `write` of a text, `readText` gives it. -/
theorem readText_write {path text : String} (h : t.write path (.text text) = .ok t') :
    t'.readText path = .ok text := by
  unfold write at h
  split at h
  · cases h
  rename_i place hwalk
  split at h
  · cases h
  rename_i hfree
  cases h
  have hplace : ∀ changed, t.node? place ≠ some (.folder changed) :=
    fun changed hfolder => hfree changed hfolder
  have hroot : place ≠ [] := by
    rintro rfl
    exact hplace 0 rfl
  have hwalk' : (t.put place fun now => .file now (.text text)).walk path = .ok place := by
    unfold walk at hwalk ⊢
    split at hwalk
    · cases hwalk
    · exact follow_put t hplace _ hwalk
    · exact follow_put t hplace _ hwalk
  simp only [readText, at?, hwalk', node?_put_self t hroot, Content.text?]

end ToolGate.FileTree

namespace ToolGate.Authoring

open Rule (Document)

/-- A `writeInFolder` that succeeds ends in a `write`. -/
theorem exists_write_of_writeInFolder {path text : String} {t t' : FileTree}
    (h : (writeInFolder path text : StateM FileTree (Except Failure Unit)) t = (.ok (), t')) :
    ∃ t₁ : FileTree, t₁.write path (.text text) = .ok t' := by
  have hwritten : ∀ t₁ : FileTree,
      (do
        let written ← Storage.writeText path text
        pure (written.mapError (Failure.file path ·)) : StateM FileTree (Except Failure Unit)) t₁ =
          (.ok (), t') → t₁.write path (.text text) = .ok t' := by
    intro t₁ h
    simp only [bind, StateT.bind, pure, StateT.pure, Storage.writeText, FileTree.attempt] at h
    cases hwrite : t₁.write path (.text text) with
    | ok t₂ =>
      rw [hwrite] at h
      cases h
      rfl
    | error e =>
      rw [hwrite] at h
      cases h
  unfold writeInFolder at h
  cases hparent : Storage.parent? path with
  | none =>
    rw [hparent] at h
    exact ⟨t, hwritten t h⟩
  | some folder =>
    simp only [hparent, bind, StateT.bind, Storage.createFolders, FileTree.attempt] at h
    cases hcreated : t.createFolders folder with
    | ok t₁ =>
      rw [hcreated] at h
      exact ⟨t₁, hwritten t₁ h⟩
    | error e =>
      rw [hcreated] at h
      cases h

/-- After `writeRules`, `loadRulesFile` gives the list. -/
theorem loadRulesFile_of_writeRules {path : String} {rules : List Rule} {t t' : FileTree}
    (h : (writeRules path rules : StateM FileTree (Except Failure Unit)) t = (.ok (), t')) :
    (loadRulesFile path : StateM FileTree (List Rule)) t' = (rules, t') := by
  obtain ⟨t₁, hwrite⟩ := exists_write_of_writeInFolder h
  have hread : t'.readText path = .ok (Document.render ⟨rules⟩) := FileTree.readText_write hwrite
  have hload : (loadRulesFile path : StateM FileTree (List Rule)) t' =
      (Document.rulesOrNone (t'.readText path).toOption, t') := rfl
  rw [hload, hread]
  simp only [Except.toOption, Document.rulesOrNone, Document.read_render]

/-- Round trip of rules: `Document.read` undoes `Document.render` on every list, `loadRulesFile`
undoes `writeRules` on every tree of files, and both hold of whatever `Document.read` accepts. -/
theorem written_rules_are_loaded :
    (∀ rules : List Rule, Document.read (Document.render ⟨rules⟩) = .ok ⟨rules⟩) ∧
    (∀ (rules : List Rule) (path : String) (t t' : FileTree),
      (writeRules path rules : StateM FileTree (Except Failure Unit)) t = (.ok (), t') →
        (loadRulesFile path : StateM FileTree (List Rule)) t' = (rules, t')) ∧
    ∀ (text : String) (doc : Document), Document.read text = .ok doc →
      Document.read doc.render = .ok doc ∧
      ∀ (path : String) (t t' : FileTree),
        (writeRules path doc.rules : StateM FileTree (Except Failure Unit)) t = (.ok (), t') →
          (loadRulesFile path : StateM FileTree (List Rule)) t' = (doc.rules, t') :=
  ⟨fun rules => Document.read_render ⟨rules⟩, fun _ _ _ _ h => loadRulesFile_of_writeRules h,
    fun _ doc _ => ⟨Document.read_render doc, fun _ _ _ h => loadRulesFile_of_writeRules h⟩⟩

/-- Rules with empty texts, quotes, control characters and line ends, in a folder that is not there
yet. -/
theorem written_rules_are_loaded_of_odd_texts :
    let rules : List Rule := [⟨.block, some "", none, some "\\d+\"\n", "a \x01 \t \x7f ü"⟩,
      ⟨.requireApproval, none, some "", some "", ""⟩]
    let text := "\x7b\"rules\": [\x7b\"action\": \x7b\"allow\": null\x7d, \"tool\": null\x7d]\x7d"
    let doc : Document := ⟨[⟨.allow, none, none, none, ""⟩]⟩
    let written :=
      (writeRules "rules/own.json" rules : StateM FileTree (Except Failure Unit)) .empty
    let again :=
      (writeRules "rules.json" doc.rules : StateM FileTree (Except Failure Unit)) written.2
    written.1 = .ok () ∧ again.1 = .ok () ∧ Document.read text = .ok doc ∧
      (loadRulesFile "rules/own.json" : StateM FileTree (List Rule)) written.2 =
        (rules, written.2) ∧
      (loadRulesFile "rules.json" : StateM FileTree (List Rule)) again.2 =
        (doc.rules, again.2) := by
  intro rules text doc written again
  have hwritten : written = (.ok (), written.2) := Prod.ext (by decide +kernel) rfl
  have hagain : again = (.ok (), again.2) := Prod.ext (by decide +kernel) rfl
  have htext : Document.read text = .ok doc := by decide +kernel
  obtain ⟨-, hloads, hreads⟩ := written_rules_are_loaded
  exact ⟨congrArg Prod.fst hwritten, congrArg Prod.fst hagain, htext, hloads _ _ _ _ hwritten,
    (hreads _ _ htext).2 _ _ _ hagain⟩

end ToolGate.Authoring

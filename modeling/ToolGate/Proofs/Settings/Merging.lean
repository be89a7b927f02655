/-
How the user's changes and the words on the command line are merged into the settings.

* `ListChange.foldl_addItem_eq` — items that are added one after another come behind the list: those
  that it lacks, in the order in which they are named first.
* `ListChange.kept`, `ListChange.missing` — the two parts of a list that is not replaced.
* `ListChange.Merges` — what a list is after the changes; `ListChange.merges_apply`.
* `Toml.Field.Keeps`, `Toml.record_keeps` — what every field of a record keeps, reading the record
  keeps.
* `Overlay.replacesAlike_of_read?` — one word says of both lists about paths whether they are
  replaced.
* `Settings.Merged` — what the settings are after all changes; `Settings.merged_by_precedence`.
-/
import Mathlib
import ToolGate.Host.CommandLine
import ToolGate.Settings.Overlay

namespace ToolGate

/-! ## Lists -/

namespace ListChange

variable {item : String} {added items : List String}

theorem addItem_of_mem (h : item ∈ items) : addItem items item = items :=
  if_pos (List.contains_iff_mem.mpr h)

theorem addItem_of_not_mem (h : item ∉ items) : addItem items item = items ++ [item] :=
  if_neg (mt List.contains_iff_mem.mp h)

/-- Items that `addItem` adds one after another come behind the list: those that it lacks, once
each, in the order in which they are named first. -/
theorem foldl_addItem_eq (items added : List String) :
    added.foldl addItem items = items ++ (added.filter (· ∉ items)).eraseDups := by
  induction added generalizing items with
  | nil => simp
  | cons first rest ih =>
    rw [List.foldl_cons, ih]
    by_cases hfirst : first ∈ items
    · rw [addItem_of_mem hfirst, List.filter_cons_of_neg (by simpa using hfirst)]
    · -- from now on the item is there, so that it is not added again
      have hrest : (rest.filter (· ∉ items)).filter (fun item => !item == first) =
          rest.filter (· ∉ items ++ [first]) := by
        rw [List.filter_filter]
        refine List.filter_congr fun item _ => ?_
        by_cases hitem : item = first <;> simp [hitem]
      rw [addItem_of_not_mem hfirst, List.filter_cons_of_pos (by simpa using hfirst),
        List.eraseDups_cons, hrest, List.append_assoc, List.singleton_append]

theorem mem_foldl_addItem : item ∈ added.foldl addItem items ↔ item ∈ items ∨ item ∈ added := by
  rw [foldl_addItem_eq, List.mem_append, List.mem_eraseDups, List.mem_filter, decide_eq_true_eq]
  tauto

theorem nodup_addItem (h : items.Nodup) (item : String) : (addItem items item).Nodup := by
  by_cases hmem : item ∈ items
  · rwa [addItem_of_mem hmem]
  · rw [addItem_of_not_mem hmem]
    exact List.nodup_append_comm.mp (List.nodup_cons.mpr ⟨hmem, h⟩)

theorem nodup_foldl_addItem (h : items.Nodup) : (added.foldl addItem items).Nodup := by
  induction added generalizing items with
  | nil => exact h
  | cons first rest ih => exact ih (nodup_addItem h first)

/-- What is left of a list without the items to remove. -/
def kept (c : ListChange) (base : List String) : List String := base.filter (· ∉ c.remove)

/-- The items to add that are not `kept` anyway, once each, in the order in which they are named
first. -/
def missing (c : ListChange) (base : List String) : List String :=
  (c.add.filter (· ∉ c.kept base)).eraseDups

/-- A list is merged with changes. -/
structure Merges (c : ListChange) (base merged : List String) : Prop where
  replaced : c.replaces = true → merged = c.add
  extended : c.replaces = false → merged = c.kept base ++ c.missing base
  mem_iff : c.replaces = false →
    ∀ item, item ∈ merged ↔ item ∈ c.add ∨ item ∈ base ∧ item ∉ c.remove
  /-- What is both added and removed is there. -/
  adding_wins : c.replaces = false → ∀ item ∈ c.add, item ∈ c.remove → item ∈ merged
  nodup : c.replaces = false → base.Nodup → merged.Nodup
  /-- What is added although it is `kept` stays where it is, and does not come a second time. -/
  unmoved : c.replaces = false → ∀ item ∈ c.add, item ∈ c.kept base →
    merged.idxOf item = (c.kept base).idxOf item ∧ merged.count item = (c.kept base).count item

variable {c : ListChange} {base : List String}

theorem apply_of_replaces (h : c.replaces = true) : c.apply base = c.add := if_pos h

theorem apply_of_not_replaces (h : c.replaces = false) :
    c.apply base = c.add.foldl addItem (c.kept base) := by
  simp [apply, kept, h]

theorem mem_kept : item ∈ c.kept base ↔ item ∈ base ∧ item ∉ c.remove := by
  simp [kept]

theorem not_mem_missing (h : item ∈ c.kept base) : item ∉ c.missing base := by
  simp [missing, h]

theorem merges_apply (c : ListChange) (base : List String) : c.Merges base (c.apply base) := by
  have hextended : c.replaces = false → c.apply base = c.kept base ++ c.missing base := fun h =>
    (apply_of_not_replaces h).trans (foldl_addItem_eq _ _)
  have hmem : c.replaces = false → ∀ item,
      item ∈ c.apply base ↔ item ∈ c.add ∨ item ∈ base ∧ item ∉ c.remove := by
    intro h item
    rw [apply_of_not_replaces h, mem_foldl_addItem, mem_kept, or_comm]
  refine ⟨apply_of_replaces, hextended, hmem, ?_, ?_, ?_⟩
  · intro h item hadd _
    exact (hmem h item).mpr (.inl hadd)
  · intro h hbase
    rw [apply_of_not_replaces h]
    exact nodup_foldl_addItem (hbase.filter _)
  · intro h item _ hkept
    rw [hextended h]
    refine ⟨List.idxOf_append_of_mem hkept, ?_⟩
    rw [List.count_append, List.count_eq_zero_of_not_mem (not_mem_missing hkept), Nat.add_zero]

end ListChange

/-! ## Records that are read -/

namespace Toml

variable {σ α : Type} {P : σ → Prop}

/-- Changing a record by the value of a field keeps `P`. -/
def Field.Keeps (P : σ → Prop) (field : Field σ) : Prop :=
  ∀ v s s', field.change v s = some s' → P s → P s'

section

variable {key : String} {read : Toml → Option α} {set : α → σ → σ}

theorem keeps_setting (h : ∀ a s, P s → P (set a s)) : (Field.setting key read set).Keeps P := by
  intro v s s' hchange hs
  obtain ⟨a, -, rfl⟩ := Option.map_eq_some_iff.mp hchange
  exact h a s hs

theorem keeps_override (h : ∀ a s, P s → P (set a s)) : (Field.override key read set).Keeps P := by
  have hset : (Field.setting key read set).Keeps P := keeps_setting h
  exact hset

end

variable {fields : List (Field σ)}

theorem changeByKey_keeps (h : ∀ field ∈ fields, field.Keeps P) {entries : Entries} :
    ∀ {s s' : σ}, changeByKey entries fields s = some s' → P s → P s' := by
  induction fields with
  | nil =>
    intro s s' hread hs
    cases hread
    exact hs
  | cons field rest ih =>
    obtain ⟨hfield, hrest⟩ := List.forall_mem_cons.mp h
    intro s s' hread hs
    unfold changeByKey at hread
    split at hread
    · obtain ⟨s₁, hchange, hmore⟩ := Option.bind_eq_some_iff.mp hread
      exact ih hrest hmore (hfield _ _ _ hchange hs)
    · exact ih hrest hread hs

theorem changeInOrder_keeps (h : ∀ field ∈ fields, field.Keeps P) :
    ∀ {items : List Toml} {s s' : σ}, changeInOrder items fields s = some s' → P s → P s' := by
  induction fields with
  | nil =>
    intro items s s' hread hs
    cases items <;> cases hread <;> exact hs
  | cons field rest ih =>
    obtain ⟨hfield, hrest⟩ := List.forall_mem_cons.mp h
    intro items s s' hread hs
    cases items with
    | nil =>
      unfold changeInOrder at hread
      split at hread
      · exact ih hrest hread hs
      · cases hread
    | cons v items =>
      obtain ⟨s₁, hchange, hmore⟩ := Option.bind_eq_some_iff.mp hread
      exact ih hrest hmore (hfield _ _ _ hchange hs)

/-- What every field `Keeps`, reading the record keeps. -/
theorem record_keeps (h : ∀ field ∈ fields, field.Keeps P) {v : Toml} {s s' : σ}
    (hread : record fields v s = some s') (hs : P s) : P s' := by
  cases v with
  | table => exact changeByKey_keeps h hread hs
  | list => exact changeInOrder_keeps h hread hs
  | moment =>
    cases hread
    exact hs
  | _ => cases hread

theorem keeps_part {key : String} (h : ∀ field ∈ fields, field.Keeps P) :
    (Field.part key (record fields)).Keeps P := fun _ _ _ => record_keeps h

end Toml

namespace Overlay

/-- Both lists about paths are replaced, or neither is. -/
def ReplacesAlike (o : Overlay) : Prop := o.dangerousTools.replaces = o.protectedPatterns.replaces

/-- Every section keeps `ReplacesAlike`: one word of a section changes both lists. -/
theorem sections_keep : ∀ field ∈ sections, field.Keeps ReplacesAlike := by
  simp only [sections, List.forall_mem_cons]
  refine ⟨Toml.keeps_part ?_, Toml.keeps_part ?_, Toml.keeps_part ?_, Toml.keeps_part ?_, nofun⟩
  · simp only [decisionFields, List.forall_mem_cons]
    exact ⟨Toml.keeps_override fun _ _ h => h, Toml.keeps_override fun _ _ h => h, nofun⟩
  · simp only [protectionFields, List.forall_mem_cons]
    exact ⟨Toml.keeps_override fun _ _ h => h, Toml.keeps_setting fun _ _ _ => rfl,
      Toml.keeps_setting fun _ _ h => h, Toml.keeps_setting fun _ _ h => h,
      Toml.keeps_setting fun _ _ h => h, Toml.keeps_setting fun _ _ h => h, nofun⟩
  · simp only [requestFields, List.forall_mem_cons]
    exact ⟨Toml.keeps_override fun _ _ h => h, Toml.keeps_override fun _ _ h => h,
      Toml.keeps_override fun _ _ h => h, nofun⟩
  · simp only [internalFields, List.forall_mem_cons]
    exact ⟨Toml.keeps_setting fun _ _ h => h, Toml.keeps_setting fun _ _ h => h,
      Toml.keeps_setting fun _ _ h => h, nofun⟩

theorem replacesAlike_of_read? {text : String} {o : Overlay} (h : read? text = some o) :
    o.ReplacesAlike := by
  obtain ⟨document, -, hrecord⟩ := Option.bind_eq_some_iff.mp h
  exact Toml.record_keeps sections_keep hrecord rfl

end Overlay

/-! ## Settings -/

namespace Settings

/-- Settings are those before, with what the overlay says in their place, and with what the flags
say in the place of that. -/
structure Merged (s : Settings) (o : Overlay) (f : Host.Flags) (merged : Settings) : Prop where
  fallback : merged.fallback = (f.fallback <|> o.fallback).getD s.fallback
  rulesPath : merged.rulesPath = (f.rulesPath <|> o.rulesPath).getD s.rulesPath
  protects :
    merged.protects =
      ((if f.unprotected then some false else none) <|> o.protects).getD s.protects
  lifetime : merged.lifetime = o.lifetime.getD s.lifetime
  sweepPause : merged.sweepPause = o.sweepPause.getD s.sweepPause
  expireResolved : merged.expireResolved = o.expireResolved.getD s.expireResolved
  dangerousTools :
    o.dangerousTools.Merges s.protection.dangerousTools merged.protection.dangerousTools
  protectedPatterns :
    o.protectedPatterns.Merges s.protection.protectedPatterns merged.protection.protectedPatterns
  internalTools : o.internalTools.Merges s.internalTools merged.internalTools

theorem merged_apply (s : Settings) (o : Overlay) (f : Host.Flags) :
    s.Merged o f (f.apply (o.apply s)) where
  fallback := by cases h : f.fallback <;> simp [Host.Flags.apply, Overlay.apply, h]
  rulesPath := by cases h : f.rulesPath <;> simp [Host.Flags.apply, Overlay.apply, h]
  protects := by cases h : f.unprotected <;> simp [Host.Flags.apply, Overlay.apply, h]
  lifetime := rfl
  sweepPause := rfl
  expireResolved := rfl
  dangerousTools := o.dangerousTools.merges_apply _
  protectedPatterns := o.protectedPatterns.merges_apply _
  internalTools := o.internalTools.merges_apply _

/-- What a list of the settings is after an overlay and flags depends on the list before and on the
changes to that list, and on nothing else. -/
def IndependentList (list : Settings → List String) (change : Overlay → ListChange) : Prop :=
  ∀ s s' o o' (f f' : Host.Flags), list s = list s' → change o = change o' →
    list (f.apply (o.apply s)) = list (f'.apply (o'.apply s'))

/-- Settings are `Merged` whatever the overlay and the flags say: flags before overlay before
settings, and lists as `ListChange.Merges` has them. Each is an `IndependentList`, and overlays that
are read are `ReplacesAlike`. -/
theorem merged_by_precedence :
    (∀ s o f, Merged s o f (f.apply (o.apply s))) ∧
    IndependentList (·.protection.dangerousTools) (·.dangerousTools) ∧
    IndependentList (·.protection.protectedPatterns) (·.protectedPatterns) ∧
    IndependentList (·.internalTools) (·.internalTools) ∧
    ∀ text o, Overlay.read? text = some o → o.ReplacesAlike := by
  refine ⟨merged_apply, ?_, ?_, ?_, fun _ _ => Overlay.replacesAlike_of_read?⟩
  · intro s s' o o' f f' hlist hchange
    exact congrArg₂ ListChange.apply hchange hlist
  · intro s s' o o' f f' hlist hchange
    exact congrArg₂ ListChange.apply hchange hlist
  · intro s s' o o' f f' hlist hchange
    exact congrArg₂ ListChange.apply hchange hlist

/-- The tool `edit` is removed and added and comes last, `move` is left and added and stays, `exec`
is added twice and comes once; the list that is replaced has what it is given twice. -/
theorem merged_by_precedence_of_overlap :
    let text :=
      "[path_protection]\nenabled=true\ndangerous_tools=['edit','exec','move','exec']\n" ++
      "remove_dangerous_tools=['edit']\n[internal_tools]\nreplace=true\npatterns=['^s','^s']"
    let o : Overlay :=
      { Overlay.empty with
        protects := some true
        dangerousTools := ⟨false, ["edit", "exec", "move", "exec"], ["edit"]⟩
        internalTools := ⟨true, ["^s", "^s"], []⟩ }
    let f : Host.Flags := ⟨none, some .block, true⟩
    let s : Settings := { usual with protection := ⟨["edit", "move", "write"], ["**/rules*.json"]⟩ }
    let merged := f.apply (o.apply s)
    Overlay.read? text = some o ∧ o.ReplacesAlike ∧ merged.fallback = .block ∧
      merged.protects = false ∧
      merged.protection = ⟨["move", "write", "edit", "exec"], ["**/rules*.json"]⟩ ∧
      merged.internalTools = ["^s", "^s"] := by
  intro text o f s merged
  have hread : Overlay.read? text = some o := by decide +kernel
  obtain ⟨hmerged, -, -, -, halike⟩ := merged_by_precedence
  have h : s.Merged o f merged := hmerged s o f
  have htools : merged.protection.dangerousTools = ["move", "write", "edit", "exec"] :=
    (h.dangerousTools.extended rfl).trans (by decide +kernel)
  have hpatterns : merged.protection.protectedPatterns = ["**/rules*.json"] :=
    (h.protectedPatterns.extended rfl).trans (by decide +kernel)
  exact ⟨hread, halike _ _ hread, h.fallback, h.protects,
    congrArg₂ Protection.Lists.mk htools hpatterns, h.internalTools.replaced rfl⟩

end Settings

end ToolGate

/-
What a record is read as, field by field.

* `Contents.under?`, `Exact.under?` — what a record holds under a key, or at the place of it in a
  list.
* `exists_written_of_readTagged` — what is read of a record is kept of what is written there, but
  for the field that tells its kind.
* `Field.Shows`, `Field.Hides` — what a field writes into a record, and what it leaves alone.
* `view_of_convertContents` — what is seen of a record is what it holds under the key of the field
  that shows it.
-/
import Mathlib
import ToolGate.Json.Tagged
import ToolGate.Proofs.Json.Exact

namespace ToolGate.Json

/-! ## What a record holds -/

/-- The value under `key`, or at its `place` in a list. -/
def Contents.under? (key : String) (place : ℕ) : Contents → Option Json
  | .entries fields => field? key fields
  | .items values => values[place]?

/-- The same before reading; in a list, the kind comes first. -/
def Exact.under? (key : String) (place : ℕ) : Exact → Option Exact
  | .object entries => entries.lookup key
  | .list (_ :: items) => items[place]?
  | _ => none

variable {α σ : Type}

theorem exists_written_of_readName {options : List (String × α)} {depth : ℕ}
    {cs rest : List Char} {a : α} (h : Decoder.readName options depth cs = .ok (a, rest)) :
    ∃ s, Written .value cs (Exact.text s) rest := by
  simp only [Decoder.readName, Decoder.textAs] at h
  split at h
  · cases h
  rename_i name rest' hname
  split at hname
  · rename_i inner hskip
    split at h
    · cases h
      refine ⟨name, .scalar ?_⟩
      simp [hskip, scanScalar, hname, Except.map]
    · cases h
  · cases hname

theorem lookup_filter_ne {tag key : String} (h : key ≠ tag) (es : Exact.Entries) :
    (es.filter (·.1 ≠ tag)).lookup key = es.lookup key := by
  induction es with
  | nil => rfl
  | cons e es ih =>
    obtain ⟨k, x⟩ := e
    by_cases hk : k = tag
    · subst hk
      have hne : (key == k) = false := beq_eq_false_iff_ne.mpr h
      simpa [List.lookup_cons, hne] using ih
    · simp only [ne_eq, decide_not] at ih
      simp [List.lookup_cons, hk, ih]

theorem exists_written_of_readTaggedEntries {tag : String} {options : List (String × Variant α)}
    {depth : ℕ} {v : Variant α} {fuel : ℕ} : ∀ {first : Bool} {found : Option (Variant α)}
    {cs rest : List Char} {fs : Fields},
    Tagged.readEntries tag options depth fuel first found cs = .ok ((v, fs), rest) →
      ∃ es, Written (.entries first) cs es rest ∧
        Exact.keptEntries (es.filter (·.1 ≠ tag)) = fs := by
  induction fuel with
  | zero =>
    intro first found cs rest fs h
    cases h
  | succ fuel ih =>
    intro first found cs rest fs h
    unfold Tagged.readEntries at h
    split at h
    · cases h
    · rename_i hnext
      split at h
      · cases h
      · cases h
        exact ⟨[], .noEntry hnext, rfl⟩
    rename_i key inner hnext
    split at h
    · rename_i hkey
      split at h
      · cases h
      split at h
      · cases h
      rename_i inner' hcolon
      split at h
      · cases h
      · rename_i v' behind hname
        obtain ⟨s, hs⟩ := exists_written_of_readName hname
        obtain ⟨es, hes, rfl⟩ := ih h
        refine ⟨(key, .text s) :: es, .entry hnext hcolon hs hes, ?_⟩
        simp [hkey]
    · rename_i hkey
      split at h
      · cases h
      rename_i inner' hcolon
      split at h
      · cases h
      · rename_i j behind hj
        obtain ⟨⟨v', fs'⟩, hrest, heq⟩ :=
          exists_of_map_ok (f := fun p : Variant α × Fields => (p.1, (key, j) :: p.2)) h
        cases heq
        obtain ⟨x, hx, rfl⟩ := exists_written_of_readValue hj
        obtain ⟨es, hes, rfl⟩ := ih hrest
        refine ⟨(key, x) :: es, .entry hnext hcolon hx hes, ?_⟩
        simp [hkey, Exact.keptEntries]

/-- Whatever `Tagged.read` reads is `kept` of what is `Written` there, less the field with the
tag. -/
theorem exists_written_of_readTagged {tag form : String} {options : List (String × Variant α)}
    {depth : ℕ} {cs rest : List Char} {v : Variant α} {contents : Contents}
    (h : Tagged.read tag form options depth cs = .ok ((v, contents), rest)) :
    ∃ x, Written .value cs x rest ∧ ∀ key place, key ≠ tag →
      contents.under? key place = (x.under? key place).map Exact.kept := by
  unfold Tagged.read Decoder.opening at h
  split at h
  · rename_i inner hskip
    split at h
    · cases h
    · obtain ⟨⟨v', js⟩, hread, heq⟩ :=
        exists_of_map_ok (f := fun p : Variant α × List Json => (p.1, Contents.items p.2)) h
      cases heq
      unfold Tagged.readItems at hread
      split at hread
      · cases hread
      · cases hread
      rename_i hnext
      split at hread
      · cases hread
      · rename_i hname
        obtain ⟨js', hjs, heq⟩ := exists_of_map_ok (f := fun js => (_, js)) hread
        cases heq
        obtain ⟨s, hs⟩ := exists_written_of_readName hname
        obtain ⟨xs, hxs, rfl⟩ := exists_written_of_readItems hjs
        refine ⟨.list (.text s :: xs), .list hskip (.item hnext hs hxs), fun key place _ => ?_⟩
        simp [Contents.under?, Exact.under?, Exact.keptItems_eq_map]
  · rename_i inner hskip
    split at h
    · cases h
    · obtain ⟨⟨v', fs⟩, hread, heq⟩ :=
        exists_of_map_ok (f := fun p : Variant α × Fields => (p.1, Contents.entries p.2)) h
      cases heq
      obtain ⟨es, hes, rfl⟩ := exists_written_of_readTaggedEntries hread
      refine ⟨.object es, .object hskip hes, fun key place hkey => ?_⟩
      simp only [Contents.under?, Exact.under?, Exact.field?_keptEntries]
      rw [lookup_filter_ne hkey]
  · cases h

/-! ## What a field writes into a record -/

/-- Setting the field makes its value the `view` of the record. -/
def Field.Shows (view : σ → Json) (field : Field σ) : Prop :=
  ∀ j set s, field.value.convert j = .ok set → view (set s) = j

/-- Setting the field leaves the `view` alone. -/
def Field.Hides (view : σ → Json) (field : Field σ) : Prop :=
  ∀ j set s, field.value.convert j = .ok set → view (set s) = view s

section

variable {view : σ → Json} {field : Field σ} {fields before after : List (Field σ)}

theorem shows_of_set {name : String} {mandatory : Bool} {d : Decoder α} {set : α → σ → σ}
    (h : ∀ j a s, d.convert j = .ok a → view (set a s) = j) :
    (⟨name, mandatory, d.map set⟩ : Field σ).Shows view := by
  intro j set' s hset
  obtain ⟨a, ha, rfl⟩ := exists_of_map_eq_ok hset
  exact h j a s ha

theorem hides_of_set {name : String} {mandatory : Bool} {d : Decoder α} {set : α → σ → σ}
    (h : ∀ a s, view (set a s) = view s) : (⟨name, mandatory, d.map set⟩ : Field σ).Hides view := by
  intro j set' s hset
  obtain ⟨a, -, rfl⟩ := exists_of_map_eq_ok hset
  exact h a s

theorem find?_eq_some {key : String} (h : Field.find? fields key = some field) :
    field ∈ fields ∧ field.name = key := by
  refine ⟨List.mem_of_find?_eq_some h, ?_⟩
  simpa using List.find?_some h

theorem ne_of_find?_eq_none {key : String} (hmem : field ∈ fields)
    (h : Field.find? fields key = none) : key ≠ field.name := by
  intro heq
  rw [Field.find?, List.find?_eq_none] at h
  simpa [heq] using h field hmem

/-- What was `seen` does not come again. -/
theorem field?_of_seen (hmem : field ∈ fields) {fs : Fields} : ∀ {seen : List String} {s s' : σ},
    field.name ∈ seen → Decoder.convertFields fields seen s fs = .ok s' →
      field? field.name fs = none := by
  induction fs with
  | nil =>
    intro seen s s' _ _
    rfl
  | cons entry fs ih =>
    obtain ⟨key, j⟩ := entry
    intro seen s s' hseen h
    unfold Decoder.convertFields at h
    split at h
    · rename_i hfind
      simp only [field?, if_neg (ne_of_find?_eq_none hmem hfind)]
      exact ih hseen h
    · split at h
      · cases h
      rename_i hnew
      split at h
      · cases h
      · have hne : key ≠ field.name := by
          rintro rfl
          simp [hseen] at hnew
        simp only [field?, if_neg hne]
        exact ih (List.mem_cons_of_mem _ hseen) h

/-- After `convertFields`, the `view` is what stands under the key of the field that `Shows` it. -/
theorem view_of_convertFields (hmem : field ∈ fields)
    (hshows : ∀ f ∈ fields, f.name = field.name → f.Shows view)
    (hhides : ∀ f ∈ fields, f.name ≠ field.name → f.Hides view) {fs : Fields} :
    ∀ {seen : List String} {s s' : σ}, Decoder.convertFields fields seen s fs = .ok s' →
      view s' = (field? field.name fs).getD (view s) := by
  induction fs with
  | nil =>
    intro seen s s' h
    unfold Decoder.convertFields at h
    split at h
    · cases h
    · cases h
      rfl
  | cons entry fs ih =>
    obtain ⟨key, j⟩ := entry
    intro seen s s' h
    unfold Decoder.convertFields at h
    split at h
    · rename_i hfind
      simp only [field?, if_neg (ne_of_find?_eq_none hmem hfind)]
      exact ih h
    rename_i f hfind
    obtain ⟨hf, hname⟩ := find?_eq_some hfind
    split at h
    · cases h
    split at h
    · cases h
    · rename_i set hset
      have hview := ih h
      by_cases hkey : key = field.name
      · -- the key is not met again
        rw [field?_of_seen hmem (by simp [hkey]) h, Option.getD_none] at hview
        simp only [field?, if_pos hkey, Option.getD_some]
        rw [hview]
        exact hshows f hf (hname.trans hkey) j set s hset
      · simp only [field?, if_neg hkey]
        rw [hview, hhides f hf (hname ▸ hkey) j set s hset]

theorem view_of_hidden {expected : String} (hhides : ∀ f ∈ fields, f.Hides view) :
    ∀ {position : ℕ} {s s' : σ} {js left : List Json},
      Decoder.convertInOrder expected fields position s js = .ok (s', left) → view s' = view s := by
  induction fields with
  | nil =>
    intro position s s' js left h
    cases h
    rfl
  | cons f fields ih =>
    obtain ⟨hf, hfields⟩ := List.forall_mem_cons.mp hhides
    intro position s s' js left h
    cases js with
    | nil =>
      unfold Decoder.convertInOrder at h
      split at h
      · cases h
      · exact ih hfields h
    | cons j js =>
      unfold Decoder.convertInOrder at h
      split at h
      · cases h
      · rename_i set hset
        rw [ih hfields h, hf j set s hset]

/-- After `convertInOrder`, it is what stands at the place of that field. -/
theorem view_of_convertInOrder {expected : String} (hbefore : ∀ f ∈ before, f.Hides view)
    (hfield : field.Shows view) (hafter : ∀ f ∈ after, f.Hides view) :
    ∀ {position : ℕ} {s s' : σ} {js left : List Json},
      Decoder.convertInOrder expected (before ++ field :: after) position s js = .ok (s', left) →
        view s' = js[before.length]?.getD (view s) := by
  induction before with
  | nil =>
    intro position s s' js left h
    cases js with
    | nil =>
      simp only [List.nil_append] at h
      unfold Decoder.convertInOrder at h
      split at h
      · cases h
      · exact view_of_hidden hafter h
    | cons j js =>
      simp only [List.nil_append] at h
      unfold Decoder.convertInOrder at h
      split at h
      · cases h
      · rename_i set hset
        rw [view_of_hidden hafter h, hfield j set s hset]
        rfl
  | cons f before ih =>
    obtain ⟨hf, hbefore⟩ := List.forall_mem_cons.mp hbefore
    intro position s s' js left h
    cases js with
    | nil =>
      simp only [List.cons_append] at h
      unfold Decoder.convertInOrder at h
      split at h
      · cases h
      · simpa using ih hbefore h
    | cons j js =>
      simp only [List.cons_append] at h
      unfold Decoder.convertInOrder at h
      split at h
      · cases h
      · rename_i set hset
        rw [ih hbefore h, hf j set s hset]
        simp

variable (view before field after) in
/-- After `convertContents`, it is `Contents.under?` its key and place. -/
theorem view_of_convertContents {form : String} {start s : σ} {contents : Contents}
    (hbefore : ∀ f ∈ before, f.name ≠ field.name ∧ f.Hides view) (hfield : field.Shows view)
    (hafter : ∀ f ∈ after, f.name ≠ field.name ∧ f.Hides view)
    (h : convertContents form start (before ++ field :: after) contents = .ok s) :
    view s = (contents.under? field.name before.length).getD (view start) := by
  cases contents with
  | entries fs =>
    have hcases : ∀ f ∈ before ++ field :: after,
        f = field ∨ f.name ≠ field.name ∧ f.Hides view := by
      intro f hf
      rcases List.mem_append.mp hf with hf | hf
      · exact .inr (hbefore f hf)
      rcases List.mem_cons.mp hf with rfl | hf
      · exact .inl rfl
      · exact .inr (hafter f hf)
    refine view_of_convertFields (by simp) (fun f hf hname => ?_) (fun f hf hname => ?_) h
    · rcases hcases f hf with rfl | ⟨hne, -⟩
      · exact hfield
      · exact absurd hname hne
    · rcases hcases f hf with rfl | ⟨-, hhides⟩
      · exact absurd rfl hname
      · exact hhides
  | items js =>
    simp only [convertContents] at h
    split at h
    · cases h
    · rename_i hread
      cases h
      exact view_of_convertInOrder (fun f hf => (hbefore f hf).2) hfield
        (fun f hf => (hafter f hf).2) hread
    · cases h

end

end ToolGate.Json

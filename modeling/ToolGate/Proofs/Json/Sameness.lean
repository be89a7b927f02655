/-
Values that differ in the order of keys only, and their canonical form.

* `WellFormed` — what a text can be read as: the keys of an object are distinct at every depth, and
  the format can hold every real number.
* `Same` — the same value up to the order of keys at every depth. A number is the same as itself
  only: an integer is not the real number of its value, nor is zero the negative zero.
* `sorted_ext` — fields in order of their keys are told by what is under each key.
* `canonical_eq_iff` — two well-formed values have one canonical form if and only if they are the
  same up to the order of keys.
-/
import Mathlib
import ToolGate.Json.Basic
import ToolGate.Proofs.Decimal.Rounding

namespace ToolGate.Json

/-! ## Fields by their keys -/

theorem mem_of_field? {k : String} {v : Json} : ∀ {fs : Fields}, field? k fs = some v → (k, v) ∈ fs
  | [], h => by simp [field?] at h
  | (k', v') :: rest, h => by
    simp only [field?] at h
    split at h
    · rename_i hk
      cases h
      simp [hk]
    · exact List.mem_cons_of_mem _ (mem_of_field? h)

theorem field?_eq_none {k : String} : ∀ {fs : Fields}, field? k fs = none ↔ k ∉ fs.map Prod.fst
  | [] => by simp [field?]
  | (k', v') :: rest => by
    simp only [field?, List.map_cons, List.mem_cons, not_or]
    split
    · rename_i hk
      simp [hk]
    · rename_i hk
      rw [field?_eq_none]
      exact ⟨fun h => ⟨Ne.symm hk, h⟩, fun h => h.2⟩

theorem field?_of_mem {k : String} {v : Json} {fs : Fields} (hkeys : (fs.map Prod.fst).Nodup)
    (h : (k, v) ∈ fs) : field? k fs = some v := by
  induction fs with
  | nil => simp at h
  | cons field rest ih =>
    obtain ⟨k', v'⟩ := field
    rw [List.map_cons, List.nodup_cons] at hkeys
    simp only [field?]
    rcases List.mem_cons.mp h with heq | hmem
    · cases heq
      simp
    · have hne : k' ≠ k := by
        rintro rfl
        exact hkeys.1 (List.mem_map.mpr ⟨_, hmem, rfl⟩)
      rw [if_neg hne]
      exact ih hkeys.2 hmem

theorem field?_insertField (key k : String) (value : Json) (fs : Fields) :
    field? k (insertField key value fs) = if key = k then some value else field? k fs := by
  induction fs with
  | nil => rfl
  | cons field rest ih =>
    obtain ⟨k', v'⟩ := field
    simp only [insertField]
    split
    · rfl
    split
    · rename_i hkey
      subst hkey
      simp only [field?]
      split <;> rfl
    · rename_i hkey
      simp only [field?, ih]
      by_cases hk : k' = k
      · have hne : key ≠ k := fun heq => hkey (heq.trans hk.symm)
        rw [if_pos hk, if_neg hne, if_pos hk]
      · rw [if_neg hk, if_neg hk]

/-- Over distinct keys, `collect` keeps what `field?` finds. -/
theorem field?_collect (k : String) {entries : Fields} (hkeys : (entries.map Prod.fst).Nodup) :
    ∀ collected, field? k (collect collected entries) =
      (field? k entries).or (field? k collected) := by
  induction entries with
  | nil => intro collected; rfl
  | cons field rest ih =>
    obtain ⟨k', v'⟩ := field
    intro collected
    rw [List.map_cons, List.nodup_cons] at hkeys
    rw [collect, ih hkeys.2, field?_insertField, field?]
    by_cases hk : k' = k
    · have hnone : field? k rest = none := field?_eq_none.mpr (hk ▸ hkeys.1)
      rw [if_pos hk, if_pos hk, hnone]
      rfl
    · rw [if_neg hk, if_neg hk]

theorem field?_ofEntries (k : String) {entries : Fields} (hkeys : (entries.map Prod.fst).Nodup) :
    field? k (ofEntries entries) = field? k entries := by
  rw [ofEntries, field?_collect k hkeys]
  exact Option.or_none

/-! ## Fields in order -/

theorem mem_insertField {key : String} {value : Json} {fs : Fields} {field : String × Json}
    (h : field ∈ insertField key value fs) : field = (key, value) ∨ field ∈ fs := by
  induction fs with
  | nil => simpa [insertField] using h
  | cons first rest ih =>
    simp only [insertField] at h
    split at h
    · exact List.mem_cons.mp h
    split at h
    · exact (List.mem_cons.mp h).imp_right (List.mem_cons_of_mem _)
    · rcases List.mem_cons.mp h with heq | hmem
      · exact .inr (heq ▸ List.mem_cons_self)
      · exact (ih hmem).imp_right (List.mem_cons_of_mem _)

theorem mem_ofEntries {entries : Fields} {field : String × Json} (h : field ∈ ofEntries entries) :
    field ∈ entries := by
  have key : ∀ (es collected : Fields), field ∈ collect collected es →
      field ∈ es ∨ field ∈ collected := by
    intro es
    induction es with
    | nil => exact fun _ hmem => .inr hmem
    | cons first rest ih =>
      intro collected hmem
      rcases ih _ hmem with hrest | hinserted
      · exact .inl (List.mem_cons_of_mem _ hrest)
      · rcases mem_insertField hinserted with rfl | hcollected
        · exact .inl List.mem_cons_self
        · exact .inr hcollected
  simpa using key entries [] h

theorem sortedKeys_insertField (key : String) (value : Json) {fs : Fields} (h : SortedKeys fs) :
    SortedKeys (insertField key value fs) := by
  induction fs with
  | nil => exact List.pairwise_singleton _ _
  | cons first rest ih =>
    obtain ⟨hfirst, hrest⟩ := List.pairwise_cons.mp h
    simp only [insertField]
    split
    · rename_i hlt
      refine List.pairwise_cons.mpr ⟨fun field hmem => ?_, h⟩
      rcases List.mem_cons.mp hmem with rfl | hmem
      · exact hlt
      · exact lt_trans hlt (hfirst field hmem)
    split
    · rename_i heq
      exact List.pairwise_cons.mpr ⟨fun field hmem => heq ▸ hfirst field hmem, hrest⟩
    · rename_i hlt hne
      refine List.pairwise_cons.mpr ⟨fun field hmem => ?_, ih hrest⟩
      rcases mem_insertField hmem with rfl | hmem
      · exact lt_of_le_of_ne (not_lt.mp hlt) (Ne.symm hne)
      · exact hfirst field hmem

theorem sortedKeys_ofEntries (entries : Fields) : SortedKeys (ofEntries entries) := by
  have key : ∀ (es collected : Fields), SortedKeys collected →
      SortedKeys (collect collected es) := by
    intro es
    induction es with
    | nil => exact fun _ h => h
    | cons first rest ih => exact fun _ h => ih _ (sortedKeys_insertField _ _ h)
  exact key entries [] List.Pairwise.nil

theorem SortedKeys.nodup {fs : Fields} (h : SortedKeys fs) : (fs.map Prod.fst).Nodup :=
  List.pairwise_map.mpr (h.imp fun hlt => ne_of_lt hlt)

/-- In `SortedKeys`, `field?` finds nothing below the first key. -/
theorem SortedKeys.field?_eq_none_of_lt {k key : String} {value : Json} {rest : Fields}
    (h : SortedKeys ((key, value) :: rest)) (hk : k < key) :
    field? k ((key, value) :: rest) = none := by
  rw [field?_eq_none]
  intro hmem
  obtain ⟨field, hfield, rfl⟩ := List.mem_map.mp hmem
  rcases List.mem_cons.mp hfield with rfl | hrest
  · exact lt_irrefl _ hk
  · exact lt_asymm hk ((List.pairwise_cons.mp h).1 field hrest)

/-- Lists of `SortedKeys` are determined by `field?`. -/
theorem sorted_ext {fs fs' : Fields} (h : SortedKeys fs) (h' : SortedKeys fs')
    (hfields : ∀ k, field? k fs = field? k fs') : fs = fs' := by
  induction fs generalizing fs' with
  | nil =>
    cases fs' with
    | nil => rfl
    | cons first rest => simpa [field?] using hfields first.1
  | cons first rest ih =>
    cases fs' with
    | nil => simpa [field?] using hfields first.1
    | cons first' rest' =>
      obtain ⟨k, v⟩ := first
      obtain ⟨k', v'⟩ := first'
      have hkey : k = k' := by
        rcases lt_trichotomy k k' with hlt | heq | hgt
        · have hk := hfields k
          rw [h'.field?_eq_none_of_lt hlt] at hk
          simp [field?] at hk
        · exact heq
        · have hk' := hfields k'
          rw [h.field?_eq_none_of_lt hgt] at hk'
          simp [field?] at hk'
      subst hkey
      have hvalue : v = v' := by simpa [field?] using hfields k
      have hrest : rest = rest' := by
        refine ih (List.pairwise_cons.mp h).2 (List.pairwise_cons.mp h').2 fun q => ?_
        by_cases hq : k = q
        · -- the first key is not met again on either side
          have hnone := (List.nodup_cons.mp h.nodup).1
          have hnone' := (List.nodup_cons.mp h'.nodup).1
          rw [← hq, field?_eq_none.mpr hnone, field?_eq_none.mpr hnone']
        · simpa [field?, hq] using hfields q
      rw [hvalue, hrest]

/-! ## Well-formed values -/

/-- Real numbers are within the bounds of `Magnitude.IsStored`. -/
def Number.IsStored : Number → Prop
  | .integer _ => True
  | .real x => x.magnitude.IsStored

/-- Objects have distinct keys, and every number `IsStored`. -/
inductive WellFormed : Json → Prop where
  | null : WellFormed .null
  | boolean (b : Bool) : WellFormed (.boolean b)
  | number {n : Number} (h : n.IsStored) : WellFormed (.number n)
  | text (s : String) : WellFormed (.text s)
  | list {xs : List Json} (h : ∀ x ∈ xs, WellFormed x) : WellFormed (.list xs)
  | object {fs : Fields} (hkeys : (fs.map Prod.fst).Nodup) (h : ∀ k v, (k, v) ∈ fs → WellFormed v) :
      WellFormed (.object fs)

theorem canonicalItems_eq_map : ∀ xs, canonicalItems xs = xs.map canonical
  | [] => rfl
  | x :: xs => by rw [canonicalItems, canonicalItems_eq_map xs, List.map_cons]

theorem canonicalFields_eq_map :
    ∀ fs, canonicalFields fs = fs.map fun field => (field.1, canonical field.2)
  | [] => rfl
  | (k, v) :: rest => by rw [canonicalFields, canonicalFields_eq_map rest, List.map_cons]

theorem keys_canonicalFields (fs : Fields) :
    (canonicalFields fs).map Prod.fst = fs.map Prod.fst := by
  rw [canonicalFields_eq_map, List.map_map]
  rfl

theorem field?_canonicalFields (k : String) :
    ∀ fs, field? k (canonicalFields fs) = (field? k fs).map canonical
  | [] => rfl
  | (k', v) :: rest => by
    rw [canonicalFields, field?, field?, field?_canonicalFields k rest]
    split <;> rfl

/-- Looking up a key commutes with `canonical`. -/
theorem field?_canonical (k : String) {fs : Fields} (hkeys : (fs.map Prod.fst).Nodup) :
    field? k (ofEntries (canonicalFields fs)) = (field? k fs).map canonical := by
  rw [field?_ofEntries k (by rwa [keys_canonicalFields]), field?_canonicalFields]

theorem WellFormed.canonical {j : Json} (h : WellFormed j) : WellFormed j.canonical := by
  induction h with
  | null => exact .null
  | boolean b => exact .boolean b
  | number h => exact .number h
  | text s => exact .text s
  | list _ ih =>
    rw [Json.canonical, canonicalItems_eq_map]
    refine .list fun x hx => ?_
    obtain ⟨y, hy, rfl⟩ := List.mem_map.mp hx
    exact ih y hy
  | object _ _ ih =>
    rw [Json.canonical, canonicalFields_eq_map]
    refine .object (sortedKeys_ofEntries _).nodup fun k v hmem => ?_
    obtain ⟨⟨k', v'⟩, hfield, heq⟩ := List.mem_map.mp (mem_ofEntries hmem)
    cases heq
    exact ih k' v' hfield

/-! ## The same value up to the order of keys -/

/-- Equality up to the order of keys, at every depth. -/
inductive Same : Json → Json → Prop where
  | null : Same .null .null
  | boolean (b : Bool) : Same (.boolean b) (.boolean b)
  | number (n : Number) : Same (.number n) (.number n)
  | text (s : String) : Same (.text s) (.text s)
  | list {xs ys : List Json} (hlength : xs.length = ys.length)
      (hitems : ∀ (i : ℕ) x y, xs[i]? = some x → ys[i]? = some y → Same x y) :
      Same (.list xs) (.list ys)
  | object {fs fs' : Fields} (hkeys : ∀ k, (field? k fs).isSome = (field? k fs').isSome)
      (hvalues : ∀ k v v', field? k fs = some v → field? k fs' = some v' → Same v v') :
      Same (.object fs) (.object fs')

/-- Objects have one `canonical` form just if each `field?` has. -/
theorem canonical_object_eq_iff {fs fs' : Fields} (hkeys : (fs.map Prod.fst).Nodup)
    (hkeys' : (fs'.map Prod.fst).Nodup) :
    canonical (.object fs) = canonical (.object fs') ↔
      ∀ k, (field? k fs).map canonical = (field? k fs').map canonical := by
  rw [canonical, canonical, object.injEq]
  constructor
  · intro h k
    rw [← field?_canonical k hkeys, ← field?_canonical k hkeys', h]
  · intro h
    refine sorted_ext (sortedKeys_ofEntries _) (sortedKeys_ofEntries _) fun k => ?_
    rw [field?_canonical k hkeys, field?_canonical k hkeys', h k]

theorem canonical_list_eq_iff {xs ys : List Json} :
    canonical (.list xs) = canonical (.list ys) ↔
      ∀ i : ℕ, xs[i]?.map canonical = ys[i]?.map canonical := by
  rw [canonical, canonical, list.injEq, canonicalItems_eq_map, canonicalItems_eq_map]
  constructor
  · intro h i
    rw [← List.getElem?_map, ← List.getElem?_map, h]
  · intro h
    refine List.ext_getElem? fun i => ?_
    rw [List.getElem?_map, List.getElem?_map, h i]

theorem canonical_eq_of_same {j j' : Json} (h : Same j j') (hj : WellFormed j)
    (hj' : WellFormed j') :
    canonical j = canonical j' := by
  induction h with
  | null => rfl
  | boolean b => rfl
  | number n => rfl
  | text s => rfl
  | @list xs ys hlength _ ih =>
    cases hj with
    | list hxs =>
      cases hj' with
      | list hys =>
        refine canonical_list_eq_iff.mpr fun i => ?_
        cases hx : xs[i]? with
        | none =>
          have hy : ys[i]? = none := by
            rw [List.getElem?_eq_none_iff] at hx ⊢
            omega
          rw [hy]
        | some x =>
          obtain ⟨hi, -⟩ := List.getElem?_eq_some_iff.mp hx
          obtain ⟨y, hy⟩ : ∃ y, ys[i]? = some y := ⟨_, List.getElem?_eq_getElem (hlength ▸ hi)⟩
          rw [hy, Option.map_some, Option.map_some]
          exact congrArg some (ih i x y hx hy (hxs x (List.mem_of_getElem? hx))
            (hys y (List.mem_of_getElem? hy)))
  | @object fs fs' hsome _ ih =>
    cases hj with
    | object hkeys hfs =>
      cases hj' with
      | object hkeys' hfs' =>
        refine (canonical_object_eq_iff hkeys hkeys').mpr fun k => ?_
        have hk := hsome k
        cases hv : field? k fs with
        | none =>
          rw [hv, Option.isSome_none, eq_comm, Option.isSome_eq_false_iff,
            Option.isNone_iff_eq_none] at hk
          rw [hk]
        | some v =>
          rw [hv, Option.isSome_some, eq_comm, Option.isSome_iff_exists] at hk
          obtain ⟨v', hv'⟩ := hk
          rw [hv', Option.map_some, Option.map_some]
          exact congrArg some (ih k v v' hv hv' (hfs k v (mem_of_field? hv))
            (hfs' k v' (mem_of_field? hv')))

theorem same_of_canonical_eq {j j' : Json} (hj : WellFormed j) (hj' : WellFormed j')
    (h : canonical j = canonical j') : Same j j' := by
  induction hj generalizing j' with
  | null =>
    cases hj' <;> simp [canonical] at h
    exact .null
  | boolean b =>
    cases hj' <;> simp [canonical] at h
    exact h ▸ .boolean b
  | number _ =>
    cases hj' <;> simp [canonical] at h
    exact h ▸ .number _
  | text s =>
    cases hj' <;> simp [canonical] at h
    exact h ▸ .text s
  | @list xs _ ih =>
    cases hj' with
    | @list ys hys =>
      have hitems := canonical_list_eq_iff.mp h
      refine .list ?_ fun i x y hx hy => ?_
      · rw [canonical, canonical, list.injEq, canonicalItems_eq_map, canonicalItems_eq_map] at h
        simpa using congrArg List.length h
      · have hi := hitems i
        rw [hx, hy, Option.map_some, Option.map_some, Option.some.injEq] at hi
        exact ih x (List.mem_of_getElem? hx) (hys y (List.mem_of_getElem? hy)) hi
    | _ => simp [canonical] at h
  | @object fs hkeys _ ih =>
    cases hj' with
    | @object fs' hkeys' hfs' =>
      have hfields := (canonical_object_eq_iff hkeys hkeys').mp h
      refine .object (fun k => ?_) fun k v v' hv hv' => ?_
      · rw [← Option.isSome_map (f := canonical), hfields k, Option.isSome_map]
      · have hk := hfields k
        rw [hv, hv', Option.map_some, Option.map_some, Option.some.injEq] at hk
        exact ih k v (mem_of_field? hv) (hfs' k v' (mem_of_field? hv')) hk
    | _ => simp [canonical] at h

/-- On `WellFormed` values, `canonical` decides `Same`. -/
theorem canonical_eq_iff {j j' : Json} (hj : WellFormed j) (hj' : WellFormed j') :
    canonical j = canonical j' ↔ Same j j' :=
  ⟨same_of_canonical_eq hj hj', fun h => canonical_eq_of_same h hj hj'⟩

theorem Same.refl {j : Json} (hj : WellFormed j) : Same j j := (canonical_eq_iff hj hj).mp rfl

/-- Permuted fields are the `Same`. -/
theorem same_of_perm {fs fs' : Fields} (hfs : WellFormed (.object fs)) (h : fs.Perm fs') :
    Same (.object fs) (.object fs') := by
  cases hfs with
  | object hkeys hvalues =>
    have hkeys' : (fs'.map Prod.fst).Nodup := (h.map Prod.fst).nodup_iff.mp hkeys
    have hfields : ∀ k, field? k fs = field? k fs' := by
      intro k
      cases hv : field? k fs with
      | none =>
        rw [field?_eq_none, (h.map Prod.fst).mem_iff, ← field?_eq_none] at hv
        exact hv.symm
      | some v => exact (field?_of_mem hkeys' (h.mem_iff.mp (mem_of_field? hv))).symm
    refine .object (fun k => by rw [hfields k]) fun k v v' hv hv' => ?_
    rw [← hfields k, hv, Option.some.injEq] at hv'
    exact hv' ▸ .refl (hvalues k v (mem_of_field? hv))

end ToolGate.Json

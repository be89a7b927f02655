/-
What looking things up in a table gives after the table was changed.

* `get?_put`, `get?_erase` — the value under any key after a change.
* `mem_keys` — the keys are those under which there is a value.
* `HasUniqueKeys` — no key has two entries. Both changes keep that, and in such a table the values
  are exactly those that can be looked up (`mem_values`).

The lemmas about tables are read off lemmas of the same shape about lists of entries, where the
inductions are.
-/
import Mathlib
import ToolGate.Approval.Table

namespace ToolGate.Approval.Table

variable {κ ν : Type} [DecidableEq κ]

/-! ## Lists of entries -/

theorem find_putIn (key key' : κ) (value : ν) (entries : List (κ × ν)) :
    find key' (putIn key value entries) = if key = key' then some value else find key' entries := by
  induction entries with
  | nil => simp [putIn, find]
  | cons e rest ih =>
    obtain ⟨k, v⟩ := e
    by_cases hk : k = key
    · subst hk
      by_cases h : k = key' <;> simp [putIn, find, h]
    · simp only [putIn, hk, if_false, find, ih]
      by_cases hk' : k = key'
      · subst hk'
        simp [Ne.symm hk]
      · simp [hk']

theorem find_filter_ne (key key' : κ) (entries : List (κ × ν)) :
    find key' (entries.filter fun e => e.1 ≠ key) =
      if key = key' then none else find key' entries := by
  induction entries with
  | nil => simp [find]
  | cons e rest ih =>
    obtain ⟨k, v⟩ := e
    by_cases hk : k = key
    · subst hk
      by_cases h : k = key'
      · simpa [List.filter_cons, h] using ih
      · simpa [List.filter_cons, find, h] using ih
    · by_cases hk' : k = key'
      · subst hk'
        simp [find, hk, Ne.symm hk]
      · simpa [List.filter_cons, find, hk, hk'] using ih

theorem mem_of_find {key : κ} {value : ν} :
    ∀ {entries : List (κ × ν)}, find key entries = some value → (key, value) ∈ entries
  | [], h => by simp [find] at h
  | (k, v) :: rest, h => by
    by_cases hk : k = key
    · simp only [find, hk, if_true, Option.some.injEq] at h
      simp [hk, h]
    · simp only [find, hk, if_false] at h
      exact List.mem_cons_of_mem _ (mem_of_find h)

theorem find_of_mem {key : κ} {value : ν} :
    ∀ {entries : List (κ × ν)}, (entries.map (·.1)).Nodup → (key, value) ∈ entries →
      find key entries = some value
  | (k, v) :: rest, hn, h => by
    simp only [List.map_cons, List.nodup_cons] at hn
    rcases List.mem_cons.mp h with heq | htail
    · obtain ⟨rfl, rfl⟩ := Prod.mk.injEq .. ▸ heq
      simp [find]
    · have hk : ¬ k = key := by
        rintro rfl
        exact hn.1 (List.mem_map.mpr ⟨_, htail, rfl⟩)
      simpa [find, hk] using find_of_mem hn.2 htail

theorem find_eq_none {key : κ} {entries : List (κ × ν)} :
    find key entries = none ↔ key ∉ entries.map (·.1) := by
  induction entries with
  | nil => simp [find]
  | cons e rest ih =>
    obtain ⟨k, v⟩ := e
    by_cases hk : k = key
    · simp [find, hk]
    · simp only [find, hk, if_false, ih, List.map_cons, List.mem_cons, Ne.symm hk, false_or]

theorem keys_putIn (key : κ) (value : ν) (entries : List (κ × ν)) :
    (putIn key value entries).map (·.1) =
      if key ∈ entries.map (·.1) then entries.map (·.1) else entries.map (·.1) ++ [key] := by
  induction entries with
  | nil => simp [putIn]
  | cons e rest ih =>
    obtain ⟨k, v⟩ := e
    by_cases hk : k = key
    · simp [putIn, hk]
    · have hk' : ¬ key = k := fun h => hk h.symm
      by_cases hmem : key ∈ rest.map (·.1)
      · simp only [putIn, hk, if_false, List.map_cons, ih, List.mem_cons, hmem, or_true, if_true]
      · simp only [putIn, hk, if_false, List.map_cons, ih, List.mem_cons, hmem, hk', or_self,
          List.cons_append]

/-! ## Tables -/

@[simp] theorem get?_empty (key : κ) : (empty : Table κ ν).get? key = none := rfl

theorem get?_put (t : Table κ ν) (key key' : κ) (value : ν) :
    (t.put key value).get? key' = if key = key' then some value else t.get? key' :=
  find_putIn key key' value t.entries

theorem get?_erase (t : Table κ ν) (key key' : κ) :
    (t.erase key).get? key' = if key = key' then none else t.get? key' :=
  find_filter_ne key key' t.entries

theorem mem_keys {t : Table κ ν} {key : κ} : key ∈ t.keys ↔ t.get? key ≠ none := by
  unfold get? keys
  rw [ne_eq, find_eq_none, not_not]

/-- No key has two entries in `keys`. -/
def HasUniqueKeys (t : Table κ ν) : Prop := t.keys.Nodup

omit [DecidableEq κ] in
theorem hasUniqueKeys_empty : (empty : Table κ ν).HasUniqueKeys := List.nodup_nil

theorem HasUniqueKeys.put {t : Table κ ν} (h : t.HasUniqueKeys) (key : κ) (value : ν) :
    (t.put key value).HasUniqueKeys := by
  unfold HasUniqueKeys keys Table.put
  rw [keys_putIn]
  split
  · exact h
  · rename_i hnew
    exact List.Nodup.append h (List.nodup_singleton key) (by simpa using hnew)

theorem HasUniqueKeys.erase {t : Table κ ν} (h : t.HasUniqueKeys) (key : κ) :
    (t.erase key).HasUniqueKeys :=
  h.sublist (List.filter_sublist.map _)

/-- In a table with `HasUniqueKeys`, `values` are exactly what `get?` finds. -/
theorem mem_values {t : Table κ ν} (h : t.HasUniqueKeys) {value : ν} :
    value ∈ t.values ↔ ∃ key, t.get? key = some value := by
  constructor
  · intro hmem
    obtain ⟨⟨key, v⟩, he, rfl⟩ := List.mem_map.mp hmem
    exact ⟨key, find_of_mem h he⟩
  · rintro ⟨key, hget⟩
    exact List.mem_map.mpr ⟨_, mem_of_find hget, rfl⟩

end ToolGate.Approval.Table

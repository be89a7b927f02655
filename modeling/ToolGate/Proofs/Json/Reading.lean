/-
What a text is read as is well-formed.

* `isStored_of_scanNumber` — a numeral is read as an integer or as a number of the format.
* `wellFormed_of_readValue` — a value is read with distinct keys in every object and with such
  numbers only, whatever the text repeats.
-/
import Mathlib
import ToolGate.Json.Reader
import ToolGate.Proofs.Json.Sameness

namespace ToolGate.Json

variable {n : Number} {cs rest : List Char}

/-- Inversion of `Except.map`. -/
theorem exists_of_map_eq_ok {ε α β : Type} {o : Except ε α} {f : α → β} {b : β}
    (h : o.map f = .ok b) :
    ∃ a, o = .ok a ∧ f a = b := by
  cases o with
  | error e => cases h
  | ok a =>
    cases h
    exact ⟨a, rfl, rfl⟩

/-- Inversion of `Except.map` on the first component of an `Outcome`. -/
theorem exists_of_map_ok {α β : Type} {o : Outcome α} {f : α → β} {b : β}
    (h : (o.map fun (a, cs) => (f a, cs)) = .ok (b, rest)) : ∃ a, o = .ok (a, rest) ∧ f a = b := by
  obtain ⟨⟨a, cs⟩, ho, heq⟩ := exists_of_map_eq_ok h
  cases heq
  exact ⟨a, ho, rfl⟩

/-! ## Numbers -/

theorem isStored_of_realNumber {negative : Bool} {significand : ℕ} {exponent : ℤ}
    (h : realNumber negative significand exponent cs = .ok (n, rest)) : n.IsStored := by
  unfold realNumber at h
  split at h
  · rename_i x hx
    cases h
    exact Decimal.Binary64.isStored_of_ofDecimal hx
  · cases h

theorem isStored_of_scanExponent {negative : Bool} {significand : ℕ} {exponent : ℤ}
    (h : scanExponent negative significand exponent cs = .ok (n, rest)) : n.IsStored := by
  unfold scanExponent at h
  split at h
  split at h
  · cases h
  split at h
  · cases h
  split at h
  · exact isStored_of_realNumber h
  split at h
  · cases h
  · exact isStored_of_realNumber h

theorem isStored_of_scanFraction {negative : Bool} {significand : ℕ} {exponent : ℤ}
    (h : scanFraction negative significand exponent cs = .ok (n, rest)) : n.IsStored := by
  unfold scanFraction at h
  simp only at h
  split at h
  · cases h
  · cases h
  split at h
  · exact isStored_of_realNumber h
  split at h
  · exact isStored_of_scanExponent h
  · exact isStored_of_realNumber h

theorem isStored_of_wholeNumber {negative : Bool} {value : ℕ}
    (h : wholeNumber negative value cs = .ok (n, rest)) : n.IsStored := by
  unfold wholeNumber at h
  split at h
  · cases h
    trivial
  · split at h
    · cases h
      trivial
    · exact isStored_of_realNumber h

/-- Whatever `scanNumber` reads, `IsStored`. -/
theorem isStored_of_scanNumber {negative : Bool} (h : scanNumber negative cs = .ok (n, rest)) :
    n.IsStored := by
  unfold scanNumber at h
  split at h
  · cases h
  split at h
  · cases h
  split at h
  · cases h
  simp only at h
  split at h
  · -- the numeral goes on with a fraction or an exponent
    rename_i hcontinued
    split at hcontinued
    · cases hcontinued
    · cases hcontinued
      exact isStored_of_scanFraction h
    · split at hcontinued
      · cases hcontinued
        exact isStored_of_scanExponent h
      · cases hcontinued
  · exact isStored_of_wholeNumber h
  · exact isStored_of_realNumber h

/-! ## Values -/

theorem wellFormed_ofEntries {es : Fields} (h : ∀ k v, (k, v) ∈ es → WellFormed v) :
    WellFormed (.object (ofEntries es)) :=
  .object (sortedKeys_ofEntries es).nodup fun k v hmem => h k v (mem_ofEntries hmem)

mutual

/-- Whatever `readValue` reads is `WellFormed`. -/
theorem wellFormed_of_readValue {j : Json} : ∀ {fuel depth : ℕ} {cs rest : List Char},
    readValue fuel depth cs = .ok (j, rest) → WellFormed j
  | 0, _, _, _, h => by cases h
  | fuel + 1, depth, cs, rest, h => by
    unfold readValue at h
    split at h
    · cases h
    split at h
    · obtain ⟨-, -, rfl⟩ := exists_of_map_ok (f := fun _ => Json.null) h
      exact .null
    split at h
    · obtain ⟨-, -, rfl⟩ := exists_of_map_ok (f := fun _ => Json.boolean true) h
      exact .boolean true
    split at h
    · obtain ⟨-, -, rfl⟩ := exists_of_map_ok (f := fun _ => Json.boolean false) h
      exact .boolean false
    split at h
    · obtain ⟨n, hn, rfl⟩ := exists_of_map_ok h
      exact .number (isStored_of_scanNumber hn)
    split at h
    · obtain ⟨n, hn, rfl⟩ := exists_of_map_ok h
      exact .number (isStored_of_scanNumber hn)
    split at h
    · obtain ⟨s, -, rfl⟩ := exists_of_map_ok h
      exact .text s
    split at h
    · split at h
      · cases h
      · obtain ⟨xs, hxs, rfl⟩ := exists_of_map_ok h
        exact .list (wellFormed_of_readItems hxs)
    split at h
    · split at h
      · cases h
      · obtain ⟨es, hes, rfl⟩ := exists_of_map_ok (f := fun es => Json.object (ofEntries es)) h
        exact wellFormed_ofEntries (wellFormed_of_readEntries hes)
    · cases h

theorem wellFormed_of_readItems {xs : List Json} : ∀ {fuel depth : ℕ} {first : Bool}
    {cs rest : List Char}, readItems fuel depth first cs = .ok (xs, rest) → ∀ x ∈ xs, WellFormed x
  | 0, _, _, _, _, h => by cases h
  | fuel + 1, depth, first, cs, rest, h => by
    unfold readItems at h
    split at h
    · cases h
    · cases h
      simp
    · split at h
      · cases h
      · rename_i x cs' hx
        obtain ⟨xs', hxs, rfl⟩ := exists_of_map_ok h
        intro y hy
        rcases List.mem_cons.mp hy with rfl | hmem
        · exact wellFormed_of_readValue hx
        · exact wellFormed_of_readItems hxs y hmem

theorem wellFormed_of_readEntries {es : Fields} : ∀ {fuel depth : ℕ} {first : Bool}
    {cs rest : List Char}, readEntries fuel depth first cs = .ok (es, rest) →
      ∀ k v, (k, v) ∈ es → WellFormed v
  | 0, _, _, _, _, h => by cases h
  | fuel + 1, depth, first, cs, rest, h => by
    unfold readEntries at h
    split at h
    · cases h
    · cases h
      simp
    split at h
    · cases h
    split at h
    · cases h
    · rename_i v' cs' hv
      obtain ⟨es', hes, rfl⟩ := exists_of_map_ok h
      intro k v hmem
      rcases List.mem_cons.mp hmem with heq | hmem
      · cases heq
        exact wellFormed_of_readValue hv
      · exact wellFormed_of_readEntries hes k v hmem

end

end ToolGate.Json

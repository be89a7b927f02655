/-
An id is read back from its written form, in any letter case.

* `InAnyCase` — letters that are a given lower-case text but for their case.
* `scanDigits_hexDigits`, `scanGroups_hyphenate` — digits, and groups of them, are read back.
* `scan_toChars` — so is an id, whatever follows it.
* `InGroups` — digits in groups with hyphens between them; `InGroups.existsUnique_id`: such
  characters are one id, and `exists_of_scan`: nothing else is read as one.
* `EndsInBlank`, `scan_append` — in front of a blank, an id is read or not, whatever follows the
  blank.
-/
import Mathlib
import ToolGate.Action
import ToolGate.RequestId

namespace ToolGate

/-! ## Letters in any case -/

/-- The characters are those of `word`, but for the case of letters. -/
def InAnyCase (word cs : List Char) : Prop := cs.map Action.lowerAscii = word

theorem lowerAscii_eq (c : Char) :
    Action.lowerAscii c = c ∨
      65 ≤ c.toNat ∧ c.toNat ≤ 90 ∧ (Action.lowerAscii c).toNat = c.toNat + 32 := by
  unfold Action.lowerAscii
  split
  · rename_i h
    have hlow : 65 ≤ c.toNat := h.1
    have hhigh : c.toNat ≤ 90 := h.2
    refine .inr ⟨hlow, hhigh, ?_⟩
    rw [Char.toNat_ofNat, if_pos]
    exact .inl (by omega)
  · exact .inl rfl

/-- The value of a hexadecimal digit, by its code. -/
theorem hexValue?_eq (c : Char) :
    Json.hexValue? c =
      if 48 ≤ c.toNat ∧ c.toNat ≤ 57 then some (c.toNat - 48)
      else if 97 ≤ c.toNat ∧ c.toNat ≤ 102 then some (c.toNat - 97 + 10)
      else if 65 ≤ c.toNat ∧ c.toNat ≤ 70 then some (c.toNat - 65 + 10)
      else none := rfl

theorem hexValue?_lowerAscii (c : Char) :
    Json.hexValue? (Action.lowerAscii c) = Json.hexValue? c := by
  rcases lowerAscii_eq c with heq | ⟨hlow, hhigh, heq⟩
  · rw [heq]
  · rw [hexValue?_eq, hexValue?_eq, heq]
    split_ifs <;> first | rfl | omega

theorem lowerAscii_eq_of_not_letter {c d : Char} (hd : d.toNat < 97) (h : Action.lowerAscii c = d) :
    c = d := by
  rcases lowerAscii_eq c with heq | ⟨hlow, -, heq⟩
  · exact heq.symm.trans h
  · rw [h] at heq
    omega

namespace RequestId

/-! ## Reading digits -/

theorem length_hexDigits (count n : ℕ) : (hexDigits count n).length = count := by
  induction count generalizing n with
  | zero => rfl
  | succ count ih => simp [hexDigits, ih]

theorem hexDigits_add (a b n : ℕ) :
    hexDigits (a + b) n = hexDigits a (n / 16 ^ b) ++ hexDigits b n := by
  induction b generalizing n with
  | zero => simp [hexDigits]
  | succ b ih =>
    rw [← Nat.add_assoc, hexDigits, ih, hexDigits, List.append_assoc, Nat.div_div_eq_div_mul,
      ← pow_succ']

theorem hexDigits_mul_add (b high low : ℕ) :
    hexDigits b (high * 16 ^ b + low) = hexDigits b low := by
  induction b generalizing low with
  | zero => rfl
  | succ b ih =>
    have hdiv : (high * 16 ^ (b + 1) + low) / 16 = high * 16 ^ b + low / 16 := by
      rw [pow_succ, ← Nat.mul_assoc]
      omega
    have hmod : (high * 16 ^ (b + 1) + low) % 16 = low % 16 := by
      rw [pow_succ, ← Nat.mul_assoc]
      omega
    rw [hexDigits, hexDigits, hdiv, hmod, ih]

theorem hyphenate_cons {counts : List ℕ} (h : counts ≠ []) (count : ℕ) (ds : List Char) :
    hyphenate (count :: counts) ds = ds.take count ++ '-' :: hyphenate counts (ds.drop count) := by
  cases counts with
  | nil => exact absurd rfl h
  | cons next counts => rfl

theorem scanDigits_add {a b n m : ℕ} {cs ds : List Char} (h : scanDigits a n cs = some (m, ds)) :
    scanDigits (a + b) n cs = scanDigits b m ds := by
  induction a generalizing n cs with
  | zero =>
    cases h
    rw [Nat.zero_add]
  | succ a ih =>
    rw [Nat.add_right_comm]
    cases cs with
    | nil => simp [scanDigits] at h
    | cons c cs =>
      simp only [scanDigits] at h ⊢
      cases hc : Json.hexValue? c with
      | none => simp [hc] at h
      | some d =>
        rw [hc] at h
        exact ih h

/-- The digits of `n` are read back behind those of `before`, in any case. -/
theorem scanDigits_hexDigits {count n : ℕ} {cs : List Char} (h : InAnyCase (hexDigits count n) cs)
    (before : ℕ) (rest : List Char) :
    scanDigits count before (cs ++ rest) = some (before * 16 ^ count + n % 16 ^ count, rest) := by
  have hdigit : ∀ k < 16, Json.hexValue? (Nat.digitChar k) = some k := by decide
  induction count generalizing n cs rest with
  | zero =>
    obtain rfl : cs = [] := List.map_eq_nil_iff.mp h
    simp [scanDigits, Nat.mod_one]
  | succ count ih =>
    -- the last digit is the lowest one
    obtain ⟨high, low, rfl, hhigh, hlow⟩ := List.map_eq_append_iff.mp h
    obtain ⟨c, rfl, hc⟩ := List.map_eq_singleton_iff.mp hlow
    have hvalue : Json.hexValue? c = some (n % 16) := by
      rw [← hexValue?_lowerAscii, hc, hdigit _ (Nat.mod_lt _ (by decide))]
    have hread := scanDigits_add (b := 1) (ih hhigh ([c] ++ rest))
    rw [List.append_assoc, hread]
    simp only [List.cons_append, List.nil_append, scanDigits, hvalue, Option.some.injEq,
      Prod.mk.injEq, and_true]
    rw [pow_succ', Nat.mod_mul]
    ring

/-- Hyphenated digits are read back, in any case. -/
theorem scanGroups_hyphenate {groups : List ℕ} (hgroups : groups ≠ []) {n : ℕ} {cs : List Char}
    (h : InAnyCase (hyphenate groups (hexDigits groups.sum n)) cs) (before : ℕ) (rest : List Char) :
    scanGroups groups before (cs ++ rest) =
      some (before * 16 ^ groups.sum + n % 16 ^ groups.sum, rest) := by
  induction groups generalizing cs before with
  | nil => exact absurd rfl hgroups
  | cons count counts ih =>
    cases counts with
    | nil =>
      rw [List.sum_singleton] at h ⊢
      have htake : (hexDigits count n).take count = hexDigits count n :=
        List.take_of_length_le (length_hexDigits count n).le
      rw [hyphenate, htake] at h
      exact scanDigits_hexDigits h before rest
    | cons next counts =>
      rw [List.sum_cons] at h ⊢
      generalize htotal : (next :: counts).sum = total at h ih
      have htake : (hexDigits (count + total) n).take count = hexDigits count (n / 16 ^ total) := by
        rw [hexDigits_add, List.take_left' (length_hexDigits _ _)]
      have hdrop : (hexDigits (count + total) n).drop count = hexDigits total n := by
        rw [hexDigits_add, List.drop_left' (length_hexDigits _ _)]
      simp only [hyphenate, htake, hdrop] at h
      obtain ⟨first, others, rfl, hfirst, hothers⟩ := List.map_eq_append_iff.mp h
      obtain ⟨c, digits, rfl, hc, hdigits⟩ := List.map_eq_cons_iff.mp hothers
      obtain rfl : c = '-' := lowerAscii_eq_of_not_letter (by decide) hc
      have hread := scanDigits_hexDigits hfirst before ('-' :: (digits ++ rest))
      simp only [List.append_assoc, List.cons_append, scanGroups, hread, ih (by simp) hdigits,
        Option.some.injEq, Prod.mk.injEq, and_true]
      rw [pow_add, Nat.mul_comm (16 ^ count), Nat.mod_mul]
      ring

/-- An id in any letter case is read back by `scan`, whatever follows it. -/
theorem scan_toChars {id : RequestId} {cs : List Char} (h : InAnyCase id.toChars cs)
    (rest : List Char) : scan (cs ++ rest) = some (id, rest) := by
  have hgroups : groups ≠ [] := by decide
  have hread := scanGroups_hyphenate hgroups h 0 rest
  have hlt : id.bits.toNat < 16 ^ groups.sum := id.bits.isLt
  rw [zero_mul, zero_add, Nat.mod_eq_of_lt hlt] at hread
  rw [scan, hread]
  simp [ofNat]

/-! ## What is read -/

/-- What `Json.hexValue?` reads is a digit's value, and its digit is that one in lower case. -/
theorem digitChar_of_hexValue? {c : Char} {d : ℕ} (h : Json.hexValue? c = some d) :
    d < 16 ∧ Nat.digitChar d = Action.lowerAscii c := by
  have hall : ∀ n < 103, ∀ d ∈ Json.hexValue? (Char.ofNat n),
      d < 16 ∧ Nat.digitChar d = Action.lowerAscii (Char.ofNat n) := by decide +kernel
  have hcode : c.toNat < 103 := by
    rw [hexValue?_eq] at h
    split_ifs at h <;> omega
  have hc := hall c.toNat hcode
  rw [Char.ofNat_toNat] at hc
  exact hc d h

/-- So many hexadecimal digits, of either case. -/
structure IsHex (count : ℕ) (cs : List Char) : Prop where
  length : cs.length = count
  digit : ∀ c ∈ cs, Json.hexValue? c ≠ none

/-- Hexadecimal digits in `groups` of given lengths, with hyphens between them. -/
inductive InGroups : List ℕ → List Char → Prop where
  | last {count : ℕ} {ds : List Char} (h : IsHex count ds) : InGroups [count] ds
  | more {count : ℕ} {counts : List ℕ} {ds cs : List Char} (h : IsHex count ds)
      (hmore : InGroups counts cs) : InGroups (count :: counts) (ds ++ '-' :: cs)

theorem exists_of_scanDigits {count n m : ℕ} {cs rest : List Char}
    (h : scanDigits count n cs = some (m, rest)) : ∃ ds, cs = ds ++ rest ∧ IsHex count ds := by
  induction count generalizing n cs with
  | zero =>
    cases h
    exact ⟨[], rfl, rfl, by simp⟩
  | succ count ih =>
    cases cs with
    | nil => simp [scanDigits] at h
    | cons c cs =>
      simp only [scanDigits] at h
      cases hc : Json.hexValue? c with
      | none => simp [hc] at h
      | some d =>
        rw [hc] at h
        obtain ⟨ds, rfl, hds⟩ := ih h
        refine ⟨c :: ds, rfl, congrArg (· + 1) hds.length, ?_⟩
        rw [List.forall_mem_cons]
        exact ⟨by simp [hc], hds.digit⟩

theorem exists_of_scanGroups {groups : List ℕ} (hgroups : groups ≠ []) {n m : ℕ}
    {cs rest : List Char} (h : scanGroups groups n cs = some (m, rest)) :
    ∃ ds, cs = ds ++ rest ∧ InGroups groups ds := by
  induction groups generalizing n cs with
  | nil => exact absurd rfl hgroups
  | cons count counts ih =>
    cases counts with
    | nil =>
      obtain ⟨ds, rfl, hds⟩ := exists_of_scanDigits h
      exact ⟨ds, rfl, .last hds⟩
    | cons next counts =>
      simp only [scanGroups] at h
      split at h
      · rename_i k tail hread
        obtain ⟨ds, rfl, hds⟩ := exists_of_scanDigits hread
        obtain ⟨more, rfl, hmore⟩ := ih (by simp) h
        exact ⟨ds ++ '-' :: more, by simp, .more hds hmore⟩
      · simp at h

/-- Digits are the `hexDigits` of a number. -/
theorem IsHex.exists_hexDigits {count : ℕ} {ds : List Char} (h : IsHex count ds) :
    ∃ n < 16 ^ count, InAnyCase (hexDigits count n) ds := by
  obtain ⟨rfl, hdigit⟩ := h
  induction ds using List.reverseRecOn with
  | nil => exact ⟨0, by simp, rfl⟩
  | append_singleton ds c ih =>
    -- the last digit is the lowest one
    obtain ⟨n, hn, hds⟩ := ih fun d hd => hdigit d (List.mem_append_left _ hd)
    obtain ⟨d, hd⟩ := Option.ne_none_iff_exists'.mp (hdigit c (by simp))
    obtain ⟨hlt, hchar⟩ := digitChar_of_hexValue? hd
    have hdiv : (n * 16 + d) / 16 = n := by omega
    have hmod : (n * 16 + d) % 16 = d := by omega
    refine ⟨n * 16 + d, ?_, ?_⟩
    · rw [List.length_append, List.length_singleton, pow_succ]
      omega
    · rw [List.length_append, List.length_singleton, hexDigits, hdiv, hmod, hchar, InAnyCase,
        List.map_append, hds]
      rfl

/-- Digits in groups are the hyphenated ones of a number. -/
theorem InGroups.exists_hyphenate {groups : List ℕ} {cs : List Char} (h : InGroups groups cs) :
    ∃ n < 16 ^ groups.sum, InAnyCase (hyphenate groups (hexDigits groups.sum n)) cs := by
  induction h with
  | @last count ds hds =>
    obtain ⟨n, hn, hdigits⟩ := hds.exists_hexDigits
    refine ⟨n, by simpa using hn, ?_⟩
    rwa [List.sum_singleton, hyphenate, List.take_of_length_le (length_hexDigits count n).le]
  | @more count counts ds cs hds hmore ih =>
    obtain ⟨high, hhigh, hdigits⟩ := hds.exists_hexDigits
    obtain ⟨low, hlow, hothers⟩ := ih
    have hdiv : (high * 16 ^ counts.sum + low) / 16 ^ counts.sum = high := by
      rw [Nat.mul_comm, Nat.mul_add_div (by positivity), Nat.div_eq_of_lt hlow, Nat.add_zero]
    have hsplit : hexDigits (count :: counts).sum (high * 16 ^ counts.sum + low) =
        hexDigits count high ++ hexDigits counts.sum low := by
      rw [List.sum_cons, hexDigits_add, hdiv, hexDigits_mul_add]
    refine ⟨high * 16 ^ counts.sum + low, ?_, ?_⟩
    · rw [List.sum_cons, pow_add]
      calc high * 16 ^ counts.sum + low < (high + 1) * 16 ^ counts.sum := by
            rw [Nat.add_mul, Nat.one_mul]
            omega
        _ ≤ 16 ^ count * 16 ^ counts.sum := Nat.mul_le_mul_right _ hhigh
    · have hne : counts ≠ [] := by
        rintro rfl
        cases hmore
      rw [hsplit, hyphenate_cons hne, List.take_left' (length_hexDigits _ _),
        List.drop_left' (length_hexDigits _ _), InAnyCase, List.map_append, List.map_cons, hdigits,
        hothers]
      rfl

/-- Digits in the `groups` of an id are one id. -/
theorem InGroups.existsUnique_id {cs : List Char} (h : InGroups groups cs) :
    ∃! id : RequestId, InAnyCase id.toChars cs := by
  obtain ⟨n, hn, hcs⟩ := h.exists_hyphenate
  have hlt : n < 2 ^ 128 := hn
  have hbits : (ofNat n).bits.toNat = n := (BitVec.toNat_ofNat n 128).trans (Nat.mod_eq_of_lt hlt)
  have hid : InAnyCase (ofNat n).toChars cs := by
    rw [toChars, hbits]
    exact hcs
  refine ⟨ofNat n, hid, fun other hother => ?_⟩
  have hread := scan_toChars hother []
  rw [scan_toChars hid] at hread
  cases hread
  rfl

/-- What `scan` reads are digits in `groups`, and the id is theirs. -/
theorem exists_of_scan {cs rest : List Char} {id : RequestId} (h : scan cs = some (id, rest)) :
    ∃ ds, cs = ds ++ rest ∧ InGroups groups ds ∧ InAnyCase id.toChars ds := by
  obtain ⟨⟨n, rest'⟩, hread, heq⟩ := Option.map_eq_some_iff.mp h
  obtain ⟨ds, rfl, hds⟩ := exists_of_scanGroups (by decide) hread
  obtain ⟨id', hid', -⟩ := hds.existsUnique_id
  rw [scan_toChars hid'] at h
  cases h
  exact ⟨ds, rfl, hds, hid'⟩

end RequestId

/-! ## In front of a blank -/

/-- The last character is a blank. -/
def EndsInBlank (cs : List Char) : Prop := ∃ c, cs.getLast? = some c ∧ Text.isBlank c = true

theorem not_endsInBlank_nil : ¬ EndsInBlank [] := by
  rintro ⟨c, hc, -⟩
  simp at hc

theorem endsInBlank_cons {c : Char} {cs : List Char} :
    EndsInBlank (c :: cs) ↔ (cs = [] ∧ Text.isBlank c = true) ∨ EndsInBlank cs := by
  cases cs with
  | nil => simp [EndsInBlank]
  | cons d ds => simp [EndsInBlank, List.getLast?_cons_cons]

theorem EndsInBlank.tail {c : Char} {cs : List Char} (h : EndsInBlank (c :: cs))
    (hc : Text.isBlank c = false) : EndsInBlank cs := by
  rcases endsInBlank_cons.mp h with ⟨-, hblank⟩ | htail
  · simp [hc] at hblank
  · exact htail

theorem isBlank_of_hexValue? {c : Char} {d : ℕ} (h : Json.hexValue? c = some d) :
    Text.isBlank c = false := by
  have hranges : (48 ≤ c.toNat ∧ c.toNat ≤ 57) ∨ (65 ≤ c.toNat ∧ c.toNat ≤ 102) := by
    rw [hexValue?_eq] at h
    split_ifs at h <;> omega
  simp only [Text.isBlank, Bool.or_eq_false_iff, Bool.and_eq_false_iff, decide_eq_false_iff_not,
    beq_eq_false_iff_ne]
  omega

namespace RequestId

/-- What is read in front of a blank does not depend on the `tail` behind it. -/
theorem scanDigits_append (count n : ℕ) {cs : List Char} (h : EndsInBlank cs) (tail : List Char) :
    scanDigits count n (cs ++ tail) =
      (scanDigits count n cs).map fun found => (found.1, found.2 ++ tail) := by
  induction count generalizing n cs with
  | zero => rfl
  | succ count ih =>
    cases cs with
    | nil => exact absurd h not_endsInBlank_nil
    | cons c cs =>
      simp only [List.cons_append, scanDigits]
      cases hc : Json.hexValue? c with
      | none => rfl
      | some d => exact ih _ (h.tail (isBlank_of_hexValue? hc))

/-- The blank is not passed. -/
theorem endsInBlank_of_scanDigits {count n m : ℕ} {cs ds : List Char} (h : EndsInBlank cs)
    (hread : scanDigits count n cs = some (m, ds)) : EndsInBlank ds := by
  induction count generalizing n cs with
  | zero =>
    cases hread
    exact h
  | succ count ih =>
    cases cs with
    | nil => exact absurd h not_endsInBlank_nil
    | cons c cs =>
      simp only [scanDigits] at hread
      cases hc : Json.hexValue? c with
      | none => simp [hc] at hread
      | some d =>
        rw [hc] at hread
        exact ih (h.tail (isBlank_of_hexValue? hc)) hread

theorem scanGroups_append (groups : List ℕ) (n : ℕ) {cs : List Char} (h : EndsInBlank cs)
    (tail : List Char) :
    scanGroups groups n (cs ++ tail) =
      (scanGroups groups n cs).map fun found => (found.1, found.2 ++ tail) := by
  induction groups generalizing n cs with
  | nil => rfl
  | cons count counts ih =>
    cases counts with
    | nil => exact scanDigits_append count n h tail
    | cons next counts =>
      simp only [scanGroups, scanDigits_append count n h tail]
      cases hread : scanDigits count n cs with
      | none => rfl
      | some found =>
        obtain ⟨m, ds⟩ := found
        have hds : EndsInBlank ds := endsInBlank_of_scanDigits h hread
        cases ds with
        | nil => exact absurd hds not_endsInBlank_nil
        | cons c ds =>
          by_cases hc : c = '-'
          · subst hc
            exact ih m (hds.tail rfl)
          · simp [hc]

/-- In front of a blank, `scan` reads an id or none, whatever the `tail` behind it. -/
theorem scan_append {cs : List Char} (h : EndsInBlank cs) (tail : List Char) :
    scan (cs ++ tail) = (scan cs).map fun found => (found.1, found.2 ++ tail) := by
  rw [scan, scan, scanGroups_append groups 0 h tail]
  cases scanGroups groups 0 cs <;> rfl

end RequestId

end ToolGate

/-
What is printed over several lines is read back by the decoder of its form.

That a decoder reads a value as something is said of the text that `pretty` writes of the value: at
any level of indentation, after any blanks, whatever follows, and with enough levels left to open.
Said so, it passes from the parts of a form to the form.

* `Decoder.Reads` — a decoder reads the printed text of a value as something.
* `reads_textAs`, `Reads.map`, `Reads.optional`, `reads_choice`, `reads_listOf` — the simple forms.
* `Sets` — what the fields of an object make of a record, one after another; `reads_record`: a
  record is read as what its fields make of it.
* `decode_toPrettyText` — a whole text is read back.
-/
import Mathlib
import ToolGate.Json.Decoder
import ToolGate.Json.Printer
import ToolGate.Proofs.Json.Readability

namespace ToolGate.Json

/-! ## Between tokens -/

/-- Characters that are all `isBlank`, if any. -/
def AllBlank (bs : List Char) : Prop := ∀ c ∈ bs, isBlank c = true

theorem allBlank_nil : AllBlank [] := by simp [AllBlank]

theorem allBlank_space : AllBlank [' '] := by simp [AllBlank, isBlank]

theorem allBlank_newLine (level : ℕ) : AllBlank (newLine level) := by
  intro c hc
  rcases List.mem_cons.mp hc with rfl | hspace
  · rfl
  · rw [List.eq_of_mem_replicate hspace]
    rfl

theorem skipBlanks_cons {c : Char} (hc : isBlank c = false) (cs : List Char) :
    skipBlanks (c :: cs) = c :: cs := by
  simp [skipBlanks, hc]

theorem skipBlanks_append {bs : List Char} (hbs : AllBlank bs) (cs : List Char) :
    skipBlanks (bs ++ cs) = skipBlanks cs := by
  induction bs with
  | nil => rfl
  | cons b bs ih =>
    obtain ⟨hb, hbs⟩ := List.forall_mem_cons.mp hbs
    rw [List.cons_append, skipBlanks, if_pos hb, ih hbs]

/-- A `pretty` text starts with no blank and no `]`; only `.null` starts with `n`. -/
theorem pretty_head (level : ℕ) (j : Json) :
    ∃ c cs, j.pretty level = c :: cs ∧ isBlank c = false ∧ c ≠ ']' ∧ (c = 'n' → j = .null) := by
  cases j with
  | null => exact ⟨_, _, by rw [pretty], rfl, by decide, fun _ => rfl⟩
  | boolean b =>
    cases b <;>
      exact ⟨_, _, by rw [pretty, renderBoolean], rfl, by decide, fun h => absurd h (by decide)⟩
  | number n =>
    obtain ⟨c, cs, heq, hc⟩ := renderNumber_head n
    have hne : ∀ d, Decimal.isNumeralChar d = false → c ≠ d := by
      rintro d hd rfl
      rw [hd] at hc
      exact absurd hc (by decide)
    refine ⟨c, cs, by rw [pretty, heq], ?_, hne ']' rfl, fun h => absurd h (hne 'n' rfl)⟩
    simp [isBlank, hne ' ' rfl, hne '\n' rfl, hne '\t' rfl, hne '\r' rfl]
  | text s =>
    exact ⟨_, _, by rw [pretty, renderText], rfl, by decide, fun h => absurd h (by decide)⟩
  | list xs =>
    cases xs <;> exact ⟨_, _, by rw [pretty], rfl, by decide, fun h => absurd h (by decide)⟩
  | object fs =>
    cases fs with
    | nil => exact ⟨_, _, by rw [pretty], rfl, by decide, fun h => absurd h (by decide)⟩
    | cons field rest => exact ⟨_, _, by rw [pretty], rfl, by decide, fun h => absurd h (by decide)⟩

/-- Behind the opening quote, `scanText` undoes `escape`. -/
theorem scanText_escape (s : String) (rest : List Char) :
    scanText (escape s.toList ++ '"' :: rest) = .ok (s, rest) := by
  have hlength : ∀ cs : List Char, cs.length ≤ (escape cs).length := by
    intro cs
    induction cs with
    | nil => exact Nat.le_refl _
    | cons c cs ih =>
      have hone : 0 < (escapeChar c).length := by
        obtain ⟨heq, -⟩ | ⟨ds, heq, -⟩ := escapeChar_cases c <;> simp [heq]
      simp only [escape, List.length_cons, List.length_append]
      omega
  rw [scanText, scanChars_escape]
  · simp [Except.map]
  · have := hlength s.toList
    simp only [List.length_append, List.length_cons]
    omega

/-- What stands before an item or a field: a new line, after a comma unless it is the `first`. -/
def lead (first : Bool) (level : ℕ) : List Char :=
  if first then newLine level else ',' :: newLine level

theorem nextItem_lead (first : Bool) (level level' : ℕ) (j : Json) (rest : List Char) :
    nextItem first (lead first level ++ (j.pretty level' ++ rest)) =
      .ok (true, j.pretty level' ++ rest) := by
  obtain ⟨c, cs, heq, hblank, hne, -⟩ := pretty_head level' j
  rw [heq, List.cons_append]
  cases first with
  | true =>
    simp only [lead, if_true, nextItem, skipBlanks_append (allBlank_newLine level),
      skipBlanks_cons hblank,
      if_neg hne]
  | false =>
    have hcomma : isBlank ',' = false := rfl
    simp only [lead, Bool.false_eq_true, if_false, List.cons_append, nextItem,
      skipBlanks_cons hcomma, Char.reduceEq, if_true, skipBlanks_append (allBlank_newLine level),
      skipBlanks_cons hblank, if_neg hne]

theorem nextItem_end {bs : List Char} (hbs : AllBlank bs) (first : Bool) (rest : List Char) :
    nextItem first (bs ++ ']' :: rest) = .ok (false, rest) := by
  have hend : isBlank ']' = false := rfl
  simp only [nextItem, skipBlanks_append hbs, skipBlanks_cons hend, if_true]

theorem nextKey_lead (first : Bool) (level : ℕ) (key : String) (rest : List Char) :
    nextKey first (lead first level ++ (renderText key ++ rest)) = .ok (some key, rest) := by
  have hquote : isBlank '"' = false := rfl
  have hcomma : isBlank ',' = false := rfl
  have hkey : keyAt ('"' :: (escape key.toList ++ '"' :: rest)) = .ok (some key, rest) := by
    simp [keyAt, scanText_escape, Except.map]
  have htext : renderText key ++ rest = '"' :: (escape key.toList ++ '"' :: rest) := by
    simp [renderText]
  rw [htext]
  cases first with
  | true =>
    simp only [lead, if_true, nextKey, skipBlanks_append (allBlank_newLine level),
      skipBlanks_cons hquote, Char.reduceEq, if_false, hkey]
  | false =>
    simp only [lead, Bool.false_eq_true, if_false, List.cons_append, nextKey,
      skipBlanks_cons hcomma, Char.reduceEq, if_true, skipBlanks_append (allBlank_newLine level),
      skipBlanks_cons hquote, hkey]

theorem nextKey_end {bs : List Char} (hbs : AllBlank bs) (first : Bool) (rest : List Char) :
    nextKey first (bs ++ '\x7d' :: rest) = .ok (none, rest) := by
  have hend : isBlank '\x7d' = false := rfl
  simp only [nextKey, skipBlanks_append hbs, skipBlanks_cons hend, if_true]

theorem length_lt_prettyItems (level : ℕ) (xs : List Json) :
    xs.length < (prettyItems level xs).length := by
  induction xs with
  | nil => simp [prettyItems]
  | cons x xs ih =>
    simp only [prettyItems, List.length_cons, List.length_append]
    omega

theorem length_lt_prettyFields (level : ℕ) (fs : Fields) :
    fs.length < (prettyFields level fs).length := by
  induction fs with
  | nil => simp [prettyFields]
  | cons field fs ih =>
    obtain ⟨k, v⟩ := field
    simp only [prettyFields, List.length_cons, List.length_append]
    omega

namespace Decoder

variable {α β σ : Type} {d : Decoder α} {n : ℕ} {j : Json} {a : α}

/-! ## Simple forms -/

/-- The decoder reads every `pretty` text of `j` as `a`, if `n` more levels may be opened. -/
def Reads (d : Decoder α) (n : ℕ) (j : Json) (a : α) : Prop :=
  ∀ (level depth : ℕ) (bs rest : List Char), n ≤ depth → AllBlank bs →
    d.read depth (bs ++ (j.pretty level ++ rest)) = .ok (a, rest)

theorem Reads.map (h : d.Reads n j a) (f : α → β) : (d.map f).Reads n j (f a) := by
  intro level depth bs rest hdepth hbs
  simp only [Decoder.map, h level depth bs rest hdepth hbs]
  rfl

theorem reads_textAs (expected s : String) : (textAs expected).Reads 0 (.text s) s := by
  intro level depth bs rest _ hbs
  have hquote : isBlank '"' = false := rfl
  simp only [textAs, pretty, renderText, List.cons_append, List.append_assoc, List.nil_append,
    skipBlanks_append hbs, skipBlanks_cons hquote, scanText_escape]

theorem Reads.optional (h : d.Reads n j a) (hj : j ≠ .null) : (optional d).Reads n j (some a) := by
  intro level depth bs rest hdepth hbs
  have hread := h level depth [] rest hdepth allBlank_nil
  obtain ⟨c, cs, heq, hblank, -, hnull⟩ := pretty_head level j
  have hc : c ≠ 'n' := fun hc => hj (hnull hc)
  simp only [heq, List.nil_append, List.cons_append] at hread
  simp only [Decoder.optional, heq, List.cons_append, skipBlanks_append hbs, skipBlanks_cons hblank]
  split
  · rename_i hn
    exact absurd (List.cons.inj hn).1 hc
  · rw [hread]
    rfl

/-- An alternative `Reads` its name. -/
theorem reads_choice {options : List (String × α)} {name : String} (h : pick options name = .ok a) :
    (choice options).Reads 0 (.text name) a := by
  intro level depth bs rest hdepth hbs
  have hquote : isBlank '"' = false := rfl
  have hname := reads_textAs "variant identifier" name level depth [] rest hdepth allBlank_nil
  simp only [pretty, renderText, List.nil_append, List.cons_append] at hname
  simp only [choice, pretty, renderText, List.cons_append, skipBlanks_append hbs,
    skipBlanks_cons hquote, if_true, readName, hname, h]

theorem readItems_prettyItems {xs : List Json} {as : List α} (h : List.Forall₂ (d.Reads n) xs as)
    {depth : ℕ} (hdepth : n ≤ depth) (level : ℕ) (rest : List Char) :
    ∀ fuel, xs.length < fuel →
      d.readItems depth fuel false (prettyItems level xs ++ rest) = .ok (as, rest) := by
  induction h with
  | nil =>
    intro fuel hfuel
    obtain ⟨fuel, rfl⟩ := Nat.exists_eq_add_of_lt hfuel
    simp [readItems, prettyItems, nextItem_end (allBlank_newLine level)]
  | @cons x a xs as hx _ ih =>
    intro fuel hfuel
    match fuel, hfuel with
    | fuel + 1, hfuel =>
      have hnext := nextItem_lead false (level + 1) (level + 1) x (prettyItems level xs ++ rest)
      have hread := hx (level + 1) depth [] (prettyItems level xs ++ rest) hdepth allBlank_nil
      simp only [lead, Bool.false_eq_true, if_false, List.cons_append] at hnext
      simp only [List.nil_append] at hread
      simp only [prettyItems, List.cons_append, List.append_assoc, readItems, hnext, hread,
        ih fuel (Nat.lt_of_succ_lt_succ hfuel)]
      rfl

/-- A `listOf` `Reads` item by item. -/
theorem reads_listOf {xs : List Json} {as : List α} (h : List.Forall₂ (d.Reads n) xs as) :
    (listOf d).Reads (n + 1) (.list xs) as := by
  intro level depth bs rest hdepth hbs
  have hbracket : isBlank '[' = false := rfl
  match depth, hdepth with
  | depth + 1, hdepth =>
    have hdepth : n ≤ depth := Nat.le_of_succ_le_succ hdepth
    cases h with
    | nil =>
      have hend := nextItem_end allBlank_nil true rest
      simp only [List.nil_append] at hend
      simp only [listOf, pretty, List.cons_append, List.nil_append, skipBlanks_append hbs,
        skipBlanks_cons hbracket, opening, readItems, hend]
    | @cons x a xs as hx hxs =>
      have hnext := nextItem_lead true (level + 1) (level + 1) x (prettyItems level xs ++ rest)
      have hread := hx (level + 1) depth [] (prettyItems level xs ++ rest) hdepth allBlank_nil
      simp only [lead, if_true] at hnext
      simp only [List.nil_append] at hread
      simp only [listOf, pretty, List.cons_append, List.append_assoc, skipBlanks_append hbs,
        skipBlanks_cons hbracket, opening, readItems, hnext, hread]
      rw [readItems_prettyItems hxs hdepth level rest]
      · rfl
      · have := length_lt_prettyItems level xs
        simp only [List.length_append]
        omega

/-! ## Records -/

/-- What the fields of an object make of a record, one after another. -/
inductive Sets (fields : List (Field σ)) (n : ℕ) : σ → Fields → σ → Prop where
  | nil (s : σ) : Sets fields n s [] s
  | cons {s s' : σ} {key : String} {v : Json} {field : Field σ} {set : σ → σ} {es : Fields}
      (hfind : Field.find? fields key = some field) (hread : field.value.Reads n v set)
      (hrest : Sets fields n (set s) es s') : Sets fields n s ((key, v) :: es) s'

variable {fields : List (Field σ)} {s s' s'' start : σ} {es es' : Fields}

theorem Sets.append (h : Sets fields n s es s') (h' : Sets fields n s' es' s'') :
    Sets fields n s (es ++ es') s'' := by
  induction h with
  | nil => exact h'
  | cons hfind hread _ ih => exact .cons hfind hread (ih h')

/-- One field `Sets` what its decoder `Reads`. -/
theorem sets_single {key : String} {mandatory : Bool} {set : α → σ → σ}
    (hfind : Field.find? fields key = some ⟨key, mandatory, d.map set⟩) (h : d.Reads n j a)
    (hset : set a s = s') : Sets fields n s [(key, j)] s' :=
  .cons hfind (h.map set) (hset ▸ .nil _)

/-- All `mandatory` fields are among the keys. -/
def HasMandatory (fields : List (Field σ)) (es : Fields) : Prop :=
  ∀ field ∈ fields, field.mandatory = true → field.name ∈ es.map Prod.fst

/-- The step of `readFields` on one field. -/
theorem readFields_field {field : Field σ} {key : String} {v : Json} {set : σ → σ} {depth : ℕ}
    {seen : List String} (hfind : Field.find? fields key = some field) (hnew : key ∉ seen)
    (hread : field.value.Reads n v set) (hdepth : n ≤ depth) (first : Bool) (level fuel : ℕ)
    (s : σ) (rest : List Char) :
    readFields fields depth (fuel + 1) first seen s (lead first (level + 1) ++
        (renderText key ++ ':' :: ' ' :: (v.pretty (level + 1) ++ rest))) =
      readFields fields depth fuel false (key :: seen) (set s) rest := by
  have hkey := nextKey_lead first (level + 1) key (':' :: ' ' :: (v.pretty (level + 1) ++ rest))
  have hvalue := hread (level + 1) depth [' '] rest hdepth allBlank_space
  have hcolon : isBlank ':' = false := rfl
  have hcontains : seen.contains key = false := by simpa using hnew
  simp only [List.cons_append, List.nil_append] at hvalue
  simp only [readFields, hkey, hfind, hcontains, Bool.false_eq_true, if_false, passColon,
    skipBlanks_cons hcolon, if_true, hvalue]

theorem readFields_end {depth : ℕ} {seen : List String} (hseen : Field.missing fields seen = none)
    (first : Bool) (fuel : ℕ) (s : σ) {bs : List Char} (hbs : AllBlank bs) (rest : List Char) :
    readFields fields depth (fuel + 1) first seen s (bs ++ '\x7d' :: rest) = .ok (s, rest) := by
  simp only [readFields, nextKey_end hbs, hseen]

/-- Over fields with distinct keys, `readFields` comes to what they `Sets`. -/
theorem readFields_prettyFields {depth : ℕ} (hdepth : n ≤ depth) (level : ℕ) (rest : List Char)
    (h : Sets fields n s es s') :
    ∀ (fuel : ℕ) (seen : List String), es.length < fuel →
      (es.map Prod.fst).Nodup → (∀ key ∈ es.map Prod.fst, key ∉ seen) →
      (∀ field ∈ fields, field.mandatory = true →
        field.name ∈ seen ∨ field.name ∈ es.map Prod.fst) →
      readFields fields depth fuel false seen s (prettyFields level es ++ rest) =
        .ok (s', rest) := by
  induction h with
  | nil s =>
    intro fuel seen hfuel _ _ hall
    have hseen : Field.missing fields seen = none := by
      simpa [Field.missing] using hall
    match fuel, hfuel with
    | fuel + 1, _ =>
      simp only [prettyFields, List.append_assoc, List.singleton_append]
      exact readFields_end hseen false fuel s (allBlank_newLine level) rest
  | @cons s s' key v field set es hfind hread _ ih =>
    intro fuel seen hfuel hkeys hnew hall
    rw [List.map_cons, List.nodup_cons] at hkeys
    match fuel, hfuel with
    | fuel + 1, hfuel =>
      have hfield := readFields_field hfind (hnew key (by simp)) hread hdepth false level fuel s
        (prettyFields level es ++ rest)
      simp only [lead, Bool.false_eq_true, if_false, List.cons_append] at hfield
      simp only [prettyFields, List.cons_append, List.append_assoc, hfield]
      refine ih fuel (key :: seen) (Nat.lt_of_succ_lt_succ hfuel) hkeys.2 ?_ ?_
      · intro k hk hmem
        rcases List.mem_cons.mp hmem with rfl | hseen
        · exact hkeys.1 hk
        · exact hnew k (List.mem_cons_of_mem _ hk) hseen
      · intro f hf hmandatory
        have := hall f hf hmandatory
        simp only [List.map_cons, List.mem_cons] at this ⊢
        tauto

/-- A `record` `Reads` what its fields `Sets`, given distinct keys and `HasMandatory`. -/
theorem reads_record {name : String} (h : Sets fields n start es s)
    (hkeys : (es.map Prod.fst).Nodup) (hall : HasMandatory fields es) :
    (record name start fields).Reads (n + 1) (.object es) s := by
  intro level depth bs rest hdepth hbs
  have hbracket : isBlank '\x7b' = false := rfl
  match depth, hdepth with
  | depth + 1, hdepth =>
    have hdepth : n ≤ depth := Nat.le_of_succ_le_succ hdepth
    cases h with
    | nil =>
      have hseen : Field.missing fields [] = none := by
        simpa [Field.missing, HasMandatory] using hall
      have hend :
          readFields fields depth (rest.length + 2) true [] s ('\x7d' :: rest) = .ok (s, rest) :=
        readFields_end hseen true (rest.length + 1) s allBlank_nil rest
      simp only [record, pretty, List.cons_append, List.nil_append, skipBlanks_append hbs,
        skipBlanks_cons hbracket, opening, List.length_cons, hend]
    | @cons _ _ key v field set es hfind hread hrest =>
      rw [List.map_cons, List.nodup_cons] at hkeys
      have hfield := readFields_field hfind List.not_mem_nil hread hdepth true level
      simp only [lead, if_true] at hfield
      simp only [record, pretty, List.cons_append, List.append_assoc, skipBlanks_append hbs,
        skipBlanks_cons hbracket, opening, hfield]
      refine readFields_prettyFields hdepth level rest hrest _ [key] ?_ hkeys.2 ?_ ?_
      · have := length_lt_prettyFields level es
        simp only [List.length_append, List.length_cons]
        omega
      · intro k hk hmem
        rw [List.mem_singleton] at hmem
        exact hkeys.1 (hmem ▸ hk)
      · intro f hf hmandatory
        simpa using hall f hf hmandatory

/-! ## Whole texts -/

/-- Round trip: `decode` undoes `toPrettyText` wherever the decoder `Reads`. -/
theorem decode_toPrettyText (h : d.Reads n j a) (hn : n ≤ maxDepth) :
    d.decode j.toPrettyText = .ok a := by
  have hread := h 0 maxDepth [] [] hn allBlank_nil
  simp only [List.nil_append, List.append_nil] at hread
  simp only [decode, toPrettyText, String.toList_ofList, hread]
  rfl

end Decoder

end ToolGate.Json

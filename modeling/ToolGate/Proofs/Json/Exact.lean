/-
Values with their numbers as they are written.

A reader keeps less of a text than the text says: numbers are rounded, and of the entries of an
object with one key only the last one stays. Here nothing is lost, so that what a text says can be
compared with what is kept of it.

* `Exact` — a value with its numerals, and with the entries of every object as they are written.
* `Exact.kept` — what a reader keeps of it.
* `Written` — the value at a place of a text, and the characters after it. `Written.unique`: there
  is one at most.
* `exists_written_of_readValue` — what is read is kept of the value there.
* `Exact.SameBy` — the same value up to the order of keys, with a relation between the numerals.
* `same_kept_iff` — what is kept of two values without repeated keys is the same just if they are
  the same with numerals that are kept alike.
-/
import Mathlib
import ToolGate.Json.Reader
import ToolGate.Proofs.Json.Numeral
import ToolGate.Proofs.Json.Reading

namespace ToolGate.Json

/-- A value as it is written. Numerals keep all their digits and objects all their entries, in
order. -/
inductive Exact where
  | null
  | boolean (value : Bool)
  | number (value : Numeral)
  | text (value : String)
  | list (items : List Exact)
  | object (entries : List (String × Exact))

namespace Exact

/-- The entries of an object, as they are written. -/
abbrev Entries := List (String × Exact)

mutual

/-- The `Json` that a reader keeps of it. -/
def kept : Exact → Json
  | .null => .null
  | .boolean b => .boolean b
  | .number x => .number x.kept
  | .text s => .text s
  | .list xs => .list (keptItems xs)
  | .object es => .object (ofEntries (keptEntries es))

/-- The same for items of a list. -/
def keptItems : List Exact → List Json
  | [] => []
  | x :: xs => kept x :: keptItems xs

/-- The same for entries, repeated keys included. -/
def keptEntries : Entries → Fields
  | [] => []
  | (k, x) :: es => (k, kept x) :: keptEntries es

end

theorem keptItems_eq_map : ∀ xs, keptItems xs = xs.map kept
  | [] => rfl
  | x :: xs => by rw [keptItems, keptItems_eq_map xs, List.map_cons]

theorem keptEntries_eq_map : ∀ es, keptEntries es = es.map fun e => (e.1, kept e.2)
  | [] => rfl
  | (k, x) :: es => by rw [keptEntries, keptEntries_eq_map es, List.map_cons]

theorem keys_keptEntries (es : Entries) : (keptEntries es).map Prod.fst = es.map Prod.fst := by
  rw [keptEntries_eq_map, List.map_map]
  rfl

theorem field?_keptEntries (k : String) :
    ∀ es : Entries, field? k (keptEntries es) = (es.lookup k).map kept
  | [] => rfl
  | (k', x) :: es => by
    rw [keptEntries, field?, field?_keptEntries k es, List.lookup_cons]
    by_cases hk : k' = k
    · simp [hk]
    · have hne : (k == k') = false := beq_eq_false_iff_ne.mpr (Ne.symm hk)
      simp [hk, hne]

/-- Where no key is repeated, `field?` after `ofEntries` is `lookup` before it. -/
theorem field?_kept (k : String) {es : Entries} (hkeys : (es.map Prod.fst).Nodup) :
    field? k (ofEntries (keptEntries es)) = (es.lookup k).map kept := by
  rw [field?_ofEntries k (by rwa [keys_keptEntries]), field?_keptEntries]

end Exact

/-! ## The value at a place of a text -/

/-- An `Exact` reader for all that is neither list nor object. -/
def scanScalar : List Char → Outcome Exact
  | [] => .error (Fault.next .endInValue [])
  | c :: rest =>
    if c = 'n' then (scanWord ['u', 'l', 'l'] rest).map fun (_, cs) => (.null, cs)
    else if c = 't' then (scanWord ['r', 'u', 'e'] rest).map fun (_, cs) => (.boolean true, cs)
    else if c = 'f' then
      (scanWord ['a', 'l', 's', 'e'] rest).map fun (_, cs) => (.boolean false, cs)
    else if c = '-' then .ok ((numeralAt true rest).map .number id)
    else if c.isDigit then .ok ((numeralAt false (c :: rest)).map .number id)
    else if c = '"' then (scanText rest).map fun (s, cs) => (.text s, cs)
    else .error (Fault.next .expectedValue (c :: rest))

/-- What is to be read next: a value, or the rest of a list or an object, from its start or after an
item. -/
inductive Stage where
  | value
  | items (first : Bool)
  | entries (first : Bool)

/-- The type of what a `Stage` reads. -/
abbrev Stage.Part : Stage → Type
  | .value => Exact
  | .items _ => List Exact
  | .entries _ => Exact.Entries

/-- The part stands at the start of `cs`, and `rest` is behind it. -/
inductive Written : (stage : Stage) → List Char → stage.Part → List Char → Prop where
  | scalar {cs rest : List Char} {x : Exact} (h : scanScalar (skipBlanks cs) = .ok (x, rest)) :
      Written .value cs x rest
  | list {cs inner rest : List Char} {xs : List Exact} (h : skipBlanks cs = '[' :: inner)
      (hitems : Written (.items true) inner xs rest) : Written .value cs (Exact.list xs) rest
  | object {cs inner rest : List Char} {es : Exact.Entries} (h : skipBlanks cs = '\x7b' :: inner)
      (hentries : Written (.entries true) inner es rest) : Written .value cs (Exact.object es) rest
  | noItem {first : Bool} {cs rest : List Char} (h : nextItem first cs = .ok (false, rest)) :
      Written (.items first) cs ([] : List Exact) rest
  | item {first : Bool} {cs inner behind rest : List Char} {x : Exact} {xs : List Exact}
      (h : nextItem first cs = .ok (true, inner)) (hitem : Written .value inner x behind)
      (hitems : Written (.items false) behind xs rest) :
      Written (.items first) cs (x :: xs : List Exact) rest
  | noEntry {first : Bool} {cs rest : List Char} (h : nextKey first cs = .ok (none, rest)) :
      Written (.entries first) cs ([] : Exact.Entries) rest
  | entry {first : Bool} {cs inner inner' behind rest : List Char} {k : String} {x : Exact}
      {es : Exact.Entries} (h : nextKey first cs = .ok (some k, inner))
      (hcolon : passColon inner = .ok ((), inner')) (hvalue : Written .value inner' x behind)
      (hentries : Written (.entries false) behind es rest) :
      Written (.entries first) cs ((k, x) :: es : Exact.Entries) rest

/-- A text has at most one part `Written` at its start. -/
theorem Written.unique {stage : Stage} {cs rest rest' : List Char} {part part' : stage.Part}
    (h : Written stage cs part rest) (h' : Written stage cs part' rest') :
    part = part' ∧ rest = rest' := by
  induction h generalizing rest' with
  | scalar h =>
    cases h' with
    | scalar h' =>
      rw [h] at h'
      cases h'
      exact ⟨rfl, rfl⟩
    | list h' =>
      rw [h'] at h
      cases h
    | object h' =>
      rw [h'] at h
      cases h
  | list h _ ih =>
    cases h' with
    | scalar h' =>
      rw [h] at h'
      cases h'
    | list h' hitems' =>
      rw [h] at h'
      cases h'
      obtain ⟨rfl, rfl⟩ := ih hitems'
      exact ⟨rfl, rfl⟩
    | object h' =>
      rw [h] at h'
      cases h'
  | object h _ ih =>
    cases h' with
    | scalar h' =>
      rw [h] at h'
      cases h'
    | list h' =>
      rw [h] at h'
      cases h'
    | object h' hentries' =>
      rw [h] at h'
      cases h'
      obtain ⟨rfl, rfl⟩ := ih hentries'
      exact ⟨rfl, rfl⟩
  | noItem h =>
    cases h' with
    | noItem h' =>
      rw [h] at h'
      cases h'
      exact ⟨rfl, rfl⟩
    | item h' =>
      rw [h] at h'
      cases h'
  | item h _ _ ih ih' =>
    cases h' with
    | noItem h' =>
      rw [h] at h'
      cases h'
    | item h' hitem' hitems' =>
      rw [h] at h'
      cases h'
      obtain ⟨rfl, rfl⟩ := ih hitem'
      obtain ⟨rfl, rfl⟩ := ih' hitems'
      exact ⟨rfl, rfl⟩
  | noEntry h =>
    cases h' with
    | noEntry h' =>
      rw [h] at h'
      cases h'
      exact ⟨rfl, rfl⟩
    | entry h' =>
      rw [h] at h'
      cases h'
  | entry h hcolon _ _ ih ih' =>
    cases h' with
    | noEntry h' =>
      rw [h] at h'
      cases h'
    | entry h' hcolon' hvalue' hentries' =>
      rw [h] at h'
      cases h'
      rw [hcolon] at hcolon'
      cases hcolon'
      obtain ⟨rfl, rfl⟩ := ih hvalue'
      obtain ⟨rfl, rfl⟩ := ih' hentries'
      exact ⟨rfl, rfl⟩

/-- Digits before a closing brace are `Written` as a numeral. -/
theorem written_ofDigits {d : Char} {ds : List Char} (h : Decimal.AllDigits (d :: ds))
    (cs : List Char) :
    Written .value (d :: ds ++ '\x7d' :: cs) (Exact.number (.ofDigits (d :: ds)))
      ('\x7d' :: cs) := by
  have hd : d.isDigit = true := h d List.mem_cons_self
  have hne : ∀ c : Char, c.isDigit = false → d ≠ c := by
    rintro c hc rfl
    simp [hd] at hc
  have hskip : skipBlanks (d :: ds ++ '\x7d' :: cs) = d :: ds ++ '\x7d' :: cs := by
    simp [skipBlanks, isBlank, hne]
  have hnumeral : numeralAt false (d :: ds ++ '\x7d' :: cs) =
      (.ofDigits (d :: ds), '\x7d' :: cs) := by
    obtain ⟨hleading, hafter⟩ := leadingDigits_append h (by decide : '\x7d'.isDigit = false) cs
    simp only [numeralAt, hleading, hafter]
    rfl
  refine .scalar ?_
  rw [hskip, List.cons_append, scanScalar, ← List.cons_append, hnumeral]
  simp [hne, hd]

/-! ## What is read is kept of the value there -/

mutual

/-- Whatever `readValue` reads is the `kept` part of what is `Written` there. -/
theorem exists_written_of_readValue {j : Json} : ∀ {fuel depth : ℕ} {cs rest : List Char},
    readValue fuel depth cs = .ok (j, rest) → ∃ x, Written .value cs x rest ∧ x.kept = j
  | 0, _, _, _, h => by cases h
  | fuel + 1, depth, cs, rest, h => by
    unfold readValue at h
    split at h
    · cases h
    rename_i c inner hskip
    split at h
    · obtain ⟨_, hword, rfl⟩ := exists_of_map_ok (f := fun _ => Json.null) h
      refine ⟨.null, .scalar ?_, rfl⟩
      simp [scanScalar, Except.map, *]
    split at h
    · obtain ⟨_, hword, rfl⟩ := exists_of_map_ok (f := fun _ => Json.boolean true) h
      refine ⟨.boolean true, .scalar ?_, rfl⟩
      simp [scanScalar, Except.map, *]
    split at h
    · obtain ⟨_, hword, rfl⟩ := exists_of_map_ok (f := fun _ => Json.boolean false) h
      refine ⟨.boolean false, .scalar ?_, rfl⟩
      simp [scanScalar, Except.map, *]
    split at h
    · obtain ⟨n, hn, rfl⟩ := exists_of_map_ok h
      obtain ⟨rfl, rfl⟩ := kept_of_scanNumber hn
      refine ⟨.number (numeralAt true inner).1, .scalar ?_, rfl⟩
      simp [scanScalar, *]
      rfl
    split at h
    · obtain ⟨n, hn, rfl⟩ := exists_of_map_ok h
      obtain ⟨rfl, rfl⟩ := kept_of_scanNumber hn
      refine ⟨.number (numeralAt false (c :: inner)).1, .scalar ?_, rfl⟩
      simp [scanScalar, *]
      rfl
    split at h
    · obtain ⟨s, hs, rfl⟩ := exists_of_map_ok h
      refine ⟨.text s, .scalar ?_, rfl⟩
      simp [scanScalar, Except.map, *]
    split at h
    · rename_i hbracket
      subst hbracket
      split at h
      · cases h
      · obtain ⟨js, hjs, rfl⟩ := exists_of_map_ok h
        obtain ⟨xs, hxs, rfl⟩ := exists_written_of_readItems hjs
        exact ⟨.list xs, .list hskip hxs, rfl⟩
    split at h
    · rename_i hbracket
      subst hbracket
      split at h
      · cases h
      · obtain ⟨fs, hfs, rfl⟩ := exists_of_map_ok (f := fun fs => Json.object (ofEntries fs)) h
        obtain ⟨es, hes, rfl⟩ := exists_written_of_readEntries hfs
        exact ⟨.object es, .object hskip hes, rfl⟩
    · cases h

theorem exists_written_of_readItems {js : List Json} : ∀ {fuel depth : ℕ} {first : Bool}
    {cs rest : List Char}, readItems fuel depth first cs = .ok (js, rest) →
      ∃ xs, Written (.items first) cs xs rest ∧ Exact.keptItems xs = js
  | 0, _, _, _, _, h => by cases h
  | fuel + 1, depth, first, cs, rest, h => by
    unfold readItems at h
    split at h
    · cases h
    · rename_i hnext
      cases h
      exact ⟨[], .noItem hnext, rfl⟩
    · rename_i hnext
      split at h
      · cases h
      · rename_i j behind hj
        obtain ⟨js, hjs, rfl⟩ := exists_of_map_ok h
        obtain ⟨x, hx, rfl⟩ := exists_written_of_readValue hj
        obtain ⟨xs, hxs, rfl⟩ := exists_written_of_readItems hjs
        exact ⟨x :: xs, .item hnext hx hxs, rfl⟩

theorem exists_written_of_readEntries {fs : Fields} : ∀ {fuel depth : ℕ} {first : Bool}
    {cs rest : List Char}, readEntries fuel depth first cs = .ok (fs, rest) →
      ∃ es, Written (.entries first) cs es rest ∧ Exact.keptEntries es = fs
  | 0, _, _, _, _, h => by cases h
  | fuel + 1, depth, first, cs, rest, h => by
    unfold readEntries at h
    split at h
    · cases h
    · rename_i hnext
      cases h
      exact ⟨[], .noEntry hnext, rfl⟩
    rename_i k inner hnext
    split at h
    · cases h
    rename_i inner' hcolon
    split at h
    · cases h
    · rename_i j behind hj
      obtain ⟨fs, hfs, rfl⟩ := exists_of_map_ok h
      obtain ⟨x, hx, rfl⟩ := exists_written_of_readValue hj
      obtain ⟨es, hes, rfl⟩ := exists_written_of_readEntries hfs
      exact ⟨(k, x) :: es, .entry hnext hcolon hx hes, rfl⟩

end

/-! ## The same value up to the order of keys -/

namespace Exact

/-- No object repeats a key, at any depth. -/
inductive DistinctKeys : Exact → Prop where
  | null : DistinctKeys .null
  | boolean (b : Bool) : DistinctKeys (.boolean b)
  | number (x : Numeral) : DistinctKeys (.number x)
  | text (s : String) : DistinctKeys (.text s)
  | list {xs : List Exact} (h : ∀ x ∈ xs, DistinctKeys x) : DistinctKeys (.list xs)
  | object {es : Entries} (hkeys : (es.map Prod.fst).Nodup) (h : ∀ e ∈ es, DistinctKeys e.2) :
      DistinctKeys (.object es)

/-- Every numeral satisfies `p`. -/
inductive Each (p : Numeral → Prop) : Exact → Prop where
  | null : Each p .null
  | boolean (b : Bool) : Each p (.boolean b)
  | number {x : Numeral} (h : p x) : Each p (.number x)
  | text (s : String) : Each p (.text s)
  | list {xs : List Exact} (h : ∀ x ∈ xs, Each p x) : Each p (.list xs)
  | object {es : Entries} (h : ∀ e ∈ es, Each p e.2) : Each p (.object es)

/-- Equality up to the order of keys at every depth, with numerals related by `r`. -/
inductive SameBy (r : Numeral → Numeral → Prop) : Exact → Exact → Prop where
  | null : SameBy r .null .null
  | boolean (b : Bool) : SameBy r (.boolean b) (.boolean b)
  | number {x y : Numeral} (h : r x y) : SameBy r (.number x) (.number y)
  | text (s : String) : SameBy r (.text s) (.text s)
  | list {xs ys : List Exact} (hlength : xs.length = ys.length)
      (hitems : ∀ (i : ℕ) x y, xs[i]? = some x → ys[i]? = some y → SameBy r x y) :
      SameBy r (.list xs) (.list ys)
  | object {es es' : Entries} (hkeys : ∀ k, (es.lookup k).isSome = (es'.lookup k).isSome)
      (hvalues : ∀ k x y, es.lookup k = some x → es'.lookup k = some y → SameBy r x y) :
      SameBy r (.object es) (.object es')

theorem mem_of_lookup {k : String} {x : Exact} {es : Entries} (h : es.lookup k = some x) :
    (k, x) ∈ es := by
  obtain ⟨before, after, rfl, -⟩ := List.lookup_eq_some_iff.mp h
  simp

/-- The relation `r` may be weakened where `Each` numeral allows it. -/
theorem SameBy.imp {p : Numeral → Prop} {r r' : Numeral → Numeral → Prop} {x y : Exact}
    (h : SameBy r x y) (hx : Each p x) (hy : Each p y)
    (himp : ∀ {a b}, r a b → p a → p b → r' a b) : SameBy r' x y := by
  induction h with
  | null => exact .null
  | boolean b => exact .boolean b
  | number h =>
    cases hx with
    | number hx =>
      cases hy with
      | number hy => exact .number (himp h hx hy)
  | text s => exact .text s
  | list hlength _ ih =>
    cases hx with
    | list hx =>
      cases hy with
      | list hy =>
        refine .list hlength fun i x y hxi hyi => ?_
        exact ih i x y hxi hyi (hx x (List.mem_of_getElem? hxi)) (hy y (List.mem_of_getElem? hyi))
  | object hkeys _ ih =>
    cases hx with
    | object hx =>
      cases hy with
      | object hy =>
        refine .object hkeys fun k x y hxk hyk => ?_
        exact ih k x y hxk hyk (hx _ (mem_of_lookup hxk)) (hy _ (mem_of_lookup hyk))

/-- With numerals `Alike`, what is `kept` is the `Same`. -/
theorem SameBy.kept {x y : Exact} (h : SameBy Numeral.Alike x y) (hx : x.DistinctKeys)
    (hy : y.DistinctKeys) : Same x.kept y.kept := by
  induction h with
  | null => exact .null
  | boolean b => exact .boolean b
  | number h =>
    rw [Exact.kept, Exact.kept, h]
    exact .number _
  | text s => exact .text s
  | list hlength _ ih =>
    cases hx with
    | list hx =>
      cases hy with
      | list hy =>
        rw [Exact.kept, Exact.kept, keptItems_eq_map, keptItems_eq_map]
        refine .list (by simpa using hlength) fun i j j' hj hj' => ?_
        rw [List.getElem?_map, Option.map_eq_some_iff] at hj hj'
        obtain ⟨x, hxi, rfl⟩ := hj
        obtain ⟨y, hyi, rfl⟩ := hj'
        exact ih i x y hxi hyi (hx x (List.mem_of_getElem? hxi)) (hy y (List.mem_of_getElem? hyi))
  | object hkeys _ ih =>
    cases hx with
    | object hnodup hx =>
      cases hy with
      | object hnodup' hy =>
        rw [Exact.kept, Exact.kept]
        refine .object (fun k => ?_) fun k v v' hv hv' => ?_
        · rw [field?_kept k hnodup, field?_kept k hnodup', Option.isSome_map, Option.isSome_map,
            hkeys k]
        · rw [field?_kept k hnodup, Option.map_eq_some_iff] at hv
          rw [field?_kept k hnodup', Option.map_eq_some_iff] at hv'
          obtain ⟨x, hxk, rfl⟩ := hv
          obtain ⟨y, hyk, rfl⟩ := hv'
          exact ih k x y hxk hyk (hx _ (mem_of_lookup hxk)) (hy _ (mem_of_lookup hyk))

theorem eq_of_same_number {n n' : Number} (h : Same (.number n) (.number n')) : n = n' := by
  cases h
  rfl

/-- If what is `kept` is the `Same`, numerals are `Alike`. -/
theorem sameBy_of_same_kept {x y : Exact} (hx : x.DistinctKeys) (hy : y.DistinctKeys)
    (h : Same x.kept y.kept) : SameBy Numeral.Alike x y := by
  induction hx generalizing y with
  | null =>
    cases y <;> cases h
    exact .null
  | boolean b =>
    cases y <;> cases h
    exact .boolean b
  | number a =>
    cases y with
    | number b => exact .number (eq_of_same_number h)
    | _ => cases h
  | text s =>
    cases y <;> cases h
    exact .text s
  | @list xs _ ih =>
    cases y with
    | list ys =>
      cases hy with
      | list hy =>
        rw [Exact.kept, Exact.kept, keptItems_eq_map, keptItems_eq_map] at h
        cases h with
        | list hlength hitems =>
          refine .list (by simpa using hlength) fun i x y hxi hyi => ?_
          refine ih x (List.mem_of_getElem? hxi) (hy y (List.mem_of_getElem? hyi)) ?_
          exact hitems i _ _ (by simp [hxi]) (by simp [hyi])
    | _ => cases h
  | @object es hnodup _ ih =>
    cases y with
    | object es' =>
      cases hy with
      | object hnodup' hy =>
        rw [Exact.kept, Exact.kept] at h
        cases h with
        | object hkeys hvalues =>
          refine .object (fun k => ?_) fun k x y hxk hyk => ?_
          · simpa [field?_kept k hnodup, field?_kept k hnodup'] using hkeys k
          · refine ih _ (mem_of_lookup hxk) (hy _ (mem_of_lookup hyk)) (hvalues k _ _ ?_ ?_)
            · rw [field?_kept k hnodup, hxk, Option.map_some]
            · rw [field?_kept k hnodup', hyk, Option.map_some]
    | _ => cases h

/-- On `DistinctKeys`, the `Same` is kept just of what is `SameBy Numeral.Alike`. -/
theorem same_kept_iff {x y : Exact} (hx : x.DistinctKeys) (hy : y.DistinctKeys) :
    Same x.kept y.kept ↔ SameBy Numeral.Alike x y :=
  ⟨sameBy_of_same_kept hx hy, fun h => h.kept hx hy⟩

/-! ### An object with one number in it -/

theorem kept_single {k : String} {x : Numeral} {n : Number} (h : x.kept = n) :
    kept (.object [(k, .number x)]) = .object [(k, .number n)] := by
  subst h
  rfl

theorem distinctKeys_single (k : String) (x : Numeral) :
    DistinctKeys (.object [(k, .number x)]) := by
  refine .object (by simp) fun e he => ?_
  rw [List.mem_singleton.mp he]
  exact .number x

theorem sameBy_single_iff {r : Numeral → Numeral → Prop} {k : String} {x y : Numeral} :
    SameBy r (.object [(k, .number x)]) (.object [(k, .number y)]) ↔ r x y := by
  constructor
  · intro h
    cases h with
    | object _ hvalues =>
      cases hvalues k _ _ List.lookup_cons_self List.lookup_cons_self with
      | number h => exact h
  · intro h
    refine .object (fun k' => ?_) fun k' v v' hv hv' => ?_
    · simp only [List.lookup_cons]
      split <;> rfl
    · obtain ⟨rfl, rfl⟩ : k' = k ∧ v = .number x := by
        simpa using mem_of_lookup hv
      simp only [List.lookup_cons_self, Option.some.injEq] at hv'
      exact hv' ▸ .number h

end Exact

end ToolGate.Json

/-
The arguments of every call that the host tells of are well-formed.

* `Contents.WellFormed` — the values in a record whose kind is not yet known, all well-formed.
* `wellFormed_of_readTagged` — what is read of such a record is well-formed, and its kind is one of
  those that are on offer.
* `Field.Keeps` — setting a field from a well-formed value keeps a property of the record;
  `convertContents_keeps` — then so does reading the record as a whole.
* `Event.wellFormed_of_read` — a line is read as a call with well-formed arguments.
-/
import Mathlib
import ToolGate.Host.Event
import ToolGate.Proofs.Json.Reading

namespace ToolGate.Json

variable {α σ : Type}

/-! ## Records whose kind is not yet known -/

/-- All values in the `Contents` are `Json.WellFormed`. -/
def Contents.WellFormed : Contents → Prop
  | .entries fields => ∀ k v, (k, v) ∈ fields → Json.WellFormed v
  | .items values => ∀ v ∈ values, Json.WellFormed v

theorem mem_of_readName {options : List (String × α)} {depth : ℕ} {cs rest : List Char} {a : α}
    (h : Decoder.readName options depth cs = .ok (a, rest)) : a ∈ options.map Prod.snd := by
  simp only [Decoder.readName, Decoder.pick] at h
  split at h
  · cases h
  split at h
  · rename_i a' hpick
    split at hpick
    · rename_i hfind
      cases hpick
      cases h
      exact List.mem_map.mpr ⟨_, List.mem_of_find?_eq_some hfind, rfl⟩
    · cases hpick
  · cases h

theorem wellFormed_of_readTaggedEntries {tag : String}
    {options : List (String × Variant α)} {depth : ℕ} {v : Variant α} {fuel : ℕ} :
    ∀ {first : Bool} {found : Option (Variant α)} {cs rest : List Char} {es : Fields},
    (∀ v' ∈ found, v' ∈ options.map Prod.snd) →
    Tagged.readEntries tag options depth fuel first found cs = .ok ((v, es), rest) →
      v ∈ options.map Prod.snd ∧ (Contents.entries es).WellFormed := by
  induction fuel with
  | zero =>
    intro first found cs rest es _ h
    cases h
  | succ fuel ih =>
    intro first found cs rest es hfound h
    unfold Tagged.readEntries at h
    split at h
    · cases h
    · split at h
      · cases h
      · cases h
        exact ⟨hfound _ rfl, by simp [Contents.WellFormed]⟩
    rename_i key cs' hkey
    split at h
    · split at h
      · cases h
      split at h
      · cases h
      split at h
      · cases h
      · rename_i v' cs' hname
        exact ih (by simpa using mem_of_readName hname) h
    · split at h
      · cases h
      split at h
      · cases h
      · rename_i value cs' hvalue
        obtain ⟨⟨v', es'⟩, hrest, heq⟩ :=
          exists_of_map_ok (f := fun p : Variant α × Fields => (p.1, (key, value) :: p.2)) h
        cases heq
        obtain ⟨hv, hes⟩ := ih hfound hrest
        refine ⟨hv, fun k j hmem => ?_⟩
        rcases List.mem_cons.mp hmem with heq | hmem
        · cases heq
          exact wellFormed_of_readValue hvalue
        · exact hes k j hmem

/-- What `Tagged.read` reads is a kind on offer with `WellFormed` contents. -/
theorem wellFormed_of_readTagged {tag form : String}
    {options : List (String × Variant α)} {depth : ℕ} {cs rest : List Char} {v : Variant α}
    {contents : Contents} (h : Tagged.read tag form options depth cs = .ok ((v, contents), rest)) :
    v ∈ options.map Prod.snd ∧ contents.WellFormed := by
  unfold Tagged.read Decoder.opening at h
  split at h
  · split at h
    · cases h
    · obtain ⟨⟨v', values⟩, hread, heq⟩ :=
        exists_of_map_ok (f := fun p : Variant α × List Json => (p.1, Contents.items p.2)) h
      cases heq
      unfold Tagged.readItems at hread
      split at hread
      · cases hread
      · cases hread
      split at hread
      · cases hread
      · rename_i hname
        obtain ⟨values', hvalues, heq⟩ := exists_of_map_ok (f := fun values => (_, values)) hread
        cases heq
        exact ⟨mem_of_readName hname, wellFormed_of_readItems hvalues⟩
  · split at h
    · cases h
    · obtain ⟨⟨v', es⟩, hread, heq⟩ :=
        exists_of_map_ok (f := fun p : Variant α × Fields => (p.1, Contents.entries p.2)) h
      cases heq
      exact wellFormed_of_readTaggedEntries (by simp) hread
  · cases h

/-! ## Records field by field -/

/-- Setting the field from a `WellFormed` value keeps `P` of the record. -/
def Field.Keeps (P : σ → Prop) (field : Field σ) : Prop :=
  ∀ j set s, j.WellFormed → field.value.convert j = .ok set → P s → P (set s)

variable {P : σ → Prop} {fields : List (Field σ)}

theorem keeps_of_set {name : String} {mandatory : Bool} {d : Decoder α} {set : α → σ → σ}
    (h : ∀ j a s, j.WellFormed → d.convert j = .ok a → P s → P (set a s)) :
    (⟨name, mandatory, d.map set⟩ : Field σ).Keeps P := by
  intro j set' s hj hset hs
  obtain ⟨a, ha, rfl⟩ := exists_of_map_eq_ok hset
  exact h j a s hj ha hs

theorem convertFields_keeps (hfields : ∀ field ∈ fields, field.Keeps P) {es : Fields} :
    ∀ {seen : List String} {s s' : σ}, (∀ k v, (k, v) ∈ es → v.WellFormed) →
      Decoder.convertFields fields seen s es = .ok s' → P s → P s' := by
  induction es with
  | nil =>
    intro seen s s' _ h hs
    unfold Decoder.convertFields at h
    split at h
    · cases h
    · cases h
      exact hs
  | cons entry rest ih =>
    obtain ⟨key, j⟩ := entry
    intro seen s s' hes h hs
    have hrest : ∀ k v, (k, v) ∈ rest → v.WellFormed := fun k v hmem =>
      hes k v (List.mem_cons_of_mem _ hmem)
    unfold Decoder.convertFields at h
    split at h
    · exact ih hrest h hs
    · rename_i field hfind
      split at h
      · cases h
      split at h
      · cases h
      · rename_i set hset
        have hkeeps := hfields field (List.mem_of_find?_eq_some hfind)
        exact ih hrest h (hkeeps j set s (hes key j List.mem_cons_self) hset hs)

theorem convertInOrder_keeps (hfields : ∀ field ∈ fields, field.Keeps P) {expected : String} :
    ∀ {position : ℕ} {s s' : σ} {js left : List Json}, (∀ j ∈ js, j.WellFormed) →
      Decoder.convertInOrder expected fields position s js = .ok (s', left) → P s → P s' := by
  induction fields with
  | nil =>
    intro position s s' js left _ h hs
    cases h
    exact hs
  | cons field fields ih =>
    obtain ⟨hfield, hfields⟩ := List.forall_mem_cons.mp hfields
    intro position s s' js left hjs h hs
    cases js with
    | nil =>
      unfold Decoder.convertInOrder at h
      split at h
      · cases h
      · exact ih hfields hjs h hs
    | cons j js =>
      unfold Decoder.convertInOrder at h
      split at h
      · cases h
      · rename_i set hset
        obtain ⟨hj, hjs⟩ := List.forall_mem_cons.mp hjs
        exact ih hfields hjs h (hfield j set s hj hset hs)

/-- If each field `Keeps` a property, `convertContents` does. -/
theorem convertContents_keeps (hfields : ∀ field ∈ fields, field.Keeps P)
    {form : String} {start s : σ} {contents : Contents} (hcontents : contents.WellFormed)
    (h : convertContents form start fields contents = .ok s) (hstart : P start) : P s := by
  cases contents with
  | entries es => exact convertFields_keeps hfields hcontents h hstart
  | items values =>
    simp only [convertContents] at h
    split at h
    · cases h
    · rename_i hread
      cases h
      exact convertInOrder_keeps hfields hcontents hread hstart
    · cases h

end ToolGate.Json

namespace ToolGate.Host

open Json

/-- The arguments of a call that `Event.read` reads are `WellFormed`. -/
theorem Event.wellFormed_of_read {line : String} {call : ToolCall} {intent : Intent}
    (h : Event.read line = .ok (.beforeCall call intent)) : (Json.object call.args).WellFormed := by
  simp only [Event.read, decodeTagged] at h
  split at h
  · cases h
  rename_i v contents rest hread
  obtain ⟨hv, hcontents⟩ := wellFormed_of_readTagged hread
  split at h
  · cases h
  rename_i ev hconvert
  split at h
  · cases h
  cases h
  simp only [List.map_cons, List.map_nil, List.mem_cons, List.not_mem_nil, or_false] at hv
  rcases hv with rfl | rfl
  · obtain ⟨s, hs, heq⟩ := exists_of_map_eq_ok hconvert
    cases heq
    refine convertContents_keeps (P := fun s => (Json.object s.1.args).WellFormed) ?_ hcontents hs
      (.object (by decide) (by simp))
    intro field hfield
    simp only [List.mem_cons, List.not_mem_nil, or_false] at hfield
    rcases hfield with rfl | rfl | rfl
    · exact keeps_of_set fun _ _ _ _ _ hs => hs
    · refine keeps_of_set fun j args _ hj hargs _ => ?_
      cases j <;> cases hargs
      exact hj
    · exact keeps_of_set fun _ _ _ _ _ hs => hs
  · obtain ⟨s, -, heq⟩ := exists_of_map_eq_ok hconvert
    cases heq

end ToolGate.Host

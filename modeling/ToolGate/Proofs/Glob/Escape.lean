/-
Globs of escaped paths.

* `ownPart` — the part that an escaped character is read as. `read?_escape`, `read?_below`: the
  globs that are read from an escaped path, and from one with two stars before it.
* `At` — some bytes stand between two places of a text. `spans_chars`, `spans_leadingSegments`: what
  these globs span.
* `accepts_iff` — a glob accepts what it matches.
* `accepts_own_iff` — the escaped path stands for the path alone.
* `accepts_below_iff` — with two stars before it, it stands for the path below any folder as well.
-/
import Mathlib
import ToolGate.Glob.Reader
import ToolGate.Proofs.Regular.Search

namespace ToolGate.Glob

open Regular

/-! ## Reading -/

/-- The part that `escapeChar` makes of a character. -/
def ownPart (c : Char) : Part :=
  if c = '?' ∨ c = '*' ∨ c = '[' ∨ c = ']' ∨ c = '\x7b' ∨ c = '\x7d' then .oneOf false [(c, c)]
  else .literal c

/-- One step of `readFrom` reads one `escapeChar`. -/
theorem readFrom_escapeChar {s : State} (hs : s.groups = []) {c : Char} (hc : c ≠ '\\') (fuel : Nat)
    (rest : List Char) :
    ∃ last, readFrom (fuel + 1) s (escapeChar c ++ rest) =
      readFrom fuel (s.push (ownPart c) last) rest := by
  by_cases hspecial : c = '?' ∨ c = '*' ∨ c = '[' ∨ c = ']' ∨ c = '\x7b' ∨ c = '\x7d'
  · -- between brackets it is a class of one character, the closing bracket as well, which comes
    -- first
    refine ⟨']', ?_⟩
    rw [escapeChar, if_pos hspecial, ownPart, if_pos hspecial]
    rcases hspecial with rfl | rfl | rfl | rfl | rfl | rfl <;> rfl
  · -- a comma stands for itself too, as no braces are open
    refine ⟨c, ?_⟩
    rw [escapeChar, if_neg hspecial, ownPart, if_neg hspecial]
    push Not at hspecial
    obtain ⟨hquestion, hstar, hopen, -, hbrace, hclose⟩ := hspecial
    have hstep : s.step c rest = some (s.push (.literal c) c, rest) := by
      simp [State.step, hquestion, hstar, hopen, hbrace, hclose, hc, hs]
    simp only [List.cons_append, List.nil_append, readFrom, hstep]

/-- On `escape cs`, `readFrom` pushes each `ownPart`. -/
theorem readFrom_escape {cs : List Char} (hcs : '\\' ∉ cs) :
    ∀ {fuel : Nat} {s : State}, s.groups = [] → (escape cs).length ≤ fuel →
      readFrom fuel s (escape cs) = some (s.parts.reverse ++ cs.map ownPart) := by
  induction cs with
  | nil =>
    intro fuel s hs _
    simp [escape, readFrom, hs]
  | cons c cs ih =>
    intro fuel s hs hfuel
    rw [List.mem_cons, not_or] at hcs
    have hcons : escape (c :: cs) = escapeChar c ++ escape cs := rfl
    have hpos : 1 ≤ (escapeChar c).length := by
      unfold escapeChar
      split <;> simp
    rw [hcons, List.length_append] at hfuel
    obtain ⟨fuel, rfl⟩ :=
      Nat.exists_eq_add_of_le' (le_trans hpos (le_trans (Nat.le_add_right _ _) hfuel))
    obtain ⟨last, hread⟩ := readFrom_escapeChar hs (Ne.symm hcs.1) fuel (escape cs)
    have hgroups : (s.push (ownPart c) last).groups = [] := hs
    rw [hcons, hread, ih hcs.2 hgroups (by omega)]
    simp [State.push]

/-- The glob of `escape cs`. -/
theorem read?_escape {cs : List Char} (hcs : '\\' ∉ cs) :
    read? (String.ofList (escape cs)) = some ⟨cs.map ownPart⟩ := by
  rw [read?, String.toList_ofList, readFrom_escape hcs rfl le_rfl]
  rfl

/-- The glob of `"**/"` and `escape cs`. -/
theorem read?_below {cs : List Char} (hcs : '\\' ∉ cs) :
    read? ("**/" ++ String.ofList (escape cs)) = some ⟨.leadingSegments :: cs.map ownPart⟩ := by
  have htext : ("**/" ++ String.ofList (escape cs)).toList = '*' :: '*' :: '/' :: escape cs := by
    simp [String.toList_append]
  have hstars :
      readFrom (escape cs).length.succ.succ.succ ⟨[], [], none⟩ ('*' :: '*' :: '/' :: escape cs) =
      readFrom (escape cs).length.succ.succ ⟨[], [.leadingSegments], some '/'⟩ (escape cs) := rfl
  rw [read?, htext]
  simp only [List.length_cons]
  rw [hstars, readFrom_escape hcs rfl (by omega)]
  rfl

/-! ## What literal parts span -/

/-- The bytes `bs` stand at `i`, up to `j`. -/
def At (t bs : List UInt8) (i j : Nat) : Prop :=
  ∃ before after, t = before ++ bs ++ after ∧ before.length = i ∧ i + bs.length = j

/-- The relation `Spans` for byte expressions. -/
abbrev SpansBytes (t : List UInt8) (e : ByteExpr) (i j : Nat) : Prop :=
  Spans ByteSet.has (fun e _ _ => nomatch e) t e i j

section

variable {t as bs : List UInt8} {i j k : Nat}

theorem at_nil : At t [] i j ↔ i ≤ t.length ∧ j = i := by
  constructor
  · rintro ⟨before, after, rfl, rfl, rfl⟩
    simp
  · rintro ⟨hi, rfl⟩
    exact ⟨t.take j, t.drop j, by simp, by simpa using hi, rfl⟩

theorem at_single {b : UInt8} : At t [b] i j ↔ t[i]? = some b ∧ j = i + 1 := by
  constructor
  · rintro ⟨before, after, rfl, rfl, rfl⟩
    simp
  · rintro ⟨hb, rfl⟩
    obtain ⟨hlt, rfl⟩ := List.getElem?_eq_some_iff.mp hb
    exact ⟨t.take i, t.drop (i + 1), by simp, by simp [hlt.le], rfl⟩

theorem at_append : At t (as ++ bs) i k ↔ ∃ j, At t as i j ∧ At t bs j k := by
  constructor
  · rintro ⟨before, after, rfl, rfl, rfl⟩
    refine ⟨before.length + as.length, ⟨before, bs ++ after, by simp, rfl, rfl⟩,
      before ++ as, after, by simp, by simp, by simp [Nat.add_assoc]⟩
  · rintro ⟨_, ⟨before, after, rfl, rfl, rfl⟩, before', after', htext, hlength, rfl⟩
    rw [← List.length_append] at hlength
    have hbefore : before ++ as = before' := by
      rw [List.append_assoc before'] at htext
      exact List.append_inj_left htext hlength.symm
    refine ⟨before, after', ?_, rfl, by simp [Nat.add_assoc]⟩
    rw [htext, ← hbefore, List.append_assoc before]

/-- Up to the end, `At` is a suffix. -/
theorem at_end : At t bs i t.length ↔ ∃ before, t = before ++ bs ∧ before.length = i := by
  constructor
  · rintro ⟨before, after, htext, hbefore, hlength⟩
    rw [htext, List.length_append, List.length_append, ← hbefore] at hlength
    obtain rfl : after = [] := List.length_eq_zero_iff.mp (by omega)
    exact ⟨before, by rw [htext, List.append_nil], hbefore⟩
  · rintro ⟨before, rfl, rfl⟩
    exact ⟨before, [], (List.append_nil _).symm, rfl, List.length_append.symm⟩

theorem spans_byte {b : UInt8} : SpansBytes t (byte b) i j ↔ At t [b] i j := by
  rw [at_single]
  have hhas : ∀ c, (⟨false, [(b, b)]⟩ : ByteSet).has c = true ↔ c = b := by
    intro c
    have hbetween : ByteSet.has ⟨false, [(b, b)]⟩ c = (decide (b ≤ c) && decide (c ≤ b)) := by
      simp [ByteSet.has]
    rw [hbetween, Bool.and_eq_true, decide_eq_true_eq, decide_eq_true_eq]
    exact ⟨fun h => UInt8.le_antisymm h.2 h.1, fun h => h ▸ ⟨UInt8.le_refl _, UInt8.le_refl _⟩⟩
  constructor
  · rintro (_ | ⟨hc, hbyte⟩)
    exact ⟨(hhas _).mp hbyte ▸ hc, rfl⟩
  · rintro ⟨hb, rfl⟩
    exact .one hb ((hhas b).mpr rfl)

theorem spans_empty : SpansBytes t .empty i j ↔ At t [] i j := by
  rw [at_nil]
  constructor
  · rintro ⟨hi⟩
    exact ⟨hi, rfl⟩
  · rintro ⟨hi, rfl⟩
    exact .empty hi

theorem spans_seqAll_cons {e : ByteExpr} {es : List ByteExpr} :
    SpansBytes t (.seqAll (e :: es)) i k ↔
      ∃ j, SpansBytes t e i j ∧ SpansBytes t (.seqAll es) j k := by
  cases es with
  | nil =>
    simp only [Expr.seqAll, spans_empty, at_nil]
    constructor
    · exact fun h => ⟨k, h, h.bounds.2, rfl⟩
    · rintro ⟨j, h, -, rfl⟩
      exact h
  | cons e' es =>
    constructor
    · rintro (_ | _ | _ | ⟨hx, hy⟩)
      exact ⟨_, hx, hy⟩
    · rintro ⟨j, hx, hy⟩
      exact .seq hx hy

/-- A sequence of `byte`s spans where they stand `At`. -/
theorem spans_bytes : SpansBytes t (.seqAll (bs.map byte)) i k ↔ At t bs i k := by
  induction bs generalizing i with
  | nil => exact spans_empty
  | cons b bs ih =>
    rw [List.map_cons, spans_seqAll_cons, ← List.singleton_append, at_append]
    simp only [spans_byte, ih]

/-- A sequence of `charExpr`s spans where their bytes stand `At`. -/
theorem spans_chars {cs : List Char} :
    SpansBytes t (.seqAll (cs.map charExpr)) i k ↔ At t (bytesOfText cs) i k := by
  induction cs generalizing i with
  | nil => exact spans_empty
  | cons c cs ih =>
    rw [List.map_cons, spans_seqAll_cons, bytesOfText, List.flatMap_cons, at_append]
    simp only [charExpr, spans_bytes, ih, bytesOfText]

end

/-- The expression of an `ownPart` is the `charExpr`. -/
theorem partExpr_ownPart (c : Char) : partExpr (ownPart c) = charExpr c := by
  by_cases hspecial : c = '?' ∨ c = '*' ∨ c = '[' ∨ c = ']' ∨ c = '\x7b' ∨ c = '\x7d'
  · rw [ownPart, if_pos hspecial]
    rcases hspecial with rfl | rfl | rfl | rfl | rfl | rfl <;> rfl
  · rw [ownPart, if_neg hspecial, partExpr]

theorem isBlank_charExpr (c : Char) : isBlank (charExpr c) = false := by
  have hne : bytesOf c ≠ [] := String.utf8EncodeChar_ne_nil
  obtain ⟨b, bs, hbytes⟩ := List.exists_cons_of_ne_nil hne
  rw [charExpr, hbytes]
  cases bs <;> rfl

/-- No `ownPart` is dropped from the expression. -/
theorem filter_partExprs (cs : List Char) :
    (partExprs (cs.map ownPart)).filter (!isBlank ·) = cs.map charExpr := by
  induction cs with
  | nil => rfl
  | cons c cs ih =>
    simp only [List.map_cons, partExprs, partExpr_ownPart]
    rw [List.filter_cons_of_pos (by simp [isBlank_charExpr]), ih]

/-! ## What the globs accept -/

/-- Encoding by `bytesOfText` is injective. -/
theorem bytesOfText_inj {cs ds : List Char} : bytesOfText cs = bytesOfText ds ↔ cs = ds := by
  refine ⟨fun h => ?_, fun h => h ▸ rfl⟩
  have hbytes : (String.ofList cs).toByteArray = (String.ofList ds).toByteArray :=
    congrArg List.toByteArray h
  exact String.ofList_inj.mp (String.toByteArray_inj.mp hbytes)

/-- The program's `accepts` decides `Matches`. -/
theorem accepts_iff {g : Glob} {path : String} : g.accepts path = true ↔ g.Matches path :=
  whole_iff _ _ _ _

theorem matches_iff {g : Glob} {path : String} :
    g.Matches path ↔
      SpansBytes (bytesOfText path.toList) g.expr 0 (bytesOfText path.toList).length :=
  Iff.rfl

theorem expr_own (cs : List Char) : expr ⟨cs.map ownPart⟩ = .seqAll (cs.map charExpr) := by
  rw [← filter_partExprs]
  unfold expr
  split
  · next hparts =>
    cases cs with
    | nil => cases hparts
    | cons c cs =>
      rw [List.map_cons, List.cons.injEq] at hparts
      have hne : ownPart c ≠ .leadingSegments := by
        unfold ownPart
        split <;> nofun
      exact absurd hparts.1 hne
  · rfl

/-- The glob of `escape cs` accepts `cs` and nothing else. -/
theorem accepts_own_iff {cs : List Char} {path : String} :
    accepts ⟨cs.map ownPart⟩ path = true ↔ path.toList = cs := by
  rw [accepts_iff, matches_iff, expr_own, spans_chars, at_end]
  simp [List.length_eq_zero_iff, bytesOfText_inj]

section

variable {t : List UInt8} {i j : Nat}

/-- The starred `anyByte` spans everything. -/
theorem spans_anyBytes (hij : i ≤ j) (hj : j ≤ t.length) : SpansBytes t anyByte.star i j := by
  induction hij using Nat.decreasingInduction with
  | self => exact .stop hj
  | of_succ i hlt ih =>
    have hbyte : t[i]? = some t[i] := List.getElem?_eq_getElem (by omega)
    exact .more (.one hbyte rfl) ih nofun

/-- What `leadingSegments` spans is empty or ends in a slash. -/
theorem spans_leadingSegments :
    SpansBytes t (partExpr .leadingSegments) i j ↔
      At t [] i j ∨ i < j ∧ At t [0x2F] (j - 1) j := by
  constructor
  · rintro (_ | _ | _ | _ | h | h)
    · obtain ⟨hi, n, -, hn, hsteps⟩ := spans_many_iff.mp h
      have hone := hn 1 rfl
      obtain rfl | rfl : n = 0 ∨ n = 1 := by omega
      · obtain rfl : i = j := hsteps
        exact .inl (at_nil.mpr ⟨hi, rfl⟩)
      · obtain ⟨k, hslash, rfl⟩ := hsteps
        have hbyte := spans_byte.mp hslash
        obtain ⟨-, rfl⟩ := at_single.mp hbyte
        exact .inr ⟨Nat.lt_succ_self i, hbyte⟩
    · obtain ⟨⟩ := h
      next k hany hslash =>
        have hbyte := spans_byte.mp hslash
        obtain ⟨-, rfl⟩ := at_single.mp hbyte
        exact .inr ⟨Nat.lt_succ_of_le hany.bounds.1, hbyte⟩
  · rintro (hnil | ⟨hlt, hbyte⟩)
    · obtain ⟨hi, rfl⟩ := at_nil.mp hnil
      exact .left (.stop hi)
    · obtain ⟨hslash, -⟩ := at_single.mp hbyte
      obtain ⟨hbefore, -⟩ := List.getElem?_eq_some_iff.mp hslash
      exact .right (.seq (spans_anyBytes (by omega) hbefore.le) (spans_byte.mpr hbyte))

end

/-- The glob of `"**/"` and `escape cs` accepts `cs` and whatever ends in a slash and `cs`; with
empty `cs`, everything. -/
theorem accepts_below_iff {cs : List Char} {path : String} :
    accepts ⟨.leadingSegments :: cs.map ownPart⟩ path = true ↔
      cs = [] ∨ path.toList = cs ∨ bytesOfText ('/' :: cs) <:+ bytesOfText path.toList := by
  rw [accepts_iff, matches_iff]
  cases cs with
  | nil =>
    -- two stars alone: the slash after them is no part of the glob
    simp only [true_or, iff_true]
    exact spans_anyBytes (Nat.zero_le _) le_rfl
  | cons c cs =>
    have hexpr : expr ⟨.leadingSegments :: (c :: cs).map ownPart⟩ =
        .seqAll (partExpr .leadingSegments :: (c :: cs).map charExpr) := by
      rw [← filter_partExprs]
      rfl
    rw [hexpr, spans_seqAll_cons]
    simp only [spans_leadingSegments, spans_chars]
    have hslash : bytesOfText ('/' :: c :: cs) = [0x2F] ++ bytesOfText (c :: cs) := rfl
    constructor
    · rintro ⟨j, hnil | ⟨-, hbyte⟩, hrest⟩
      · obtain ⟨-, rfl⟩ := at_nil.mp hnil
        obtain ⟨before, htext, hlength⟩ := at_end.mp hrest
        rw [List.length_eq_zero_iff.mp hlength, List.nil_append, bytesOfText_inj] at htext
        exact .inr (.inl htext)
      · obtain ⟨before, htext, -⟩ := at_end.mp (at_append.mpr ⟨j, hbyte, hrest⟩)
        exact .inr (.inr ⟨before, htext.symm⟩)
    · rintro (hnil | hsame | ⟨before, hbefore⟩)
      · cases hnil
      · exact ⟨0, .inl (at_nil.mpr ⟨Nat.zero_le _, rfl⟩), at_end.mpr ⟨[], by rw [hsame]; rfl, rfl⟩⟩
      · obtain ⟨j, hbyte, hrest⟩ := at_append.mp (at_end.mpr ⟨before, hslash ▸ hbefore.symm, rfl⟩)
        obtain rfl := (at_single.mp hbyte).2
        exact ⟨_, .inr ⟨Nat.succ_pos _, hbyte⟩, hrest⟩

end ToolGate.Glob

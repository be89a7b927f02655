/-
No object is written inside another one's text up to its end and after a colon.

A reader that passes over a text of a value keeps account of the brackets that are open and of
whether it stands in quotes. It comes out of a value as it went in. Started in quotes where there
are none, it takes every text for the gap between two texts and every gap for a text, and stays so
opposed up to the end: a backslash, which could bring it back, is written in quotes only, and for
such a reader a backslash outside of them is the end of the matter.

* `Standing`, `walk` — the account, and how characters change it.
* `walk_render` — a reader comes out of a value where it went in.
* `Opposed.walk` — a reader in quotes where there are none stays opposed.
* `not_colon_object_suffix` — the text of an object does not end in a colon and an object.
-/
import Mathlib
import ToolGate.Json.Printer
import ToolGate.Proofs.Json.Readability

namespace ToolGate.Json

/-! ## The account of a reader -/

/-- Where a reader stands in the text of a `.list` or an `.object`. -/
inductive Standing where
  /-- Outside of quotes, with `depth` brackets open beside the first one. -/
  | outside (depth : ℕ)
  /-- In quotes. -/
  | quoted (depth : ℕ)
  /-- In quotes, after a backslash. -/
  | escaped (depth : ℕ)
  /-- After the bracket that closes the first one. -/
  | closed
  /-- Where no text leads. -/
  | lost
  deriving DecidableEq

namespace Standing

/-- One bracket fewer is open. -/
def close : ℕ → Standing
  | 0 => closed
  | depth + 1 => outside depth

/-- One character on. -/
def step : Standing → Char → Standing
  | outside depth, c =>
    if c = '"' then quoted depth
    else if c = '\\' then lost
    else if c = '[' ∨ c = '\x7b' then outside (depth + 1)
    else if c = ']' ∨ c = '\x7d' then close depth
    else outside depth
  | quoted depth, c =>
    if c = '"' then outside depth else if c = '\\' then escaped depth else quoted depth
  | escaped depth, _ => quoted depth
  | closed, _ => lost
  | lost, _ => lost

/-- The `step`s over characters. -/
def walk (p : Standing) (cs : List Char) : Standing := cs.foldl step p

@[simp] theorem walk_nil (p : Standing) : walk p [] = p := rfl

@[simp] theorem walk_cons (p : Standing) (c : Char) (cs : List Char) :
    walk p (c :: cs) = walk (step p c) cs := rfl

@[simp] theorem walk_append (p : Standing) (cs ds : List Char) :
    walk p (cs ++ ds) = walk (walk p cs) ds := List.foldl_append

theorem walk_lost (cs : List Char) : walk lost cs = lost := by
  induction cs with
  | nil => rfl
  | cons c cs ih => exact ih

/-! ## Through a value -/

theorem walk_escapeChar (depth : ℕ) (c : Char) :
    walk (quoted depth) (escapeChar c) = quoted depth := by
  have hhex : ∀ n < 16, hexDigit n ≠ '"' ∧ hexDigit n ≠ '\\' := by decide
  unfold escapeChar
  split_ifs with hquote hbackslash hb hf hn hr ht hcontrol
  iterate 7 simp [step]
  · obtain ⟨hhigh, hhigh'⟩ := hhex (c.toNat / 16) (by omega)
    obtain ⟨hlow, hlow'⟩ := hhex (c.toNat % 16) (by omega)
    simp [step, hhigh, hhigh', hlow, hlow']
  · simp [step, hquote, hbackslash]

theorem walk_escape (depth : ℕ) (cs : List Char) :
    walk (quoted depth) (escape cs) = quoted depth := by
  induction cs with
  | nil => rfl
  | cons c cs ih => rw [escape, walk_append, walk_escapeChar, ih]

theorem walk_renderText (depth : ℕ) (s : String) :
    walk (outside depth) (renderText s) = outside depth := by
  simp [renderText, step, walk_escape]

theorem walk_numeral (depth : ℕ) {cs : List Char} (h : cs.all Decimal.isNumeralChar = true) :
    walk (outside depth) cs = outside depth := by
  induction cs with
  | nil => rfl
  | cons c cs ih =>
    rw [List.all_cons, Bool.and_eq_true] at h
    have hne : ∀ d, Decimal.isNumeralChar d = false → c ≠ d := by
      rintro d hd rfl
      rw [hd] at h
      exact absurd h.1 (by decide)
    have hstep : step (outside depth) c = outside depth := by
      simp [step, hne '"' rfl, hne '\\' rfl, hne '[' rfl, hne '\x7b' rfl,
        hne ']' rfl, hne '\x7d' rfl]
    rw [walk_cons, hstep, ih h.2]

theorem walk_renderBoolean (depth : ℕ) (b : Bool) :
    walk (outside depth) (renderBoolean b) = outside depth := by
  cases b <;> simp [renderBoolean, step]

mutual

/-- A `render` leaves the reader where it found it. -/
theorem walk_render (depth : ℕ) : ∀ j : Json, walk (outside depth) j.render = outside depth
  | .null => by simp [render, step]
  | .boolean b => by rw [render, walk_renderBoolean]
  | .number n => by rw [render, walk_numeral depth (renderNumber_all n)]
  | .text s => by rw [render, walk_renderText]
  | .list [] => by simp [render, step, close]
  | .list (x :: xs) => by
    simp [render, step, walk_render (depth + 1) x, walk_renderItems (depth + 1) xs, close]
  | .object [] => by simp [render, step, close]
  | .object ((k, v) :: rest) => by
    simp [render, step, walk_renderText, walk_render (depth + 1) v,
      walk_renderFields (depth + 1) rest, close]

/-- The rest of a list closes one bracket. -/
theorem walk_renderItems (depth : ℕ) :
    ∀ xs : List Json, walk (outside depth) (renderItems xs) = close depth
  | [] => by simp [renderItems, step]
  | x :: xs => by
    simp [renderItems, step, walk_render depth x, walk_renderItems depth xs]

/-- The rest of an object closes one bracket. -/
theorem walk_renderFields (depth : ℕ) :
    ∀ fs : Fields, walk (outside depth) (renderFields fs) = close depth
  | [] => by simp [renderFields, step]
  | (k, v) :: rest => by
    simp [renderFields, step, walk_renderText, walk_render depth v, walk_renderFields depth rest]

end

/-- Behind its bracket, the `render` of an object is `closed` at its last character and not
before. -/
theorem exists_body (fs : Fields) :
    ∃ body, render (.object fs) = '\x7b' :: body ∧ walk (outside 0) body = closed := by
  match fs with
  | [] => exact ⟨['\x7d'], by rw [render], by simp [step, close]⟩
  | (k, v) :: rest =>
    refine ⟨_, by rw [render], ?_⟩
    simp [step, walk_renderText, walk_render, walk_renderFields, close]

/-! ## A reader that stands in quotes where there are none -/

/-- The second reader is `lost`, or is `quoted` just where the first is not. -/
def Opposed (p q : Standing) : Prop :=
  q = lost ∨
    match p with
    | outside _ | closed => ∃ depth, q = quoted depth
    | quoted _ => (∃ depth, q = outside depth) ∨ q = closed
    | escaped _ => False
    | lost => True

theorem Opposed.step {p q : Standing} (h : Opposed p q) (c : Char) :
    Opposed (step p c) (step q c) := by
  rcases h with rfl | h
  · exact .inl rfl
  match p, h with
  | outside depth, ⟨depth', hq⟩ =>
    subst hq
    by_cases hquote : c = '"'
    · exact .inr (by simp [Standing.step, hquote])
    by_cases hbackslash : c = '\\'
    · exact .inr (by simp [Standing.step, hbackslash])
    have hquoted : Standing.step (quoted depth') c = quoted depth' := by
      simp [Standing.step, hquote, hbackslash]
    rw [hquoted]
    refine .inr ?_
    simp only [Standing.step, if_neg hquote, if_neg hbackslash]
    split_ifs
    · exact ⟨depth', rfl⟩
    · cases depth <;> exact ⟨depth', rfl⟩
    · exact ⟨depth', rfl⟩
  | closed, _ => exact .inr trivial
  | lost, _ => exact .inr trivial
  | quoted depth, .inr hq =>
    subst hq
    exact .inl rfl
  | quoted depth, .inl ⟨depth', hq⟩ =>
    subst hq
    by_cases hquote : c = '"'
    · exact .inr (by simp [Standing.step, hquote])
    by_cases hbackslash : c = '\\'
    · exact .inl (by simp [Standing.step, hbackslash])
    have hquoted : Standing.step (quoted depth) c = quoted depth := by
      simp [Standing.step, hquote, hbackslash]
    rw [hquoted]
    refine .inr ?_
    simp only [Standing.step, if_neg hquote, if_neg hbackslash]
    split_ifs
    · exact .inl ⟨_, rfl⟩
    · cases depth' with
      | zero => exact .inr rfl
      | succ depth' => exact .inl ⟨depth', rfl⟩
    · exact .inl ⟨_, rfl⟩

theorem Opposed.walk {p q : Standing} (h : Opposed p q) (cs : List Char) :
    Opposed (walk p cs) (walk q cs) := by
  induction cs generalizing p q with
  | nil => exact h
  | cons c cs ih => exact ih (h.step c)

/-- From no `Standing` but `escaped` does the `render` of an object lead to `closed`. -/
theorem walk_object_ne_closed (fs : Fields) {p : Standing} (hp : ∀ depth, p ≠ escaped depth) :
    walk p (render (.object fs)) ≠ closed := by
  intro hclosed
  cases p with
  | outside depth => simp [walk_render] at hclosed
  | quoted depth =>
    -- the object's own reader ends outside of quotes, so the one opposed to it ends in quotes
    have hopposed : Opposed (outside 0) (quoted depth) := .inr ⟨depth, rfl⟩
    have hend := hopposed.walk (render (.object fs))
    rw [hclosed, walk_render] at hend
    rcases hend with hlost | ⟨depth', hquoted⟩
    · exact absurd hlost (by decide)
    · exact absurd hquoted (by simp)
  | escaped depth => exact hp depth rfl
  | closed =>
    obtain ⟨body, hbody, -⟩ := exists_body fs
    rw [hbody, walk_cons, step, walk_lost] at hclosed
    exact absurd hclosed (by decide)
  | lost =>
    rw [walk_lost] at hclosed
    exact absurd hclosed (by decide)

theorem step_colon (p : Standing) (depth : ℕ) : step p ':' ≠ escaped depth := by
  cases p <;> simp [step]

end Standing

/-- No `render` of an object ends in a colon and another one. -/
theorem not_colon_object_suffix (fs fs' : Fields) (cs : List Char) :
    render (.object fs) ≠ cs ++ ':' :: render (.object fs') := by
  intro h
  obtain ⟨body, hbody, hclosed⟩ := Standing.exists_body fs
  rw [hbody] at h
  cases cs with
  | nil => simp at h
  | cons c cs =>
    rw [List.cons_append, List.cons.injEq] at h
    rw [h.2, Standing.walk_append, Standing.walk_cons] at hclosed
    exact Standing.walk_object_ne_closed fs' (Standing.step_colon _) hclosed

end ToolGate.Json

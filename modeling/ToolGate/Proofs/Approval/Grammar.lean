/-
A message gives the first command that is written in it, and nothing else.

* `Names`, `Reads` — the grammar: what stands at a place where a command of a verdict is written.
* `Starts`, `CommandAt`, `Leftmost` — where one may start, where one is, and the first of them.
* `readCommand_eq_some` — the reader of commands follows the grammar.
* `findCommand_eq_some` — the first command is found; `findCommand_trim`: trimming does not matter.
* `commands_follow_grammar` — the command that a message gives.
-/
import Mathlib
import ToolGate.Proofs.Approval.Command

namespace ToolGate.Approval

open Text (isBlank)

/-! ## The grammar -/

/-- What may stand before a command: the slashed word and blanks, or nothing. -/
inductive Lead (word : List Char) : List Char → Prop where
  | none : Lead word []
  | word {verb blanks : List Char} (h : InAnyCase word verb) (hblanks : Blanks blanks) :
      Lead word ('/' :: (verb ++ blanks))

/-- A word, blanks, an id in `RequestId.groups`, and any rest. -/
inductive Names (word idText : List Char) : List Char → Prop where
  | intro {verb blanks : List Char} (h : InAnyCase word verb) (hblanks : Blanks blanks)
      (hid : RequestId.InGroups RequestId.groups idText) (rest : List Char) :
      Names word idText (verb ++ blanks ++ idText ++ rest)

/-- A command and any rest: a `Lead`, a slash or none, and what `Names` the id. -/
inductive Reads (word idText : List Char) : List Char → Prop where
  | intro {lead slash cs : List Char} (hlead : Lead word lead) (hslash : slash = [] ∨ slash = ['/'])
      (h : Names word idText cs) : Reads word idText (lead ++ slash ++ cs)

/-- Positions at which a command may start: the first, and every one after a blank. -/
def Starts (cs : List Char) : ℕ → Prop
  | 0 => True
  | i + 1 => ∃ c, cs[i]? = some c ∧ isBlank c = true

/-- At position `i` a command `Reads` the id text. -/
structure CommandAt (verdict : Verdict) (cs : List Char) (i : ℕ) (idText : List Char) : Prop where
  starts : Starts cs i
  reads : Reads verdict.name.toList idText (cs.drop i)

/-- The first `CommandAt` of the verdict is about `id`. -/
def Leftmost (verdict : Verdict) (cs : List Char) (id : RequestId) : Prop :=
  ∃ i idText, CommandAt verdict cs i idText ∧ InAnyCase id.toChars idText ∧
    ∀ j < i, ∀ other, ¬ CommandAt verdict cs j other

/-! ## The reader follows it -/

section

variable {word cs rest idText : List Char} {id : RequestId}

theorem exists_of_afterBlanks? (h : afterBlanks? cs = some rest) :
    ∃ blanks, cs = blanks ++ rest ∧ Blanks blanks := by
  cases cs with
  | nil => simp [afterBlanks?] at h
  | cons c cs =>
    simp only [afterBlanks?] at h
    split at h
    · rename_i hc
      obtain rfl := Option.some.inj h
      refine ⟨c :: cs.takeWhile isBlank, by simp [List.takeWhile_append_dropWhile], by simp, ?_⟩
      rw [List.forall_mem_cons]
      exact ⟨hc, fun d hd => List.mem_takeWhile_imp hd⟩
    · simp at h

theorem exists_of_readWordAndId (h : readWordAndId word cs = some id) :
    ∃ idText, Names word idText cs ∧ InAnyCase id.toChars idText := by
  obtain ⟨ds, hword, h⟩ := Option.bind_eq_some_iff.mp h
  obtain ⟨es, hblanks, h⟩ := Option.bind_eq_some_iff.mp h
  obtain ⟨⟨id', rest⟩, hscan, h⟩ := Option.bind_eq_some_iff.mp h
  obtain rfl := Option.some.inj h
  obtain ⟨verb, rfl, hverb⟩ := exists_of_afterWord? hword
  obtain ⟨blanks, rfl, hbetween⟩ := exists_of_afterBlanks? hblanks
  obtain ⟨idText, rfl, hgroups, hid⟩ := RequestId.exists_of_scan hscan
  exact ⟨idText, by simpa using Names.intro hverb hbetween hgroups rest, hid⟩

theorem exists_afterSlash (cs : List Char) :
    ∃ slash, (slash = [] ∨ slash = ['/']) ∧ cs = slash ++ afterSlash cs := by
  unfold afterSlash
  split
  · exact ⟨['/'], .inr rfl, rfl⟩
  · exact ⟨[], .inl rfl, rfl⟩

theorem Lead.reads_of_readOnce {lead : List Char} (hlead : Lead word lead)
    (h : readOnce word cs = some id) :
    ∃ idText, Reads word idText (lead ++ cs) ∧ InAnyCase id.toChars idText := by
  obtain ⟨idText, hnames, hid⟩ := exists_of_readWordAndId h
  obtain ⟨slash, hslash, heq⟩ := exists_afterSlash cs
  refine ⟨idText, ?_, hid⟩
  rw [heq, ← List.append_assoc]
  exact .intro hlead hslash hnames

/-- Soundness of `readCommand`: what it reads, `Reads` describes. -/
theorem exists_of_readCommand (h : readCommand word cs = some id) :
    ∃ idText, Reads word idText cs ∧ InAnyCase id.toChars idText := by
  rw [readCommand, Option.orElse_eq_orElse, Option.orElse_eq_or, Option.or_eq_some_iff] at h
  rcases h with htwice | ⟨-, honce⟩
  · unfold readTwice at htwice
    split at htwice
    · obtain ⟨ds, hword, htwice⟩ := Option.bind_eq_some_iff.mp htwice
      obtain ⟨es, hblanks, honce⟩ := Option.bind_eq_some_iff.mp htwice
      obtain ⟨verb, rfl, hverb⟩ := exists_of_afterWord? hword
      obtain ⟨blanks, rfl, hbetween⟩ := exists_of_afterBlanks? hblanks
      simpa using (Lead.word hverb hbetween).reads_of_readOnce honce
    · simp at htwice
  · simpa using Lead.none.reads_of_readOnce honce

end

section

variable {verdict : Verdict} {cs ds idText : List Char} {id : RequestId}

theorem Names.fronted {slash : List Char} (h : Names verdict.name.toList idText cs)
    (hid : InAnyCase id.toChars idText) (hslash : slash = [] ∨ slash = ['/']) :
    Fronted verdict.name.toList id (slash ++ cs) ∧
      readOnce verdict.name.toList (slash ++ cs) = some id := by
  obtain ⟨hverb, hblanks, -, rest⟩ := h
  rcases hslash with rfl | rfl
  · simpa using
      And.intro (fronted_plain hverb hblanks hid rest) (readOnce_plain hverb hblanks hid rest)
  · simpa using
      And.intro (fronted_slashed hverb hblanks hid rest) (readOnce_slashed hverb hblanks hid rest)

theorem Reads.fronted (h : Reads verdict.name.toList idText cs)
    (hid : InAnyCase id.toChars idText) :
    Fronted verdict.name.toList id cs := by
  obtain ⟨hlead, hslash, hnames⟩ := h
  obtain ⟨htail, hread⟩ := hnames.fronted hid hslash
  cases hlead with
  | none => simpa using htail
  | word hverb hblanks => simpa using htail.lead hverb hblanks hread

theorem head?_of_inAnyCase (h : InAnyCase verdict.name.toList ds) (rest : List Char) :
    verdict.name.toList.head? = (ds ++ rest).head?.map Action.lowerAscii := by
  obtain ⟨c, more, rfl, -⟩ := exists_head h
  rw [← h]
  rfl

/-- What `Reads` starts with the first letter of the word, after a slash if there is one. -/
theorem Reads.head?_name (h : Reads verdict.name.toList idText cs) :
    verdict.name.toList.head? = (afterSlash cs).head?.map Action.lowerAscii := by
  obtain ⟨hlead, hslash, ⟨hverb, hblanks, -, rest⟩⟩ := h
  simp only [List.append_assoc]
  cases hlead with
  | word hfirst hbetween =>
    simp only [List.cons_append, List.append_assoc, afterSlash]
    exact head?_of_inAnyCase hfirst _
  | none =>
    rcases hslash with rfl | rfl
    · obtain ⟨c, more, rfl, -, hc⟩ := exists_head hverb
      simp only [List.nil_append, List.cons_append, afterSlash_of_ne hc]
      exact head?_of_inAnyCase hverb _
    · exact head?_of_inAnyCase hverb _

theorem Reads.inGroups (h : Reads verdict.name.toList idText cs) :
    RequestId.InGroups RequestId.groups idText := by
  obtain ⟨-, -, ⟨-, -, hgroups, -⟩⟩ := h
  exact hgroups

/-- The reader `readCommand` and the grammar `Reads` agree. -/
theorem readCommand_eq_some :
    readCommand verdict.name.toList cs = some id ↔
      ∃ idText, Reads verdict.name.toList idText cs ∧ InAnyCase id.toChars idText := by
  constructor
  · exact exists_of_readCommand
  · rintro ⟨idText, hreads, hid⟩
    exact (hreads.fronted hid).command

/-- No text `Reads` as commands of both verdicts: the words differ in their first letters. -/
theorem Reads.verdict_unique {verdict' : Verdict} {idText' : List Char}
    (h : Reads verdict.name.toList idText cs) (h' : Reads verdict'.name.toList idText' cs) :
    verdict = verdict' := by
  have hletter : verdict.name.toList.head? = verdict'.name.toList.head? :=
    h.head?_name.trans h'.head?_name.symm
  cases verdict <;> cases verdict' <;> simp [Verdict.name] at hletter ⊢

end

/-! ## The first command is found -/

section

variable {verdict : Verdict} {cs idText : List Char} {id : RequestId}

/-- The `readCommand` of position `i`, if the position `Starts` a command. -/
def readAt (word cs : List Char) : ℕ → Option RequestId
  | 0 => readCommand word cs
  | i + 1 => cs[i]?.bind fun c => if isBlank c then readCommand word (cs.drop (i + 1)) else none

theorem readAt_eq_some {i : ℕ} :
    readAt verdict.name.toList cs i = some id ↔
      ∃ idText, CommandAt verdict cs i idText ∧ InAnyCase id.toChars idText := by
  have hstarts : readAt verdict.name.toList cs i = some id ↔
      Starts cs i ∧ readCommand verdict.name.toList (cs.drop i) = some id := by
    cases i with
    | zero => simp [readAt, Starts]
    | succ i => simp [readAt, Starts, Option.bind_eq_some_iff, ← and_assoc, exists_and_right]
  rw [hstarts, readCommand_eq_some]
  constructor
  · rintro ⟨hstart, idText, hreads, hid⟩
    exact ⟨idText, ⟨hstart, hreads⟩, hid⟩
  · rintro ⟨idText, ⟨hstart, hreads⟩, hid⟩
    exact ⟨hstart, idText, hreads, hid⟩

theorem readAt_eq_none {i : ℕ} :
    readAt verdict.name.toList cs i = none ↔ ∀ idText, ¬ CommandAt verdict cs i idText := by
  rw [← not_iff_not, ← ne_eq, Option.ne_none_iff_exists']
  push Not
  constructor
  · rintro ⟨id, hid⟩
    obtain ⟨idText, hat, -⟩ := readAt_eq_some.mp hid
    exact ⟨idText, hat⟩
  · rintro ⟨idText, hat⟩
    obtain ⟨id, hid, -⟩ := hat.reads.inGroups.existsUnique_id
    exact ⟨id, readAt_eq_some.mpr ⟨idText, hat, hid⟩⟩

/-- First hits of `f` from `0` on: at `0`, or the first hit after it. -/
theorem exists_first_iff {α : Type} {f : ℕ → Option α} {x : α} :
    (∃ i, f i = some x ∧ ∀ j < i, f j = none) ↔
      f 0 = some x ∨ f 0 = none ∧ ∃ i, f (i + 1) = some x ∧ ∀ j < i, f (j + 1) = none := by
  rw [← Nat.or_exists_add_one]
  simp only [Nat.forall_lt_succ_left, Nat.not_lt_zero, false_imp_iff, implies_true, and_true,
    and_left_comm, exists_and_left]

theorem findAfterBlank_eq_some {word : List Char} :
    ∀ {cs : List Char}, findAfterBlank word cs = some id ↔
      ∃ i, readAt word cs (i + 1) = some id ∧ ∀ j < i, readAt word cs (j + 1) = none
  | [] => by simp [findAfterBlank, readAt]
  | c :: cs => by
    have hone : readAt word (c :: cs) 1 = if isBlank c then readCommand word cs else none := rfl
    have hnext : ∀ i, readAt word (c :: cs) (i + 1 + 1) = readAt word cs (i + 1) := fun i => rfl
    rw [exists_first_iff]
    simp only [Nat.zero_add, hone, hnext, ← findAfterBlank_eq_some]
    rw [findAfterBlank, Option.orElse_eq_orElse, Option.orElse_eq_or]
    by_cases hc : isBlank c = true
    · rw [if_pos hc, if_pos hc, Option.or_eq_some_iff]
    · simp [hc]

/-- The search `findCommand` finds what is `Leftmost`. -/
theorem findCommand_eq_some : findCommand verdict cs = some id ↔ Leftmost verdict cs id := by
  have hfirst : findCommand verdict cs = some id ↔
      ∃ i, readAt verdict.name.toList cs i = some id ∧
        ∀ j < i, readAt verdict.name.toList cs j = none := by
    rw [exists_first_iff, ← findAfterBlank_eq_some]
    simp [findCommand, readAt, Option.or_eq_some_iff]
  rw [hfirst]
  simp only [readAt_eq_some, readAt_eq_none, Leftmost]
  constructor
  · rintro ⟨i, ⟨idText, hat, hid⟩, hnone⟩
    exact ⟨i, idText, hat, hid, hnone⟩
  · rintro ⟨i, idText, hat, hid, hnone⟩
    exact ⟨i, ⟨idText, hat, hid⟩, hnone⟩

/-- If there is any `CommandAt`, one is `Leftmost`. -/
theorem exists_leftmost {i : ℕ} (h : CommandAt verdict cs i idText) :
    ∃ id, Leftmost verdict cs id := by
  classical
  have hsome : ∃ i idText, CommandAt verdict cs i idText := ⟨i, idText, h⟩
  obtain ⟨idText, hat⟩ := Nat.find_spec hsome
  obtain ⟨id, hid, -⟩ := hat.reads.inGroups.existsUnique_id
  exact ⟨id, Nat.find hsome, idText, hat, hid, fun j hj other hother =>
    Nat.find_min hsome hj ⟨other, hother⟩⟩

theorem findCommand_eq_none :
    findCommand verdict cs = none ↔ ∀ i idText, ¬ CommandAt verdict cs i idText := by
  constructor
  · intro hnone i idText hat
    obtain ⟨id, hid⟩ := exists_leftmost hat
    rw [findCommand_eq_some.mpr hid] at hnone
    exact absurd hnone (by simp)
  · intro hnone
    refine Option.eq_none_iff_forall_ne_some.mpr fun id hid => ?_
    obtain ⟨i, idText, hat, -⟩ := findCommand_eq_some.mp hid
    exact hnone i idText hat

/-- At one position, `CommandAt` determines the verdict and the id. -/
theorem CommandAt.unique {verdict' : Verdict} {i : ℕ} {idText' : List Char}
    (h : CommandAt verdict cs i idText) (h' : CommandAt verdict' cs i idText') :
    verdict = verdict' ∧
      ∃! id : RequestId, InAnyCase id.toChars idText ∧ InAnyCase id.toChars idText' := by
  obtain rfl := h.reads.verdict_unique h'.reads
  obtain ⟨id, hid, hunique⟩ := h.reads.inGroups.existsUnique_id
  obtain ⟨id', hid', -⟩ := h'.reads.inGroups.existsUnique_id
  have heq : readAt verdict.name.toList cs i = some id := readAt_eq_some.mpr ⟨idText, h, hid⟩
  rw [readAt_eq_some.mpr ⟨idText', h', hid'⟩] at heq
  cases heq
  exact ⟨rfl, id, ⟨hid, hid'⟩, fun other hother => hunique other hother.1⟩

end

/-! ## Trimming -/

section

variable {verdict : Verdict} {cs idText : List Char}

theorem trimEnd_append {front : List Char} (h : StartsSolid front.reverse) (rest : List Char) :
    Text.trimEnd (front ++ rest) = front ++ Text.trimEnd rest := by
  rw [Text.trimEnd, Text.dropEnd, List.reverse_append, dropWhile_append_solid h,
    List.reverse_append, List.reverse_reverse]
  rfl

theorem Reads.append (h : Reads verdict.name.toList idText cs) (more : List Char) :
    Reads verdict.name.toList idText (cs ++ more) := by
  obtain ⟨hlead, hslash, ⟨hverb, hblanks, hgroups, rest⟩⟩ := h
  simpa using Reads.intro hlead hslash (.intro hverb hblanks hgroups (rest ++ more))

/-- A command ends before the blanks that `Text.trimEnd` drops. -/
theorem Reads.trimEnd (h : Reads verdict.name.toList idText cs) :
    Reads verdict.name.toList idText (Text.trimEnd cs) := by
  obtain ⟨id, hid, -⟩ := h.inGroups.existsUnique_id
  obtain @⟨lead, slash, -, hlead, hslash, @⟨verb, blanks, hverb, hblanks, hgroups, rest⟩⟩ := h
  have hsplit : lead ++ slash ++ (verb ++ blanks ++ idText ++ rest) =
      lead ++ slash ++ verb ++ blanks ++ idText ++ rest := by simp only [List.append_assoc]
  rw [hsplit, trimEnd_append (solid_reverse_idText hid _)]
  simpa using Reads.intro hlead hslash (.intro hverb hblanks hgroups (Text.trimEnd rest))

theorem readCommand_trimEnd (verdict : Verdict) (cs : List Char) :
    readCommand verdict.name.toList (Text.trimEnd cs) = readCommand verdict.name.toList cs := by
  have hreads : ∀ idText, Reads verdict.name.toList idText (Text.trimEnd cs) ↔
      Reads verdict.name.toList idText cs := by
    intro idText
    obtain ⟨blanks, hcs⟩ := Text.trimEnd_prefix cs
    constructor
    · intro h
      rw [← hcs]
      exact h.append blanks
    · exact Reads.trimEnd
  ext id
  simp only [readCommand_eq_some, hreads]

theorem findAfterBlank_trimEnd (verdict : Verdict) :
    ∀ cs, findAfterBlank verdict.name.toList (Text.trimEnd cs) =
      findAfterBlank verdict.name.toList cs
  | [] => rfl
  | c :: cs => by
    have hread := readCommand_trimEnd verdict cs
    have hrest := findAfterBlank_trimEnd verdict cs
    rw [Text.trimEnd_cons]
    split
    · rename_i h
      rw [h.1] at hread hrest
      have hcons : findAfterBlank verdict.name.toList (c :: cs) =
          (readCommand verdict.name.toList cs <|> findAfterBlank verdict.name.toList cs) := by
        rw [findAfterBlank, if_pos h.2]
      rw [hcons, ← hread, ← hrest]
      cases verdict <;> rfl
    · rw [findAfterBlank, findAfterBlank, hread, hrest]

/-- The search `findCommand` does not see the blanks that `Text.trim` drops. -/
theorem findCommand_trim (verdict : Verdict) (cs : List Char) :
    findCommand verdict (Text.trim cs) = findCommand verdict cs := by
  rw [Text.trim, findCommand, readCommand_trimEnd, findAfterBlank_trimEnd]
  exact findCommand_dropWhile verdict cs

end

/-! ## Messages -/

theorem parse?_eq_some_approve {text : String} {id : RequestId} :
    Command.parse? text = some ⟨id, .approve⟩ ↔ Leftmost .approve (Text.trim text.toList) id := by
  rw [← findCommand_eq_some, Command.parse?]
  cases findCommand .approve (Text.trim text.toList) <;> simp

theorem parse?_eq_some_deny {text : String} {id : RequestId} :
    Command.parse? text = some ⟨id, .deny⟩ ↔
      (∀ i idText, ¬ CommandAt .approve (Text.trim text.toList) i idText) ∧
        Leftmost .deny (Text.trim text.toList) id := by
  rw [← findCommand_eq_some, ← findCommand_eq_none, Command.parse?]
  cases findCommand .approve (Text.trim text.toList) <;> simp

theorem parse?_eq_none {text : String} :
    Command.parse? text = none ↔
      ∀ verdict i idText, ¬ CommandAt verdict (Text.trim text.toList) i idText := by
  have hboth : Command.parse? text = none ↔
      ∀ verdict, findCommand verdict (Text.trim text.toList) = none := by
    constructor
    · intro hnone verdict
      simp only [Command.parse?, Option.orElse_eq_orElse, Option.orElse_eq_or,
        Option.or_eq_none_iff, Option.map_eq_none_iff] at hnone
      cases verdict with
      | approve => exact hnone.1
      | deny => exact hnone.2
    · intro hnone
      simp [Command.parse?, hnone]
  simp only [hboth, findCommand_eq_none]

/-- Specification of `Command.parse?`: the `Leftmost` approval; without one, the `Leftmost` denial;
otherwise nothing. `CommandAt` is functional at every position, and `Text.trim` changes nothing. -/
theorem commands_follow_grammar (text : String) :
    let cs := Text.trim text.toList
    (∀ id, Command.parse? text = some ⟨id, .approve⟩ ↔ Leftmost .approve cs id) ∧
      (∀ id, Command.parse? text = some ⟨id, .deny⟩ ↔
        (∀ i idText, ¬ CommandAt .approve cs i idText) ∧ Leftmost .deny cs id) ∧
      (Command.parse? text = none ↔ ∀ verdict i idText, ¬ CommandAt verdict cs i idText) ∧
      (∀ {verdict verdict' i idText idText'}, CommandAt verdict cs i idText →
        CommandAt verdict' cs i idText' → verdict = verdict' ∧
          ∃! id : RequestId, InAnyCase id.toChars idText ∧ InAnyCase id.toChars idText') ∧
      Command.parse? (Text.trimText text) = Command.parse? text ∧
      (∀ verdict id, Leftmost verdict text.toList id ↔ Leftmost verdict cs id) := by
  refine ⟨fun _ => parse?_eq_some_approve, fun _ => parse?_eq_some_deny, parse?_eq_none,
    CommandAt.unique, ?_, fun verdict id => ?_⟩
  · simp only [Command.parse?, Text.trimText, String.toList_ofList, findCommand_trim]
  · rw [← findCommand_eq_some, ← findCommand_eq_some, findCommand_trim]

/-- A denial and an id with too few digits come first; the approval has two slashed words in two
cases, and its id is in capitals. -/
theorem commands_follow_grammar_of_mixed :
    let text := " deny 00000000-0000-0000-0000-000000000001\n/approve 000 /Approve /APPROVE\t " ++
      "00000000-0000-0000-0000-00000000000A, approve 00000000-0000-0000-0000-000000000003 "
    Command.parse? text = some ⟨⟨10⟩, .approve⟩ ∧ Leftmost .approve (Text.trim text.toList) ⟨10⟩ ∧
      Leftmost .approve text.toList ⟨10⟩ := by
  intro text
  obtain ⟨happrove, -, -, -, -, htrim⟩ := commands_follow_grammar text
  have hparse : Command.parse? text = some ⟨⟨10⟩, .approve⟩ := by decide +kernel
  have hleft := (happrove ⟨10⟩).mp hparse
  exact ⟨hparse, hleft, (htrim .approve ⟨10⟩).mpr hleft⟩

end ToolGate.Approval

/-
Which of the rules decides about a call.

The rules are gone through once. The first that covers the call is kept, unless one that blocks
comes after it, which ends the search. In other words the first of those that block decides if there
is one, and the first of all otherwise. Nothing about patterns plays a part in this: it holds for
any way to tell which texts are patterns and where a pattern is found.

* `PatternReading` — such a way; `PatternReading.usual` is the one of this library.
* `PatternReading.matchRules` — the search under any of them. `matchRules_eq_usual`: what the engine
  does is this under the usual one.
* `PatternReading.Candidate` — the rule has a say in a call. `covers_iff`.
* `Says` — what the candidates among some rules say. `says_matchRules`, `matchRules_of_says`: the
  search finds just that.
* `decision_eq_block_iff` — whether rules block does not depend on their order.
* `rules_decide_by_precedence` — all of it together.
-/
import Mathlib
import ToolGate.Rule.Match
import ToolGate.Proofs.Regular.Search

namespace ToolGate

/-! ## Texts read as patterns -/

/-- A way to read texts as patterns, with or without regard to case: the texts in which a pattern is
found, if the text is a pattern at all. -/
structure PatternReading where
  read : (ignoreCase : Bool) → String → Option (String → Bool)

namespace PatternReading

/-- The way of this library, `Pattern.compile`. -/
def usual : PatternReading where
  read ignoreCase text := (Pattern.compile ignoreCase text).map Pattern.accepts

/-- The text is a pattern. -/
def IsPattern (R : PatternReading) (ignoreCase : Bool) (text : String) : Prop :=
  (R.read ignoreCase text).isSome = true

/-- The text is a pattern, and it is found in the target. -/
def FoundIn (R : PatternReading) (ignoreCase : Bool) (text target : String) : Prop :=
  ∃ test, R.read ignoreCase text = some test ∧ test target = true

/-- In the `usual` way, a pattern is found in a text if it spans some stretch of it. -/
theorem foundIn_usual {ignoreCase : Bool} {text target : String} :
    usual.FoundIn ignoreCase text target ↔
      ∃ p, Pattern.compile ignoreCase text = some p ∧ p.Matches target := by
  simp only [FoundIn, usual, Option.map_eq_some_iff]
  constructor
  · rintro ⟨test, ⟨p, hp, rfl⟩, haccepts⟩
    exact ⟨p, hp, (Regular.found_iff ..).mp haccepts⟩
  · rintro ⟨p, hp, hmatches⟩
    exact ⟨p.accepts, ⟨p, hp, rfl⟩, (Regular.found_iff ..).mpr hmatches⟩

/-! ## Candidates -/

section

variable (R : PatternReading) (ignoreCase : Bool) (target : String) (call : ToolCall)
    (intent : Intent)

/-- The text of the clause is no pattern. -/
def isBroken (clause : Option String) : Bool :=
  clause.any fun text => (R.read ignoreCase text).isNone

/-- The clause asks for a pattern that the target has. -/
def asksAndHolds (clause : Option String) : Bool :=
  clause.any fun text => (R.read ignoreCase text).any fun test => test target

/-- The clause asks for nothing, or for a pattern that the target has. -/
def holds (clause : Option String) : Bool :=
  clause.all fun text => (R.read ignoreCase text).all fun test => test target

/-- The rule covers the call: `covers_iff` says that it is a `Candidate`. -/
def covers (rule : Rule) : Bool :=
  !R.isBroken false rule.toolPattern && !R.isBroken true rule.intentPattern &&
    (rule.tool == some call.tool || R.asksAndHolds false call.tool rule.toolPattern) &&
    R.holds true intent.text rule.intentPattern

/-- The rule has a say in the call. -/
structure Candidate (rule : Rule) : Prop where
  /-- What it asks for in the name of the tool is a pattern, where case counts. -/
  toolPattern : ∀ text, rule.toolPattern = some text → R.IsPattern false text
  /-- What it asks for in the goal is a pattern, where case does not count. -/
  intentPattern : ∀ text, rule.intentPattern = some text → R.IsPattern true text
  tool : rule.tool = some call.tool ∨
    ∃ text, rule.toolPattern = some text ∧ R.FoundIn false text call.tool
  goal : ∀ text, rule.intentPattern = some text → R.FoundIn true text intent.text

end

section

variable {R : PatternReading} {ignoreCase : Bool} {target : String} {clause : Option String}
  {call : ToolCall} {intent : Intent}

theorem isBroken_eq_false_iff :
    R.isBroken ignoreCase clause = false ↔
      ∀ text, clause = some text → R.IsPattern ignoreCase text := by
  cases clause <;> simp [isBroken, IsPattern]

theorem asksAndHolds_iff :
    R.asksAndHolds ignoreCase target clause = true ↔
      ∃ text, clause = some text ∧ R.FoundIn ignoreCase text target := by
  cases clause <;> simp [asksAndHolds, FoundIn, Option.any_eq_true]

theorem holds_iff (h : R.isBroken ignoreCase clause = false) :
    R.holds ignoreCase target clause = true ↔
      ∀ text, clause = some text → R.FoundIn ignoreCase text target := by
  cases clause with
  | none => simp [holds]
  | some text =>
    obtain ⟨test, htest⟩ := Option.isSome_iff_exists.mp (isBroken_eq_false_iff.mp h text rfl)
    simp [holds, FoundIn, htest]

theorem covers_iff {rule : Rule} :
    R.covers call intent rule = true ↔ R.Candidate call intent rule := by
  simp only [covers, Bool.and_eq_true, Bool.or_eq_true, Bool.not_eq_true', beq_iff_eq]
  constructor
  · rintro ⟨⟨⟨htool, hgoal⟩, hcall⟩, hintent⟩
    exact ⟨isBroken_eq_false_iff.mp htool, isBroken_eq_false_iff.mp hgoal,
      hcall.imp_right asksAndHolds_iff.mp, (holds_iff hgoal).mp hintent⟩
  · rintro ⟨htool, hgoal, hcall, hintent⟩
    have hgoal' := isBroken_eq_false_iff.mpr hgoal
    exact ⟨⟨⟨isBroken_eq_false_iff.mpr htool, hgoal'⟩, hcall.imp_right asksAndHolds_iff.mpr⟩,
      (holds_iff hgoal').mpr hintent⟩

/-- A `Clause` with its pattern says what its text says in the `usual` way. -/
theorem clause_usual (ignoreCase : Bool) (clause : Option String) (target : String) :
    (Clause.ofText ignoreCase clause).isBroken = usual.isBroken ignoreCase clause ∧
      (Clause.ofText ignoreCase clause).asksAndHolds target =
        usual.asksAndHolds ignoreCase target clause ∧
      (Clause.ofText ignoreCase clause).holds target = usual.holds ignoreCase target clause := by
  cases clause with
  | none => exact ⟨rfl, rfl, rfl⟩
  | some text =>
    simp only [Clause.ofText, isBroken, asksAndHolds, holds, usual, Option.any_some,
      Option.all_some]
    cases Pattern.compile ignoreCase text <;> exact ⟨rfl, rfl, rfl⟩

/-- A rule that was loaded covers the calls that it covers in the `usual` way. -/
theorem covers_usual (loaded : LoadedRule) (call : ToolCall) (intent : Intent) :
    usual.covers call intent loaded.rule = loaded.covers call intent := by
  obtain ⟨htool, hasks, -⟩ := clause_usual false loaded.rule.toolPattern call.tool
  obtain ⟨hgoal, -, hholds⟩ := clause_usual true loaded.rule.intentPattern intent.text
  simp only [covers, LoadedRule.covers, loaded.tool_eq, loaded.goal_eq, htool, hasks, hgoal, hholds]

end

/-! ## The search -/

/-- The first rule that covers the call, `chosen` if there was one already, unless a rule that
blocks follows. -/
def decidingRule (R : PatternReading) (call : ToolCall) (intent : Intent) :
    Option Rule → List Rule → Option Rule
  | chosen, [] => chosen
  | chosen, rule :: rest =>
    if R.covers call intent rule then
      if rule.action = .block then some rule
      else R.decidingRule call intent (chosen <|> some rule) rest
    else R.decidingRule call intent chosen rest

/-- What rules say about a call; `fallback` is for calls in which none has a say. -/
def matchRules (R : PatternReading) (call : ToolCall) (intent : Intent) (rules : List Rule)
    (fallback : Action) : RuleMatch :=
  match R.decidingRule call intent none rules with
  | some rule => rule.outcome
  | none => ⟨.ofAction fallback, noMatchReason⟩

theorem decidingRule_usual (call : ToolCall) (intent : Intent) (rules : List LoadedRule) :
    ∀ chosen, ToolGate.decidingRule call intent chosen rules =
      usual.decidingRule call intent chosen (rules.map (·.rule)) := by
  induction rules with
  | nil => exact fun _ => rfl
  | cons loaded rest ih =>
    intro chosen
    simp only [ToolGate.decidingRule, List.map_cons, decidingRule, covers_usual, ih]

/-- The search of the engine is the one in the `usual` way. -/
theorem matchRules_eq_usual (call : ToolCall) (intent : Intent) (rules : List LoadedRule)
    (fallback : Action) :
    ToolGate.matchRules call intent rules fallback =
      usual.matchRules call intent (rules.map (·.rule)) fallback := by
  have hfound := decidingRule_usual call intent rules none
  cases hsome : usual.decidingRule call intent none (rules.map (·.rule)) <;>
    simp only [ToolGate.matchRules, matchRules, hfound, hsome]

section

variable {R : PatternReading} {call : ToolCall} {intent : Intent}

/-- The rule covers the call and blocks it. -/
def blocks (R : PatternReading) (call : ToolCall) (intent : Intent) (rule : Rule) : Bool :=
  R.covers call intent rule && decide (rule.action = .block)

theorem blocks_iff {rule : Rule} :
    R.blocks call intent rule = true ↔ R.Candidate call intent rule ∧ rule.action = .block := by
  rw [blocks, Bool.and_eq_true, covers_iff, decide_eq_true_eq]

/-- The one search of `decidingRule` is two: for a rule that `blocks`, and for any that `covers`. -/
theorem decidingRule_eq (rules : List Rule) : ∀ chosen,
    R.decidingRule call intent chosen rules =
      (rules.find? (R.blocks call intent)).or (chosen.or (rules.find? (R.covers call intent))) := by
  induction rules with
  | nil => simp [decidingRule]
  | cons rule rest ih =>
    intro chosen
    by_cases hcovers : R.covers call intent rule = true
    · by_cases hblock : rule.action = .block
      · simp [decidingRule, blocks, hcovers, hblock]
      · have hnot : R.blocks call intent rule = false := by simp [blocks, hblock]
        rw [decidingRule, if_pos hcovers, if_neg hblock, ih,
          List.find?_cons_of_neg (by simp [hnot]), List.find?_cons_of_pos hcovers]
        cases chosen <;> simp
    · have hnot : R.blocks call intent rule = false := by simp [blocks, hcovers]
      rw [decidingRule, if_neg hcovers, ih, List.find?_cons_of_neg (by simp [hnot]),
        List.find?_cons_of_neg hcovers]

end

end PatternReading

/-! ## What candidates say -/

/-- The reason that a rule gives. -/
def Rule.givenReason (rule : Rule) : String :=
  if rule.reason = "" then "Rule matched" else rule.reason

/-- What the candidates among some rules say about a call. -/
inductive Says (candidate : Rule → Prop) (rules : List Rule) (fallback : Action) :
    RuleMatch → Prop where
  /-- A candidate blocks, and none before it does. -/
  | blocks {before after : List Rule} {rule : Rule} (split : rules = before ++ rule :: after)
      (hrule : candidate rule) (hblock : rule.action = .block)
      (hfirst : ∀ r ∈ before, candidate r → r.action ≠ .block) :
      Says candidate rules fallback ⟨.block, rule.givenReason⟩
  /-- No candidate blocks, and this is the first of them. -/
  | first {before after : List Rule} {rule : Rule} (split : rules = before ++ rule :: after)
      (hrule : candidate rule) (hfirst : ∀ r ∈ before, ¬ candidate r)
      (hnone : ∀ r ∈ rules, candidate r → r.action ≠ .block) :
      Says candidate rules fallback ⟨.ofAction rule.action, rule.givenReason⟩
  /-- There is no candidate. -/
  | fallback (hnone : ∀ r ∈ rules, ¬ candidate r) :
      Says candidate rules fallback ⟨.ofAction fallback, "No matching rule"⟩

/-- The rules of the first list without some that are no candidates. -/
inductive Thins (candidate : Rule → Prop) : List Rule → List Rule → Prop where
  | nil : Thins candidate [] []
  | keep (rule : Rule) {rules rules' : List Rule} (h : Thins candidate rules rules') :
      Thins candidate (rule :: rules) (rule :: rules')
  | drop {rule : Rule} (hrule : ¬ candidate rule) {rules rules' : List Rule}
      (h : Thins candidate rules rules') : Thins candidate (rule :: rules) rules'

theorem Rule.outcome_eq (rule : Rule) :
    rule.outcome = ⟨.ofAction rule.action, rule.givenReason⟩ := by
  simp [Rule.outcome, Rule.givenReason, unnamedReason, String.isEmpty_iff]

theorem Thins.find?_eq {candidate : Rule → Prop} {p : Rule → Bool}
    (hp : ∀ rule, p rule = true → candidate rule) {rules rules' : List Rule}
    (h : Thins candidate rules rules') : rules'.find? p = rules.find? p := by
  induction h with
  | nil => rfl
  | keep rule _ ih => rw [List.find?_cons, List.find?_cons, ih]
  | drop hrule _ ih => rw [List.find?_cons_of_neg fun h => hrule (hp _ h), ih]

namespace PatternReading

section

variable {R : PatternReading} {call : ToolCall} {intent : Intent} {rules : List Rule}
    {fallback : Action}

/-- What `matchRules` finds is what the candidates say. -/
theorem says_matchRules (R : PatternReading) (call : ToolCall) (intent : Intent) (rules : List Rule)
    (fallback : Action) :
    Says (R.Candidate call intent) rules fallback (R.matchRules call intent rules fallback) := by
  unfold matchRules
  rw [decidingRule_eq, Option.none_or]
  cases hblocks : rules.find? (R.blocks call intent) with
  | some rule =>
    obtain ⟨hrule, before, after, hsplit, hfirst⟩ := List.find?_eq_some_iff_append.mp hblocks
    obtain ⟨hcandidate, hblock⟩ := blocks_iff.mp hrule
    have hfirst' : ∀ r ∈ before, R.Candidate call intent r → r.action ≠ .block := fun r hr => by
      simpa [Bool.eq_false_iff, blocks_iff] using hfirst r hr
    rw [Option.some_or]
    simp only [rule.outcome_eq, hblock]
    exact .blocks hsplit hcandidate hblock hfirst'
  | none =>
    have hnone : ∀ r ∈ rules, R.Candidate call intent r → r.action ≠ .block := fun r hr hc hb =>
      List.find?_eq_none.mp hblocks r hr (blocks_iff.mpr ⟨hc, hb⟩)
    cases hcovers : rules.find? (R.covers call intent) with
    | some rule =>
      obtain ⟨hrule, before, after, hsplit, hfirst⟩ := List.find?_eq_some_iff_append.mp hcovers
      have hfirst' : ∀ r ∈ before, ¬ R.Candidate call intent r := fun r hr => by
        simpa [Bool.eq_false_iff, covers_iff] using hfirst r hr
      rw [Option.none_or]
      simp only [rule.outcome_eq]
      exact .first hsplit (covers_iff.mp hrule) hfirst' hnone
    | none =>
      exact .fallback fun r hr hc => List.find?_eq_none.mp hcovers r hr (covers_iff.mpr hc)

/-- The candidates say one thing only. -/
theorem matchRules_of_says {m : RuleMatch} (h : Says (R.Candidate call intent) rules fallback m) :
    R.matchRules call intent rules fallback = m := by
  unfold matchRules
  rw [decidingRule_eq, Option.none_or]
  cases h with
  | blocks hsplit hrule hblock hfirst =>
    have hfind := List.find?_eq_some_iff_append.mpr
      ⟨blocks_iff.mpr ⟨hrule, hblock⟩, _, _, hsplit, fun r hr => by
        simpa [Bool.eq_false_iff, blocks_iff] using hfirst r hr⟩
    simp [hfind, Rule.outcome_eq, hblock, Decision.ofAction]
  | first hsplit hrule hfirst hnone =>
    have hblocks : rules.find? (R.blocks call intent) = none :=
      List.find?_eq_none.mpr fun r hr => by simpa [blocks_iff] using hnone r hr
    have hfind := List.find?_eq_some_iff_append.mpr
      ⟨covers_iff.mpr hrule, _, _, hsplit, fun r hr => by
        simpa [Bool.eq_false_iff, covers_iff] using hfirst r hr⟩
    simp [hblocks, hfind, Rule.outcome_eq]
  | fallback hnone =>
    have hblocks : rules.find? (R.blocks call intent) = none :=
      List.find?_eq_none.mpr fun r hr h => hnone r hr (blocks_iff.mp h).1
    have hcovers : rules.find? (R.covers call intent) = none :=
      List.find?_eq_none.mpr fun r hr h => hnone r hr (covers_iff.mp h)
    simp [hblocks, hcovers, noMatchReason]

/-- Rules block a call if a `Candidate` does, or if there is none and the default blocks. -/
theorem decision_eq_block_iff :
    (R.matchRules call intent rules fallback).decision = .block ↔
      (∃ rule ∈ rules, R.Candidate call intent rule ∧ rule.action = .block) ∨
        (∀ rule ∈ rules, ¬ R.Candidate call intent rule) ∧ fallback = .block := by
  have hofAction : ∀ action, Decision.ofAction action = .block ↔ action = .block := by
    intro action
    cases action <;> simp [Decision.ofAction]
  have hspec := says_matchRules R call intent rules fallback
  generalize R.matchRules call intent rules fallback = m at hspec
  cases hspec with
  | @blocks before after rule hsplit hrule hblock hfirst =>
    have hmem : rule ∈ rules := by simp [hsplit]
    exact iff_of_true rfl (.inl ⟨rule, hmem, hrule, hblock⟩)
  | @first before after rule hsplit hrule hfirst hnone =>
    have hmem : rule ∈ rules := by simp [hsplit]
    refine iff_of_false (fun h => hnone rule hmem hrule ((hofAction _).mp h)) ?_
    rintro (⟨r, hr, hcandidate, hblock⟩ | ⟨hno, -⟩)
    · exact hnone r hr hcandidate hblock
    · exact hno rule hmem hrule
  | fallback hnone =>
    rw [hofAction]
    constructor
    · exact fun h => .inr ⟨hnone, h⟩
    · rintro (⟨r, hr, hcandidate, -⟩ | ⟨-, h⟩)
      · exact absurd hcandidate (hnone r hr)
      · exact h

theorem matchRules_of_thins {rules' : List Rule}
    (h : Thins (R.Candidate call intent) rules rules') :
    R.matchRules call intent rules' fallback = R.matchRules call intent rules fallback := by
  have hblocks := h.find?_eq fun (r : Rule) (hr : R.blocks call intent r = true) =>
    (blocks_iff.mp hr).1
  have hcovers := h.find?_eq fun (r : Rule) (hr : R.covers call intent r = true) => covers_iff.mp hr
  rw [matchRules, matchRules, decidingRule_eq, decidingRule_eq, hblocks, hcovers]

theorem decision_eq_block_of_perm {rules' : List Rule} (h : rules.Perm rules') :
    (R.matchRules call intent rules' fallback).decision = .block ↔
      (R.matchRules call intent rules fallback).decision = .block := by
  simp only [decision_eq_block_iff, h.mem_iff]

end

/-- Rules decide about a call by precedence, in any `PatternReading`: `matchRules` is what the
candidates say, by `Says`. So `Thins` changes nothing, the order of rules does not count for whether
they block, and a `Candidate` that blocks may stand anywhere. The engine searches in the `usual`
way. -/
theorem rules_decide_by_precedence (R : PatternReading) (call : ToolCall) (intent : Intent)
    (rules : List Rule) (fallback : Action) :
    (∀ m, R.matchRules call intent rules fallback = m ↔
      Says (R.Candidate call intent) rules fallback m) ∧
    (∀ rules', Thins (R.Candidate call intent) rules rules' →
      R.matchRules call intent rules' fallback = R.matchRules call intent rules fallback) ∧
    (∀ rules', rules.Perm rules' →
      ((R.matchRules call intent rules' fallback).decision = .block ↔
        (R.matchRules call intent rules fallback).decision = .block)) ∧
    (∀ before rule after, rules = before ++ after → R.Candidate call intent rule →
      rule.action = .block →
      (R.matchRules call intent (before ++ rule :: after) fallback).decision = .block) ∧
    (∀ loaded : List LoadedRule, loaded.map (·.rule) = rules →
      ToolGate.matchRules call intent loaded fallback =
        usual.matchRules call intent rules fallback) ∧
    ∀ ignoreCase text target, usual.FoundIn ignoreCase text target ↔
      ∃ p, Pattern.compile ignoreCase text = some p ∧ p.Matches target := by
  refine ⟨fun m => ⟨?_, matchRules_of_says⟩, fun rules' => matchRules_of_thins,
    fun rules' => decision_eq_block_of_perm, ?_, ?_, fun _ _ _ => foundIn_usual⟩
  · rintro rfl
    exact says_matchRules R call intent rules fallback
  · intro before rule after _ hrule hblock
    exact decision_eq_block_iff.mpr (.inl ⟨rule, by simp, hrule, hblock⟩)
  · rintro loaded rfl
    exact matchRules_eq_usual call intent loaded fallback

/-- A rule about another tool and one with a broken pattern have no say; of the other two, the one
that blocks decides, in any order. -/
theorem rules_decide_by_precedence_of_four :
    let call : ToolCall := ⟨"exec", []⟩
    let intent : Intent := ⟨"clean up"⟩
    let other := Rule.forTool .allow "read" "fine"
    let fine := Rule.forTool .allow "exec" "fine"
    let broken := (Rule.forTool .block "exec" "never").withIntent "("
    let stop := Rule.forPattern .block "xe" ""
    let rules := [other, fine, broken, stop]
    usual.Candidate call intent stop ∧ Thins (usual.Candidate call intent) rules [fine, stop] ∧
      Says (usual.Candidate call intent) rules .allow ⟨.block, "Rule matched"⟩ ∧
      usual.matchRules call intent [fine, stop] .allow = ⟨.block, "Rule matched"⟩ ∧
      (usual.matchRules call intent rules.reverse .allow).decision = .block ∧
      (usual.matchRules call intent ([] ++ stop :: [other, fine]) .allow).decision = .block := by
  intro call intent other fine broken stop rules
  have hstop : usual.Candidate call intent stop := covers_iff.mp (by decide +kernel)
  have hother : ¬ usual.Candidate call intent other := fun h =>
    absurd (covers_iff.mpr h) (by decide +kernel)
  have hbroken : ¬ usual.Candidate call intent broken := fun h =>
    absurd (covers_iff.mpr h) (by decide +kernel)
  have hthins : Thins (usual.Candidate call intent) rules [fine, stop] :=
    .drop hother (.keep fine (.drop hbroken (.keep stop .nil)))
  have hfound : usual.matchRules call intent rules .allow = ⟨.block, "Rule matched"⟩ := by
    decide +kernel
  obtain ⟨hspec, hthin, hperm, -⟩ := rules_decide_by_precedence usual call intent rules .allow
  obtain ⟨-, -, -, hinsert, -⟩ := rules_decide_by_precedence usual call intent [other, fine] .allow
  exact ⟨hstop, hthins, (hspec _).mp hfound, (hthin _ hthins).trans hfound,
    (hperm _ (List.reverse_perm rules).symm).mpr (by rw [hfound]),
    hinsert [] stop [other, fine] rfl hstop rfl⟩

end PatternReading

end ToolGate

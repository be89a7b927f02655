/-
A stricter policy never lets more through.

Rules that block may be put in anywhere, more tools and paths be protected, fewer tools be exempt,
and the default be stricter. Each of the four checks may then hand a call to another one than
before; still the decision is as strict as it was, or stricter.

* `Decision.strictness` — decisions in order: to allow, to ask, to block.
* `BlocksInserted` — rules with others that block put in anywhere. `strictness_matchRules`: what
  they say is as strict, since the deciding rule is the old one or one that blocks.
* `Policy.Tightens` — a policy that exempts less, protects more, and has as strict a default, with
  one lemma for each check. `Policy.Written`: the same said by the texts that policies are made of.
* `decisionOf`, `decision_evaluate` — the decision from what each check finds;
  `strictness_decisionOf`.
* `strictness_evaluate` — the decision under the stricter policy is as strict.
* `tightening_never_enables` — what it allows was allowed, and what was blocked it blocks.
-/
import Mathlib
import ToolGate.Proofs.Engine.Run

namespace ToolGate

/-- The order `.allow`, `.requiresApproval`, `.block`. -/
def Decision.strictness : Decision → Nat
  | .allow => 0
  | .requiresApproval => 1
  | .block => 2

theorem Decision.strictness_le_block (d : Decision) : d.strictness ≤ Decision.block.strictness := by
  cases d <;> decide

theorem Decision.strictness_le_allow {d : Decision} :
    d.strictness ≤ Decision.allow.strictness ↔ d = .allow := by
  cases d <;> decide

theorem Decision.block_le_strictness {d : Decision} :
    Decision.block.strictness ≤ d.strictness ↔ d = .block := by
  cases d <;> decide

/-- The `Decision.strictness` of what a default leads to. -/
def Action.strictness (action : Action) : Nat := (Decision.ofAction action).strictness

/-! ## Rules -/

/-- The second list is the first with rules that block put in anywhere. -/
inductive BlocksInserted : List LoadedRule → List LoadedRule → Prop where
  | nil : BlocksInserted [] []
  | keep (loaded : LoadedRule) {rules rules' : List LoadedRule} (h : BlocksInserted rules rules') :
      BlocksInserted (loaded :: rules) (loaded :: rules')
  | insert {loaded : LoadedRule} (hblock : loaded.rule.action = .block)
      {rules rules' : List LoadedRule} (h : BlocksInserted rules rules') :
      BlocksInserted rules (loaded :: rules')

/-- With `BlocksInserted`, the new `decidingRule` blocks or is the old one. -/
theorem decidingRule_of_blocksInserted {rules rules' : List LoadedRule}
    (h : BlocksInserted rules rules') (call : ToolCall) (intent : Intent) : ∀ chosen : Option Rule,
      (∃ rule, decidingRule call intent chosen rules' = some rule ∧ rule.action = .block) ∨
        decidingRule call intent chosen rules' = decidingRule call intent chosen rules := by
  induction h with
  | nil => exact fun _ => .inr rfl
  | keep loaded _ ih =>
    intro chosen
    simp only [decidingRule]
    split
    · split
      · exact .inr rfl
      · exact ih _
    · exact ih chosen
  | @insert loaded hblock _ _ _ ih =>
    intro chosen
    simp only [decidingRule, if_pos hblock]
    split
    · exact .inl ⟨loaded.rule, rfl, hblock⟩
    · exact ih chosen

/-- With `BlocksInserted` and a stricter default, `matchRules` is as strict as before. -/
theorem strictness_matchRules {rules rules' : List LoadedRule}
    (hrules : BlocksInserted rules rules') {fallback fallback' : Action}
    (hfallback : fallback.strictness ≤ fallback'.strictness) (call : ToolCall) (intent : Intent) :
    (matchRules call intent rules fallback).decision.strictness ≤
      (matchRules call intent rules' fallback').decision.strictness := by
  unfold matchRules
  obtain ⟨rule, hrule, hblock⟩ | hsame := decidingRule_of_blocksInserted hrules call intent none
  · have hdecision : rule.outcome.decision = .block := by rw [Rule.outcome, hblock]; rfl
    simp only [hrule, hdecision]
    exact Decision.strictness_le_block _
  · rw [hsame]
    cases decidingRule call intent none rules with
    | none => exact hfallback
    | some rule => exact Nat.le_refl _

/-! ## Policies -/

/-- At least the tools and globs of the second protection. -/
structure Protection.Widens (protection' protection : Protection) : Prop where
  dangerousTools : protection.dangerousTools ⊆ protection'.dangerousTools
  globs : protection.globs ⊆ protection'.globs

theorem Protection.Widens.forbids {protection' protection : Protection}
    (h : protection'.Widens protection) {call : ToolCall}
    (hforbids : protection.forbids call = true) : protection'.forbids call = true := by
  obtain ⟨hdangerous, hpath⟩ := Bool.and_eq_true_iff.mp hforbids
  refine Bool.and_eq_true_iff.mpr ⟨?_, ?_⟩
  · exact List.contains_iff_mem.mpr (h.dangerousTools (List.contains_iff_mem.mp hdangerous))
  · cases hcall : call.path? with
    | none => simp [hcall] at hpath
    | some path =>
      simp only [hcall] at hpath ⊢
      obtain ⟨g, hmem, haccepts⟩ := List.any_eq_true.mp hpath
      exact List.any_eq_true.mpr ⟨g, h.globs hmem, haccepts⟩

/-- Exempts no more, forbids no less, and has a default that is as strict. -/
structure Policy.Tightens (p' p : Policy) : Prop where
  internalTools : p'.internalTools ⊆ p.internalTools
  protection : ∀ protection, p.protection = some protection →
    ∃ protection', p'.protection = some protection' ∧ protection'.Widens protection
  fallback : p.fallback.strictness ≤ p'.fallback.strictness

namespace Policy

variable {p' p : Policy}

theorem Tightens.exempts (h : p'.Tightens p) {tool : String} (hexempts : p'.exempts tool = true) :
    p.exempts tool = true := by
  obtain ⟨pattern, hmem, haccepts⟩ := List.any_eq_true.mp hexempts
  exact List.any_eq_true.mpr ⟨pattern, h.internalTools hmem, haccepts⟩

theorem Tightens.forbids (h : p'.Tightens p) {call : ToolCall} (hforbids : p.forbids call = true) :
    p'.forbids call = true := by
  unfold Policy.forbids at hforbids ⊢
  cases hprotection : p.protection with
  | none => simp [hprotection] at hforbids
  | some protection =>
    obtain ⟨protection', hprotection', hwidens⟩ := h.protection protection hprotection
    simp only [hprotection] at hforbids
    simp only [hprotection']
    exact hwidens.forbids hforbids

/-- The policy's texts: default, protected paths if they are checked at all, and patterns of exempt
tools. -/
structure Written where
  fallback : Action
  protection : Option Protection.Lists
  internalTools : List String

namespace Written

/-- What `Written` compiles to. Texts that are no globs and no patterns drop out. -/
def policy (w : Written) : Policy :=
  ⟨w.fallback, w.protection.map .ofLists, compileInternal w.internalTools⟩

/-- The written tightenings: more protected paths, or checking them at all; no new patterns of
exempt tools; a stricter default. -/
structure Tightens (w' w : Written) : Prop where
  internalTools : w'.internalTools ⊆ w.internalTools
  protection : ∀ lists, w.protection = some lists → ∃ lists', w'.protection = some lists' ∧
    lists.dangerousTools ⊆ lists'.dangerousTools ∧
    lists.protectedPatterns ⊆ lists'.protectedPatterns
  fallback : w.fallback.strictness ≤ w'.fallback.strictness

theorem Tightens.policy {w' w : Written} (h : w'.Tightens w) : w'.policy.Tightens w.policy where
  internalTools := List.filterMap_subset _ h.internalTools
  protection := by
    intro protection hprotection
    obtain ⟨lists, hlists, rfl⟩ := Option.map_eq_some_iff.mp hprotection
    obtain ⟨lists', hlists', htools, hpatterns⟩ := h.protection lists hlists
    exact ⟨.ofLists lists', Option.map_eq_some_iff.mpr ⟨lists', hlists', rfl⟩, htools,
      List.filterMap_subset _ hpatterns⟩
  fallback := h.fallback

end Written

end Policy

/-! ## Decisions -/

/-- The pipeline of `evaluate` as a function of its four checks. -/
def decisionOf (exempt forbidden : Bool) (found : Decision) (approved : Bool) : Decision :=
  if exempt then .allow
  else if forbidden then .block
  else if found = .requiresApproval ∧ approved then .allow
  else found

/-- The function `decisionOf` is monotone in `strictness`. -/
theorem strictness_decisionOf {exempt exempt' forbidden forbidden' : Bool} {found found' : Decision}
    (hexempt : exempt' = true → exempt = true) (hforbidden : forbidden = true → forbidden' = true)
    (hfound : found.strictness ≤ found'.strictness) (approved : Bool) :
    (decisionOf exempt forbidden found approved).strictness ≤
      (decisionOf exempt' forbidden' found' approved).strictness := by
  cases hexempt₀ : exempt with
  | true => exact Nat.zero_le _
  | false =>
    obtain rfl : exempt' = false := by
      rw [Bool.eq_false_iff]
      exact fun h => absurd (hexempt h) (by simp [hexempt₀])
    cases hforbidden' : forbidden' with
    | true => exact Decision.strictness_le_block _
    | false =>
      obtain rfl : forbidden = false := by
        rw [Bool.eq_false_iff]
        exact fun h => absurd (hforbidden h) (by simp [hforbidden'])
      -- both calls come to the rules, and the same approval is there for both
      revert hfound
      cases approved <;> cases found <;> cases found' <;> decide

namespace Engine

theorem decision_evaluate (e : Engine) (m : Moment) (call : ToolCall) (intent : Intent) :
    (e.evaluate m call intent).1.decision =
      decisionOf (e.policy.exempts call.tool) (e.policy.forbids call)
        (e.found m call intent).decision (e.ledger.consume call).1 := by
  have hcases := judge_cases e m call intent
  have hdecision : (e.evaluate m call intent).1.decision = (e.judge m call intent).1.decision := rfl
  rw [hdecision]
  generalize e.judge m call intent = outcome at hcases
  obtain ⟨r, e'⟩ := outcome
  cases hcases <;> simp [decisionOf, Ruling.decision, *]

/-- Under `Policy.Tightens` and `BlocksInserted`, over one ledger, `evaluate` is as strict as
before. -/
theorem strictness_evaluate {e e' : Engine} (hpolicy : e'.policy.Tightens e.policy)
    (hledger : e'.ledger = e.ledger) {m m' : Moment}
    (hrules : BlocksInserted (e.source.load m.rulesFile).1 (e'.source.load m'.rulesFile).1)
    (call : ToolCall) (intent : Intent) :
    (e.evaluate m call intent).1.decision.strictness ≤
      (e'.evaluate m' call intent).1.decision.strictness := by
  rw [decision_evaluate, decision_evaluate, hledger]
  exact strictness_decisionOf hpolicy.exempts hpolicy.forbids
    (strictness_matchRules hrules hpolicy.fallback call intent) _

/-- Tightening is monotone. With `Written.Tightens` and `BlocksInserted`, over any ledger and at any
moments, what the second engine allows the first allows, and what the first blocks the second
blocks. -/
theorem tightening_never_enables {e e' : Engine} {w w' : Policy.Written}
    (hpolicy : e.policy = w.policy) (hpolicy' : e'.policy = w'.policy) (htightens : w'.Tightens w)
    (hledger : e'.ledger = e.ledger) {m m' : Moment}
    (hrules : BlocksInserted (e.source.load m.rulesFile).1 (e'.source.load m'.rulesFile).1)
    (call : ToolCall) (intent : Intent) :
    ((e'.evaluate m' call intent).1.decision = .allow →
      (e.evaluate m call intent).1.decision = .allow) ∧
      ((e.evaluate m call intent).1.decision = .block →
        (e'.evaluate m' call intent).1.decision = .block) := by
  have hpolicies : e'.policy.Tightens e.policy := hpolicy ▸ hpolicy' ▸ htightens.policy
  have hstrict := strictness_evaluate hpolicies hledger hrules call intent
  exact ⟨fun hallow => Decision.strictness_le_allow.mp (hallow ▸ hstrict),
    fun hblock => Decision.block_le_strictness.mp (hblock ▸ hstrict)⟩

/-- The second engine protects more, asks by default, has one more rule that blocks, and drops an
exempt text that is no pattern; an approval is at hand. -/
theorem tightening_never_enables_of_approved :
    let read : ToolCall := ⟨"read", []⟩
    let drop : ToolCall := ⟨"drop", []⟩
    let w : Policy.Written := ⟨.allow, some ⟨["write"], []⟩, ["("]⟩
    let w' : Policy.Written := ⟨.requireApproval, some ⟨["edit", "write"], ["**/rules*.json"]⟩, []⟩
    let rule : LoadedRule := (Rule.forTool .block "drop" "never").load
    let new : LoadedRule := (Rule.forTool .block "exec" "not now").load
    let ledger := ((Approval.Ledger.empty.create ⟨1⟩ ⟨0⟩ read "ask").resolve ⟨1⟩ ⟨1⟩ .approve).2
    let e : Engine := ⟨w.policy, .given [rule], ledger⟩
    let e' : Engine := ⟨w'.policy, .given [new, rule], ledger⟩
    let m : Moment := ⟨⟨2⟩, ⟨2⟩, none⟩
    (e'.evaluate m read ⟨""⟩).1.decision = .allow ∧ (e.evaluate m read ⟨""⟩).1.decision = .allow ∧
      (e.evaluate m drop ⟨""⟩).1.decision = .block ∧
        (e'.evaluate m drop ⟨""⟩).1.decision = .block := by
  intro read drop w w' rule new ledger e e' m
  have htightens : w'.Tightens w := by
    refine ⟨List.nil_subset _, ?_, by decide⟩
    rintro lists ⟨⟩
    exact ⟨_, rfl, List.subset_cons_self _ _, List.nil_subset _⟩
  have hrules : BlocksInserted (e.source.load m.rulesFile).1 (e'.source.load m.rulesFile).1 :=
    .insert rfl (.keep rule .nil)
  have hledger : e'.ledger = e.ledger := rfl
  have hstricter (call : ToolCall) :=
    tightening_never_enables rfl rfl htightens hledger hrules call ⟨""⟩
  have hallow : (e'.evaluate m read ⟨""⟩).1.decision = .allow := by decide +kernel
  have hblock : (e.evaluate m drop ⟨""⟩).1.decision = .block := by decide +kernel
  exact ⟨hallow, (hstricter read).1 hallow, hblock, (hstricter drop).2 hblock⟩

end Engine

end ToolGate

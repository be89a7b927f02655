/-
Which spellings of the files that say what is allowed are out of reach.

A file has many paths: a slash may be doubled, a part may be `.`, and a name may be taken back by
the `..` behind it. The globs for a file accept its path as the settings have it, and none of the
others.

* `normal`, `SamePath` — the parts of a path that are left when nothing is said twice or taken back,
  and the paths that have the same parts.
* `slash_suffix_of_bytes` — what ends in the bytes of a slash and a path ends in their characters.
* `accepted_exactly_iff`, `covers_effective_iff` — the paths that the globs for a file accept, and
  those that the policy of the settings protects.
* `OutOfReach` — a call is blocked whatever the rules, the default and the ledger say;
  `out_of_reach_iff` tells which calls are.
* `respelled_within_reach` — a path of the rules with a `.` in it is within reach.
-/
import Mathlib
import ToolGate.Proofs.Settings.OwnFiles

namespace ToolGate

/-! ## Bytes and characters -/

namespace Glob

/-- The byte of a slash stands for a slash, and for no part of another character. -/
theorem bytesOf_of_slash_mem {c : Char} (h : 0x2F ∈ bytesOf c) : bytesOf c = [0x2F] := by
  have hhigh : ∀ n : Nat, 128 ≤ n → n < 256 → (0x2F : UInt8) ≠ UInt8.ofNat n := by
    intro n hlow hlt heq
    have hvalue := congrArg UInt8.toNat heq
    rw [UInt8.toNat_ofNat_of_lt' hlt] at hvalue
    simp at hvalue
    omega
  unfold bytesOf String.utf8EncodeChar at h ⊢
  by_cases hone : c.val.toNat ≤ 127
  · simp only [hone, if_true, List.mem_singleton] at h ⊢
    rw [h]
  · -- all bytes of a longer character are high
    exfalso
    simp only [hone, if_false] at h
    split at h
    · simp only [List.mem_cons, List.not_mem_nil, or_false] at h
      rcases h with h | h <;> exact hhigh _ (by omega) (by omega) h
    · split at h
      · simp only [List.mem_cons, List.not_mem_nil, or_false] at h
        rcases h with h | h | h <;> exact hhigh _ (by omega) (by omega) h
      · simp only [List.mem_cons, List.not_mem_nil, or_false] at h
        rcases h with h | h | h | h <;> exact hhigh _ (by omega) (by omega) h

/-- A text that ends in the bytes of a slash and a path ends in a slash and the path. -/
theorem slash_suffix_of_bytes {own cs : List Char}
    (h : bytesOfText ('/' :: own) <:+ bytesOfText cs) : ('/' :: own) <:+ cs := by
  induction cs with
  | nil =>
    have hnil : bytesOfText ('/' :: own) = [] := List.suffix_nil.mp h
    simp [bytesOfText, bytesOf, String.utf8EncodeChar] at hnil
  | cons c cs ih =>
    have hslash : bytesOfText ('/' :: own) = 0x2F :: bytesOfText own := rfl
    have hcons : bytesOfText (c :: cs) = bytesOf c ++ bytesOfText cs := rfl
    obtain ⟨before, hbefore⟩ := h
    rw [hcons, List.append_eq_append_iff] at hbefore
    obtain ⟨middle, hc, hrest⟩ | ⟨middle, -, hrest⟩ := hbefore
    · cases middle with
      | nil => exact (ih ⟨[], by simpa using hrest⟩).trans (List.suffix_cons c cs)
      | cons b middle =>
        -- the slash starts within the first character, so it is the first character
        rw [hslash, List.cons_append, List.cons.injEq] at hrest
        obtain ⟨rfl, hrest⟩ := hrest
        have hone := bytesOf_of_slash_mem (c := c) (by rw [hc]; simp)
        have hmiddle : middle = [] := by
          have hlength := congrArg List.length (hc.symm.trans hone)
          simp at hlength
          exact List.length_eq_zero_iff.mp (by omega)
        have hsame : bytesOfText ('/' :: own) = bytesOfText (c :: cs) := by
          rw [hslash, hcons, hone, hrest, hmiddle]
          rfl
        rw [bytesOfText_inj.mp hsame]
    · exact (ih ⟨middle, hrest.symm⟩).trans (List.suffix_cons c cs)

end Glob

namespace Settings

open Protection (slashed)

/-! ## Spellings -/

/-- The parts of a path, the last one first, with one more part. An empty part and `.` say nothing,
and `..` takes back the name before it. -/
def addPart (parts : List (List Char)) (part : List Char) : List (List Char) :=
  if part = [] ∨ part = ['.'] then parts
  else
    match parts with
    | name :: earlier => if part = ['.', '.'] ∧ name ≠ ['.', '.'] then earlier else part :: parts
    | [] => [part]

/-- A `slashed` path, cut into its parts by `addPart`, and whether it starts at the root. -/
def normal (path : String) : Bool × List (List Char) :=
  let cs := (slashed path).toList
  (cs.head? == some '/', ((cs.splitOn '/').foldl addPart []).reverse)

/-- Two spellings of one path. -/
def SamePath (path path' : String) : Prop := normal path = normal path'

instance (path path' : String) : Decidable (SamePath path path') :=
  inferInstanceAs (Decidable (normal path = normal path'))

/-! ## What the globs accept -/

/-- The globs that are `exactly` for a file accept what `LeadsTo` it as it is written. If the file
has no path at all, they accept everything. -/
theorem accepted_exactly_iff {path own : String} :
    (∃ text ∈ exactly own, ∃ g, Glob.read? text = some g ∧ g.accepts (slashed path) = true) ↔
      LeadsTo path own ∨ own = "" := by
  have hplain := Protection.backslash_not_mem_slashed own
  have hempty : (slashed own).toList = [] ↔ own = "" := by simp [slashed]
  have halone : ∀ g, Glob.read? (String.ofList (Glob.escape (slashed own).toList)) = some g →
      g.accepts (slashed path) = true → slashed path = slashed own := by
    intro g hread haccepts
    rw [Glob.read?_escape hplain] at hread
    cases hread
    exact String.toList_inj.mp (Glob.accepts_own_iff.mp haccepts)
  constructor
  · rintro ⟨text, htext, g, hread, haccepts⟩
    simp only [exactly] at htext
    split at htext
    · obtain rfl := List.mem_singleton.mp htext
      exact .inl (.inl (halone g hread haccepts))
    · next hroot =>
      rcases List.mem_pair.mp htext with rfl | rfl
      · exact .inl (.inl (halone g hread haccepts))
      · rw [Glob.read?_below hplain] at hread
        cases hread
        rcases Glob.accepts_below_iff.mp haccepts with hnil | hsame | hbelow
        · exact .inr (hempty.mp hnil)
        · exact .inl (.inl (String.toList_inj.mp hsame))
        · obtain ⟨front, hfront⟩ := Glob.slash_suffix_of_bytes hbelow
          refine .inl (.inr ⟨hroot, String.ofList front, String.toList_inj.mp ?_⟩)
          rw [String.toList_append, String.toList_append, String.toList_ofList,
            List.append_assoc, ← hfront]
          rfl
  · rintro (hleads | rfl)
    · exact exists_glob_of_leadsTo hleads
    · refine ⟨"**/" ++ String.ofList (Glob.escape (slashed "").toList), ?_, _,
        Glob.read?_below hplain, Glob.accepts_below_iff.mpr (.inl (hempty.mpr rfl))⟩
      simp [exactly, hempty.mpr rfl]

variable {env : Environment} {s : Settings}

/-- The policy of the settings protects what their lists protect, and what `LeadsTo` one of
`ownPaths`. -/
theorem covers_effective_iff {path : String} :
    (Protection.ofLists (s.effectiveProtection env)).covers path = true ↔
      (Protection.ofLists s.protection).covers path = true ∨
        ∃ own ∈ s.ownPaths env, LeadsTo path own ∨ own = "" := by
  simp only [Protection.covers_iff, effectiveProtection, ListChange.mem_foldl_addItem,
    List.mem_flatMap, ← accepted_exactly_iff]
  constructor
  · rintro ⟨text, hlisted | ⟨own, hown, htext⟩, haccepted⟩
    · exact .inl ⟨text, hlisted, haccepted⟩
    · exact .inr ⟨own, hown, text, htext, haccepted⟩
  · rintro (⟨text, hlisted, haccepted⟩ | ⟨own, hown, text, htext, haccepted⟩)
    · exact ⟨text, .inl hlisted, haccepted⟩
    · exact ⟨text, .inr ⟨own, hown, htext⟩, haccepted⟩

/-! ## Calls -/

open Approval

/-- Without rules, a call that is neither exempt nor forbidden falls to the default. -/
theorem evaluate_of_no_rules {e : Engine} {m : Moment} {call : ToolCall}
    (hexempts : e.policy.exempts call.tool = false) (hforbids : e.policy.forbids call = false)
    (hrules : (e.source.load m.rulesFile).1 = []) (hfallback : e.policy.fallback = .allow)
    (intent : Intent) : (e.evaluate m call intent).1.decision = .allow := by
  have hmatch : matchRules call intent [] e.policy.fallback = ⟨.allow, noMatchReason⟩ := by
    simp [matchRules, decidingRule, hfallback, Decision.ofAction]
  simp [Engine.evaluate, Engine.judge, Engine.asksRules, Policy.rule, hexempts, hforbids, hrules,
    hmatch, Policy.ruleMatched, Ruling.evaluation, Ruling.decision]

/-- The engine that the settings ask for blocks the call, whatever the default, whatever the ledger
holds, whatever has happened and whatever rules there are. -/
def OutOfReach (env : Environment) (s : Settings) (call : ToolCall) : Prop :=
  ∀ (fallback : Action) (ledger : Ledger) (past : List Engine.Event),
    (∀ ev ∈ past, ∀ policy, ev ≠ .configure policy) → ∀ (m : Moment) (intent : Intent),
    (({ { s with fallback }.engine env with ledger }.run past).evaluate m call intent).1.decision =
      .block

/-- A call of a tool that changes files is `OutOfReach` just if its path `LeadsTo` one of `ownPaths`
as the settings write it, or a glob of the lists accepts it. Other spellings of such a path are
within reach. (A file without a path would put every path out of reach.) -/
theorem out_of_reach_iff (hprotects : s.protects = true) {call : ToolCall}
    (htool : call.tool ∈ s.protection.dangerousTools)
    (hexempts : (s.policy env).exempts call.tool = false)
    {path : String} (hpath : call.path? = some path) :
    OutOfReach env s call ↔
      (Protection.ofLists s.protection).covers path = true ∨
        ∃ own ∈ s.ownPaths env, LeadsTo path own ∨ own = "" := by
  rw [← covers_effective_iff, ← forbids_iff hprotects htool hpath]
  constructor
  · intro hblocked
    by_contra hforbids
    rw [Bool.not_eq_true] at hforbids
    -- nothing has happened, there are no rules, and the default is to allow
    let e := { s with fallback := .allow }.engine env
    have hallowed : (e.evaluate ⟨⟨0⟩, ⟨0⟩, none⟩ call ⟨""⟩).1.decision = .allow :=
      evaluate_of_no_rules hexempts hforbids rfl rfl ⟨""⟩
    have hblock := hblocked .allow .empty [] (by simp) ⟨⟨0⟩, ⟨0⟩, none⟩ ⟨""⟩
    cases hblock.symm.trans hallowed
  · intro hforbids fallback ledger past hpast m intent
    have hpolicy := Engine.policy_run hpast ({ { s with fallback }.engine env with ledger })
    rw [Engine.evaluate_of_forbids (hpolicy ▸ hexempts) (hpolicy ▸ hforbids)]

/-- A path below a folder leads to the rules as the settings write them. -/
theorem out_of_reach_below_folder :
    let s : Settings :=
      { usual with
        rulesPath := "policy/compiled.json"
        protection := ⟨["write"], []⟩
        internalTools := [] }
    let env : Environment := ⟨[("HOME", "/home/user")], none⟩
    let call : ToolCall := ⟨"write", [("path", .text "work\\policy\\compiled.json")]⟩
    OutOfReach env s call := by
  intro s env call
  have hpath : call.path? = some "work\\policy\\compiled.json" := by decide +kernel
  have hown : "policy/compiled.json" ∈ s.ownPaths env := by decide +kernel
  have hleads : LeadsTo "work\\policy\\compiled.json" "policy/compiled.json" :=
    .inr ⟨by decide +kernel, "work", by decide +kernel⟩
  exact (out_of_reach_iff rfl (by decide) rfl hpath).mpr (.inr ⟨_, hown, .inl hleads⟩)

/-- A path of the rules with a `.` in it is the `SamePath`. A tool that changes files may write to
it all the same, although the settings look after paths with the usual lists. -/
theorem respelled_within_reach :
    let s : Settings :=
      { usual with
        rulesPath := "/srv/policy/compiled.json"
        fallback := .allow
        internalTools := [] }
    let env : Environment := ⟨[("HOME", "/home/user")], none⟩
    let call : ToolCall := ⟨"write", [("path", .text "/srv/policy/./compiled.json")]⟩
    s.protects = true ∧ call.tool ∈ s.protection.dangerousTools ∧
      (s.policy env).exempts call.tool = false ∧
      call.path? = some "/srv/policy/./compiled.json" ∧
      SamePath "/srv/policy/./compiled.json" (s.rulesFile env) ∧
      ((s.engine env).evaluate ⟨⟨0⟩, ⟨0⟩, none⟩ call ⟨""⟩).1 = ⟨.allow, noMatchReason, none⟩ ∧
      ¬ OutOfReach env s call := by
  intro s env call
  have hallowed :
      ((s.engine env).evaluate ⟨⟨0⟩, ⟨0⟩, none⟩ call ⟨""⟩).1 = ⟨.allow, noMatchReason, none⟩ := by
    decide +kernel
  have hsame : SamePath "/srv/policy/./compiled.json" (s.rulesFile env) := by decide +kernel
  refine ⟨rfl, by decide, rfl, by decide +kernel, hsame, hallowed, ?_⟩
  intro hreach
  have hblocked := hreach .allow .empty [] (by simp) ⟨⟨0⟩, ⟨0⟩, none⟩ ⟨""⟩
  cases hblocked.symm.trans (congrArg Evaluation.decision hallowed)

end Settings

end ToolGate

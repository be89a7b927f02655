/-
Runs of an engine.

A run is a list of events: decisions, guarded calls, chat messages, steps taken directly on the
ledger, sweeps, and changes of the policy. Every event brings its own time, so clocks may move as
they like, and what stands at the path of the rules at that moment.

* `judge_cases` — the check that decided, with what it found and left behind.
* `Event`, `after`, `run` — what may happen to an engine, and the engine after it. `policy_after`,
  `source_after`: what this leaves of the policy and the source of rules.
* `ledgerOp?`, `ledger_after` — each event takes one step on the ledger at most.
* `Mints`, `Settles`, `Approves`, `Consumes`, `Sweeps` — what an event does to the request of an id.
* `onMessage_cases` — a message settles a pending request, or does nothing.
* `request_cases` — an event does one of these, or nothing.
-/
import Mathlib
import ToolGate.Engine.Basic
import ToolGate.Proofs.Approval.Coherence
import ToolGate.Proofs.Json.Sameness

namespace ToolGate.Engine

open Approval

/-! ## One decision -/

/-- What `matchRules` says of the call, with the rules that `load` gives. -/
def found (e : Engine) (m : Moment) (call : ToolCall) (intent : Intent) : RuleMatch :=
  matchRules call intent (e.source.load m.rulesFile).1 e.policy.fallback

/-- The engine after the `load` of this moment. -/
def refreshed (e : Engine) (m : Moment) : Engine :=
  { e with source := (e.source.load m.rulesFile).2 }

/-- Exits of `judge`, each with its `Ruling` and the engine it leaves. -/
inductive Judged (e : Engine) (m : Moment) (call : ToolCall) (intent : Intent) :
    Ruling → Engine → Prop where
  | internalTool (h : e.policy.exempts call.tool = true) : Judged e m call intent .internalTool e
  | protectedPath (h : e.policy.exempts call.tool = false)
      (hforbids : e.policy.forbids call = true) : Judged e m call intent .protectedPath e
  | blocked (h : e.policy.exempts call.tool = false) (hforbids : e.policy.forbids call = false)
      (hfound : (e.found m call intent).decision = .block) :
      Judged e m call intent (.blocked (e.found m call intent).reason) (e.refreshed m)
  | allowed (h : e.policy.exempts call.tool = false) (hforbids : e.policy.forbids call = false)
      (hfound : (e.found m call intent).decision = .allow) :
      Judged e m call intent (.allowed (e.found m call intent).reason) (e.refreshed m)
  | approved (h : e.policy.exempts call.tool = false) (hforbids : e.policy.forbids call = false)
      (hfound : (e.found m call intent).decision = .requiresApproval)
      (hconsume : (e.ledger.consume call).1 = true) :
      Judged e m call intent .approved { e.refreshed m with ledger := (e.ledger.consume call).2 }
  | requested (h : e.policy.exempts call.tool = false) (hforbids : e.policy.forbids call = false)
      (hfound : (e.found m call intent).decision = .requiresApproval)
      (hconsume : (e.ledger.consume call).1 = false) :
      Judged e m call intent (.requested m.freshId (e.found m call intent).reason)
        { e.refreshed m with
          ledger := e.ledger.create m.freshId m.now call (e.found m call intent).reason }

/-- Where `consume` fails it changes nothing. -/
theorem consume_of_false {l : Ledger} {call : ToolCall} (h : (l.consume call).1 = false) :
    (l.consume call).2 = l := by
  rw [Ledger.consume_eq] at h ⊢
  split
  · simp_all
  · rfl

section

variable {e : Engine} {m : Moment} {call : ToolCall} {intent : Intent}

theorem judge_of_exempts (h : e.policy.exempts call.tool = true) :
    e.judge m call intent = (.internalTool, e) := by
  simp [judge, asksRules, Policy.rule, h]

theorem judge_of_forbids (h : e.policy.exempts call.tool = false)
    (hforbids : e.policy.forbids call = true) : e.judge m call intent = (.protectedPath, e) := by
  simp [judge, asksRules, Policy.rule, h, hforbids]

/-- Past `exempts` and `forbids`, `judge` is `Policy.ruleMatched` of `found`. -/
theorem judge_of_passes (h : e.policy.exempts call.tool = false)
    (hforbids : e.policy.forbids call = false) :
    e.judge m call intent =
      ((Policy.ruleMatched (e.found m call intent) e.ledger m.now m.freshId call).1,
        { e.refreshed m with
          ledger :=
            (Policy.ruleMatched (e.found m call intent) e.ledger m.now m.freshId call).2 }) := by
  simp [judge, asksRules, Policy.rule, h, hforbids, found, refreshed]

end

/-- Inversion of `judge`: one of the exits in `Judged`. -/
theorem judge_cases (e : Engine) (m : Moment) (call : ToolCall) (intent : Intent) :
    Judged e m call intent (e.judge m call intent).1 (e.judge m call intent).2 := by
  cases hexempts : e.policy.exempts call.tool with
  | true =>
    rw [judge_of_exempts hexempts]
    exact .internalTool hexempts
  | false =>
    cases hforbids : e.policy.forbids call with
    | true =>
      rw [judge_of_forbids hexempts hforbids]
      exact .protectedPath hexempts hforbids
    | false =>
      rw [judge_of_passes hexempts hforbids]
      unfold Policy.ruleMatched
      cases hfound : (e.found m call intent).decision with
      | block => exact .blocked hexempts hforbids hfound
      | allow => exact .allowed hexempts hforbids hfound
      | requiresApproval =>
        cases hconsume : (e.ledger.consume call).1 with
        | true =>
          have hpair : e.ledger.consume call = (true, (e.ledger.consume call).2) :=
            Prod.ext hconsume rfl
          rw [hpair]
          exact .approved hexempts hforbids hfound hconsume
        | false =>
          have hpair : e.ledger.consume call = (false, e.ledger) :=
            Prod.ext hconsume (consume_of_false hconsume)
          rw [hpair]
          exact .requested hexempts hforbids hfound hconsume

/-- The call reaches the ledger: neither `exempts` nor `forbids` decides, and `found` asks. -/
structure AsksApproval (e : Engine) (m : Moment) (call : ToolCall) (intent : Intent) : Prop where
  exempts : e.policy.exempts call.tool = false
  forbids : e.policy.forbids call = false
  found : (e.found m call intent).decision = .requiresApproval

/-- With an `approvedFor?`, a call that `AsksApproval` is `.approved` and the request removed. -/
theorem judge_of_approvedFor? {e : Engine} {m : Moment} {call : ToolCall} {intent : Intent}
    (h : e.AsksApproval m call intent) {id : RequestId}
    (hfor : e.ledger.approvedFor? call.fingerprint = some id) :
    e.judge m call intent = (.approved, { e.refreshed m with ledger := e.ledger.remove id }) := by
  have hconsume : e.ledger.consume call = (true, e.ledger.remove id) := by
    rw [Ledger.consume_eq, hfor]
  have hcases := judge_cases e m call intent
  generalize e.judge m call intent = outcome at hcases
  obtain ⟨r, e'⟩ := outcome
  cases hcases with
  | internalTool hexempts => simp [h.exempts] at hexempts
  | protectedPath _ hforbids => simp [h.forbids] at hforbids
  | blocked _ _ hfound => simp [h.found] at hfound
  | allowed _ _ hfound => simp [h.found] at hfound
  | approved => rw [hconsume]
  | requested _ _ _ hfalse => simp [hconsume] at hfalse

/-- Without one, it is `.requested` and a request created. -/
theorem judge_of_approvedFor?_eq_none {e : Engine} {m : Moment} {call : ToolCall} {intent : Intent}
    (h : e.AsksApproval m call intent) (hfor : e.ledger.approvedFor? call.fingerprint = none) :
    e.judge m call intent =
      (.requested m.freshId (e.found m call intent).reason,
        { e.refreshed m with
          ledger := e.ledger.create m.freshId m.now call (e.found m call intent).reason }) := by
  have hconsume : e.ledger.consume call = (false, e.ledger) := by rw [Ledger.consume_eq, hfor]
  have hcases := judge_cases e m call intent
  generalize e.judge m call intent = outcome at hcases
  obtain ⟨r, e'⟩ := outcome
  cases hcases with
  | internalTool hexempts => simp [h.exempts] at hexempts
  | protectedPath _ hforbids => simp [h.forbids] at hforbids
  | blocked _ _ hfound => simp [h.found] at hfound
  | allowed _ _ hfound => simp [h.found] at hfound
  | approved _ _ _ htrue => simp [hconsume] at htrue
  | requested => rfl

/-! ## Events -/

/-- Everything that can happen to an `Engine`. -/
inductive Event : Type 1 where
  | evaluate (m : Moment) (call : ToolCall) (intent : Intent)
  | guard {β : Type} (m : Moment) (call : ToolCall) (intent : Intent) (execute : ToolCall → β)
  | message (now : Timestamp) (text : String)
  | create (id : RequestId) (now : Timestamp) (call : ToolCall) (reason : String)
  | resolve (now : Timestamp) (id : RequestId) (verdict : Verdict)
  | consume (call : ToolCall)
  | sweep (expiry : ExpiryPolicy) (now : Timestamp)
  | configure (policy : Policy)

/-- The engine after an `Event`. -/
def after (e : Engine) : Event → Engine
  | .evaluate m call intent => (e.evaluate m call intent).2
  | .guard m call intent execute => (e.guard m call intent execute).2
  | .message now text => (e.onMessage now text).2
  | .create id now call reason => { e with ledger := e.ledger.create id now call reason }
  | .resolve now id verdict => { e with ledger := (e.ledger.resolve now id verdict).2 }
  | .consume call => { e with ledger := (e.ledger.consume call).2 }
  | .sweep expiry now => (e.sweep expiry now).2
  | .configure policy => { e with policy }

/-- The engine after `events`, first to last. -/
def run (e : Engine) (events : List Event) : Engine := events.foldl after e

@[simp] theorem run_nil (e : Engine) : e.run [] = e := rfl

@[simp] theorem run_cons (e : Engine) (ev : Event) (events : List Event) :
    e.run (ev :: events) = (e.after ev).run events := rfl

theorem run_append (e : Engine) (past events : List Event) :
    e.run (past ++ events) = (e.run past).run events := List.foldl_append

theorem run_snoc (e : Engine) (past : List Event) (ev : Event) :
    e.run (past ++ [ev]) = (e.run past).after ev := run_append e past [ev]

/-- The `Moment` that comes with an event. -/
def Event.moment? : Event → Option Moment
  | .evaluate m _ _ => some m
  | .guard m _ _ _ => some m
  | _ => none

/-- Only `configure` changes the policy. -/
theorem policy_after {ev : Event} (hev : ∀ policy, ev ≠ .configure policy) (e : Engine) :
    (e.after ev).policy = e.policy := by
  cases ev with
  | message now text =>
    simp only [after, onMessage]
    cases Command.parse? text <;> rfl
  | configure policy => exact absurd rfl (hev policy)
  | _ => rfl

theorem policy_run {events : List Event}
    (hevents : ∀ ev ∈ events, ∀ policy, ev ≠ .configure policy) :
    ∀ e : Engine, (e.run events).policy = e.policy := by
  induction events with
  | nil => exact fun _ => rfl
  | cons ev events ih =>
    intro e
    rw [run_cons, ih (fun ev' hmem => hevents ev' (List.mem_cons_of_mem _ hmem)),
      policy_after (hevents ev List.mem_cons_self)]

/-- An event leaves the source alone, or as `load` does. -/
theorem source_after (e : Engine) (ev : Event) :
    (e.after ev).source = e.source ∨
      ∃ m, ev.moment? = some m ∧ (e.after ev).source = (e.source.load m.rulesFile).2 := by
  have hjudged : ∀ (m : Moment) (call : ToolCall) (intent : Intent),
      (e.judge m call intent).2.source = e.source ∨
        (e.judge m call intent).2.source = (e.source.load m.rulesFile).2 := by
    intro m call intent
    have hcases := judge_cases e m call intent
    generalize e.judge m call intent = outcome at hcases
    obtain ⟨r, e'⟩ := outcome
    cases hcases <;> first | exact .inl rfl | exact .inr rfl
  cases ev with
  | evaluate m call intent => exact (hjudged m call intent).imp_right fun h => ⟨m, rfl, h⟩
  | guard m call intent _ => exact (hjudged m call intent).imp_right fun h => ⟨m, rfl, h⟩
  | message now text =>
    simp only [after, onMessage]
    cases Command.parse? text <;> exact .inl rfl
  | _ => exact .inl rfl

/-- Without `configure`, the policy and `given` rules stay. -/
theorem settings_after {e : Engine} {rules : List LoadedRule} (hsource : e.source = .given rules)
    {ev : Event} (hev : ∀ policy, ev ≠ .configure policy) :
    (e.after ev).policy = e.policy ∧ (e.after ev).source = .given rules := by
  refine ⟨policy_after hev e, ?_⟩
  rcases e.source_after ev with hsame | ⟨m, -, hloaded⟩
  · rw [hsame, hsource]
  · rw [hloaded, hsource]
    rfl

theorem settings_run {rules : List LoadedRule} {events : List Event}
    (hevents : ∀ ev ∈ events, ∀ policy, ev ≠ .configure policy) :
    ∀ {e : Engine}, e.source = .given rules →
      (e.run events).policy = e.policy ∧ (e.run events).source = .given rules := by
  induction events with
  | nil => exact fun hsource => ⟨rfl, hsource⟩
  | cons ev events ih =>
    intro e hsource
    obtain ⟨hpolicy, hafter⟩ := settings_after hsource (hevents ev List.mem_cons_self)
    obtain ⟨hpolicy', hrun⟩ := ih (fun ev' hmem => hevents ev' (List.mem_cons_of_mem _ hmem)) hafter
    exact ⟨hpolicy'.trans hpolicy, hrun⟩

/-! ## What an event does to the ledger -/

/-- The `Ledger.Op` of a ruling. -/
def rulingOp? (m : Moment) (call : ToolCall) : Ruling → Option Ledger.Op
  | .approved => some (.consume call)
  | .requested id reason => some (.create id m.now call reason)
  | _ => none

theorem rulingOp?_eq_some {m : Moment} {call : ToolCall} {r : Ruling} {op : Ledger.Op} :
    rulingOp? m call r = some op ↔ (r = .approved ∧ op = .consume call) ∨
      ∃ id reason, r = .requested id reason ∧ op = .create id m.now call reason := by
  cases r <;> simp [rulingOp?, eq_comm]

/-- The `Ledger.Op` of an event. -/
def ledgerOp? (e : Engine) : Event → Option Ledger.Op
  | .evaluate m call intent => rulingOp? m call (e.judge m call intent).1
  | .guard m call intent _ => rulingOp? m call (e.judge m call intent).1
  | .message now text => (Command.parse? text).map fun c => .resolve now c.id c.verdict
  | .create id now call reason => some (.create id now call reason)
  | .resolve now id verdict => some (.resolve now id verdict)
  | .consume call => some (.consume call)
  | .sweep expiry now => some (.sweep expiry now)
  | .configure _ => none

theorem Judged.ledger {e e' : Engine} {m : Moment} {call : ToolCall} {intent : Intent} {r : Ruling}
    (h : Judged e m call intent r e') :
    e'.ledger = (rulingOp? m call r).elim e.ledger e.ledger.after := by
  cases h <;> rfl

/-- On the ledger, an event is its `ledgerOp?`, or nothing. -/
theorem ledger_after (e : Engine) (ev : Event) :
    (e.after ev).ledger = (e.ledgerOp? ev).elim e.ledger e.ledger.after := by
  cases ev with
  | evaluate m call intent => exact (judge_cases e m call intent).ledger
  | guard m call intent _ => exact (judge_cases e m call intent).ledger
  | message now text =>
    simp only [after, onMessage, ledgerOp?]
    cases Command.parse? text <;> rfl
  | create id now call reason => rfl
  | resolve now id verdict => rfl
  | consume call => rfl
  | sweep expiry now => rfl
  | configure policy => rfl

/-! ## What an event does to the request of an id -/

/-- The id under which the event raises a request. -/
def mints? (e : Engine) : Event → Option RequestId
  | .evaluate m call intent => (e.evaluate m call intent).1.requestId
  | .guard m call intent execute => (e.guard m call intent execute).1.evaluation.requestId
  | .create id _ _ _ => some id
  | _ => none

/-- Raising a request under `id`. -/
def Mints (e : Engine) (ev : Event) (id : RequestId) : Prop := e.mints? ev = some id

/-- Settling `id` by `verdict`, as the answer of the event tells. -/
def Settles (e : Engine) (verdict : Verdict) (ev : Event) (id : RequestId) : Prop :=
  match ev with
  | .resolve now i v => i = id ∧ v = verdict ∧ (e.ledger.resolve now i v).1 = true
  | .message now text => (e.onMessage now text).1 = some ⟨⟨id, verdict⟩, true⟩
  | _ => False

/-- The status goes from pending to `.approved`, and the answer tells so. -/
structure Approves (e : Engine) (ev : Event) (id : RequestId) : Prop where
  told : e.Settles .approve ev id
  before : e.ledger.status id = some .pending
  after : (e.after ev).ledger.status id = some .approved

/-- Whether the event is a `.sweep`. -/
def Event.isSweep : Event → Bool
  | .sweep _ _ => true
  | _ => false

/-- A `.sweep` that takes `id` away. -/
def Sweeps (e : Engine) (ev : Event) (id : RequestId) : Prop :=
  ev.isSweep = true ∧ e.ledger.get? id ≠ none ∧ (e.after ev).ledger.get? id = none

/-- Taking `id` away otherwise than by a `.sweep`. -/
def Consumes (e : Engine) (ev : Event) (id : RequestId) : Prop :=
  ev.isSweep = false ∧ e.ledger.get? id ≠ none ∧ (e.after ev).ledger.get? id = none

theorem mints_iff {e : Engine} {ev : Event} {id : RequestId} :
    e.Mints ev id ↔ ∃ now call reason, e.ledgerOp? ev = some (.create id now call reason) := by
  have hruling : ∀ (m : Moment) (call : ToolCall) (r : Ruling), r.requestId = some id ↔
      ∃ now c reason, rulingOp? m call r = some (.create id now c reason) := by
    intro m call r
    cases r <;> simp [Ruling.requestId, rulingOp?]
  cases ev with
  | evaluate m call intent => exact hruling m call _
  | guard m call intent _ => exact hruling m call _
  | _ => simp [Mints, mints?, ledgerOp?]

theorem isSweep_iff {e : Engine} {ev : Event} :
    ev.isSweep = true ↔ ∃ expiry now, e.ledgerOp? ev = some (.sweep expiry now) := by
  cases ev <;> simp [Event.isSweep, ledgerOp?, rulingOp?_eq_some]

theorem resolve_fst_iff {l : Ledger} {now : Timestamp} {id : RequestId} {verdict : Verdict} :
    (l.resolve now id verdict).1 = true ↔ l.status id = some .pending := by
  obtain ⟨hs, heq⟩ | ⟨r, hr, hpending, heq⟩ := l.resolve_cases now id verdict
  · simp [heq, hs]
  · simp [heq, Ledger.status, hr, hpending]

/-- A message leaves the engine as it is, or its command settles a pending request. -/
theorem onMessage_cases (e : Engine) (now : Timestamp) (text : String) :
    ((e.onMessage now text).1.any (·.applied) = false ∧ (e.onMessage now text).2 = e) ∨
      ∃ command r, (e.onMessage now text).1 = some ⟨command, true⟩ ∧
        e.ledger.get? command.id = some r ∧ r.status = .pending ∧
        (e.onMessage now text).2 =
          { e with ledger := e.ledger.settle now command.id r command.verdict } := by
  unfold onMessage
  cases Command.parse? text with
  | none => exact .inl ⟨rfl, rfl⟩
  | some command =>
    obtain ⟨-, heq⟩ | ⟨r, hr, hpending, heq⟩ :=
      e.ledger.resolve_cases now command.id command.verdict
    · exact .inl (by simp [heq])
    · exact .inr ⟨command, r, by simp [heq], hr, hpending, by simp [heq]⟩

/-- An event `Settles` a request just if its `ledgerOp?` resolves it while it is pending. -/
theorem settles_iff {e : Engine} {verdict : Verdict} {ev : Event} {id : RequestId} :
    e.Settles verdict ev id ↔
      (∃ now, e.ledgerOp? ev = some (.resolve now id verdict)) ∧
        e.ledger.status id = some .pending := by
  cases ev with
  | resolve now i v =>
    simp only [Settles, ledgerOp?, resolve_fst_iff]
    constructor
    · rintro ⟨rfl, rfl, hpending⟩
      exact ⟨⟨now, rfl⟩, hpending⟩
    · rintro ⟨⟨now', heq⟩, hpending⟩
      cases heq
      exact ⟨rfl, rfl, hpending⟩
  | message now text =>
    simp only [Settles, ledgerOp?, onMessage]
    cases Command.parse? text with
    | none => simp
    | some c =>
      obtain ⟨i, v⟩ := c
      simp only [Option.some.injEq, Resolution.mk.injEq, Command.mk.injEq, resolve_fst_iff,
        Option.map_some, Ledger.Op.resolve.injEq]
      constructor
      · rintro ⟨⟨rfl, rfl⟩, hpending⟩
        exact ⟨⟨now, rfl, rfl, rfl⟩, hpending⟩
      · rintro ⟨⟨_, -, rfl, rfl⟩, hpending⟩
        exact ⟨⟨rfl, rfl⟩, hpending⟩
  | _ => simp [Settles, ledgerOp?, rulingOp?_eq_some]

/-- The call that an event is about. -/
def Event.call? : Event → Option ToolCall
  | .evaluate _ call _ => some call
  | .guard _ call _ _ => some call
  | .create _ _ call _ => some call
  | .consume call => some call
  | _ => none

/-- The call that a `Ledger.Op` is about. -/
def opCall? : Ledger.Op → Option ToolCall
  | .create _ _ call _ => some call
  | .consume call => some call
  | _ => none

/-- An event and its `ledgerOp?` are about one call. -/
theorem call?_eq_opCall? {e : Engine} {ev : Event} {op : Ledger.Op} (h : e.ledgerOp? ev = some op) :
    ev.call? = opCall? op := by
  have hruling : ∀ (m : Moment) (call : ToolCall) (r : Ruling),
      rulingOp? m call r = some op → some call = opCall? op := by
    intro m call r hr
    obtain ⟨-, rfl⟩ | ⟨id, reason, -, rfl⟩ := rulingOp?_eq_some.mp hr <;> rfl
  cases ev with
  | evaluate m call intent => exact hruling m call _ h
  | guard m call intent _ => exact hruling m call _ h
  | message now text =>
    obtain ⟨c, -, rfl⟩ := Option.map_eq_some_iff.mp h
    rfl
  | _ => cases h <;> rfl

/-- Inversion of `after` for one id: unchanged, `Mints`, `Settles`, `Consumes` while it is the
`approvedFor?`, or `Sweeps`. -/
theorem request_cases {e : Engine} (h : e.ledger.Coherent) (ev : Event) (id : RequestId) :
    (e.after ev).ledger.get? id = e.ledger.get? id ∨
      (e.Mints ev id ∧ ∃ now call reason, ev.call? = some call ∧
        (e.after ev).ledger.get? id = some (.raised id now call reason)) ∨
      (∃ now verdict r, e.Settles verdict ev id ∧ e.ledger.get? id = some r ∧
        (e.after ev).ledger.get? id = some (r.settled now verdict)) ∨
      (e.Consumes ev id ∧ ∃ call, ev.call? = some call ∧
        e.ledger.approvedFor? call.fingerprint = some id) ∨
      e.Sweeps ev id := by
  cases hop : e.ledgerOp? ev with
  | none => exact .inl (by rw [ledger_after, hop]; rfl)
  | some op =>
    have hafter : (e.after ev).ledger = e.ledger.after op := by rw [ledger_after, hop]; rfl
    have hsweep : ev.isSweep = true ↔ ∃ expiry now, op = .sweep expiry now := by
      rw [isSweep_iff (e := e), hop]
      simp
    rcases h.get?_after_cases op id with hsame | ⟨now, call, reason, rfl, hget⟩ |
      ⟨now, verdict, r, rfl, hr, hpending, hget⟩ | ⟨call, rfl, hfor, hget⟩ |
      ⟨expiry, now, r, rfl, hr, -, hget⟩
    · exact .inl (hafter ▸ hsame)
    · exact .inr (.inl ⟨mints_iff.mpr ⟨now, call, reason, hop⟩, now, call, reason,
        call?_eq_opCall? hop, hafter ▸ hget⟩)
    · have hstatus : e.ledger.status id = some .pending :=
        Ledger.status_eq_some.mpr ⟨r, hr, hpending⟩
      exact .inr (.inr (.inl ⟨now, verdict, r, settles_iff.mpr ⟨⟨now, hop⟩, hstatus⟩, hr,
        hafter ▸ hget⟩))
    · obtain ⟨r, hr, -⟩ := Ledger.status_eq_some.mp (Ledger.approvedFor?_eq_some.mp hfor).2
      have hnot : ev.isSweep = false := by
        rw [Bool.eq_false_iff, ne_eq, hsweep]
        simp
      exact .inr (.inr (.inr (.inl ⟨⟨hnot, by simp [hr], hafter ▸ hget⟩, call,
        call?_eq_opCall? hop, hfor⟩)))
    · exact .inr (.inr (.inr (.inr ⟨hsweep.mpr ⟨expiry, now, rfl⟩, by simp [hr], hafter ▸ hget⟩)))

end ToolGate.Engine

/-
The engine that decides about calls.

A call goes through four checks, and the first that has something to say decides: tools that are
exempt, protected paths, the rules, and, where the rules ask for approval, the ledger.

* `Policy` — what is decided before the ledger is asked; `Policy.rule` applies it to one call.
* `Engine` — a policy with a source of rules and a ledger.
* `Engine.evaluate`, `Engine.guard` — decide about a call, and run it only if it is allowed.
* `Engine.onMessage` — follow a command in a chat message.

The time, a fresh id and what stands at the path of the rules are given from outside, as a
`Moment`.
-/
import ToolGate.Engine.Ruling
import ToolGate.Rule.Cache

namespace ToolGate

open Approval

/-- What is decided before the ledger is asked. -/
structure Policy where
  /-- What to do when no rule covers a call. -/
  fallback : Action
  protection : Option Protection
  /-- Patterns of the names of tools that are exempt from all checks. -/
  internalTools : List Pattern
  deriving Inhabited

namespace Policy

/-- The patterns of exempt tools unless settings say otherwise. -/
def usualInternalTools : List String :=
  ["^pairing$", "^device[-_]?pair", "^pair\\b", "internal", "^openclaw\\."]

/-- The patterns of some texts, without regard to case. Texts that are no patterns are left out. -/
def compileInternal (texts : List String) : List Pattern := texts.filterMap (Pattern.compile true)

/-- The policy that holds unless settings say otherwise. -/
def usual : Policy := ⟨.requireApproval, some .usual, compileInternal usualInternalTools⟩

/-- The tool is exempt from all checks. -/
def exempts (p : Policy) (tool : String) : Bool := p.internalTools.any (·.accepts tool)

/-- The call changes a protected path. -/
def forbids (p : Policy) (call : ToolCall) : Bool :=
  match p.protection with
  | some protection => protection.forbids call
  | none => false

/-- The ruling about a call that the rules have been asked about. -/
def ruleMatched (m : RuleMatch) (ledger : Ledger) (now : Timestamp) (freshId : RequestId)
    (call : ToolCall) : Ruling × Ledger :=
  match m.decision with
  | .block => (.blocked m.reason, ledger)
  | .allow => (.allowed m.reason, ledger)
  | .requiresApproval =>
    match ledger.consume call with
    | (true, ledger) => (.approved, ledger)
    | (false, ledger) => (.requested freshId m.reason, ledger.create freshId now call m.reason)

/-- The ruling about a call, and the ledger after it. -/
def rule (p : Policy) (rules : List LoadedRule) (ledger : Ledger) (now : Timestamp)
    (freshId : RequestId) (call : ToolCall) (intent : Intent) : Ruling × Ledger :=
  if p.exempts call.tool then (.internalTool, ledger)
  else if p.forbids call then (.protectedPath, ledger)
  else ruleMatched (matchRules call intent rules p.fallback) ledger now freshId call

end Policy

/-- What the outside gives when a call arrives. -/
structure Moment where
  now : Timestamp
  /-- An id that no request has had yet. -/
  freshId : RequestId
  /-- What stands at the path of the rules. -/
  rulesFile : Option Snapshot

/-- A policy with a source of rules and a ledger. -/
structure Engine where
  policy : Policy
  source : RuleSource
  ledger : Ledger

/-- What came of a chat message with a command. -/
structure Resolution where
  command : Command
  /-- The command settled a request. -/
  applied : Bool
  deriving Repr, DecidableEq

/-- A call that was decided about, and what running it gave if it was run. -/
structure Guarded (β : Type) where
  evaluation : Evaluation
  output : Option β

/-- The call was run. -/
def Guarded.executed {β : Type} (g : Guarded β) : Bool := g.output.isSome

namespace Engine

/-- The usual policy over given rules. -/
def withRules (rules : List Rule) : Engine := ⟨.usual, .given (rules.map Rule.load), .empty⟩

/-- The rules are asked for only when neither of the first two checks decides. -/
def asksRules (e : Engine) (call : ToolCall) : Bool :=
  !e.policy.exempts call.tool && !e.policy.forbids call

/-- Decide about a call. -/
def judge (e : Engine) (m : Moment) (call : ToolCall) (intent : Intent) : Ruling × Engine :=
  let (rules, source) := if e.asksRules call then e.source.load m.rulesFile else ([], e.source)
  let (ruling, ledger) := e.policy.rule rules e.ledger m.now m.freshId call intent
  (ruling, { e with source, ledger })

/-- Decide about a call, and say what the caller is told. -/
def evaluate (e : Engine) (m : Moment) (call : ToolCall) (intent : Intent) : Evaluation × Engine :=
  let (ruling, e) := e.judge m call intent
  (ruling.evaluation call, e)

/-- Decide about a call and run it if it is allowed. -/
def guard {β : Type} (e : Engine) (m : Moment) (call : ToolCall) (intent : Intent)
    (execute : ToolCall → β) : Guarded β × Engine :=
  let (evaluation, e) := e.evaluate m call intent
  (⟨evaluation, if evaluation.decision = .allow then some (execute call) else none⟩, e)

/-- Follow the command in a chat message, if there is one. -/
def onMessage (e : Engine) (now : Timestamp) (text : String) : Option Resolution × Engine :=
  match Command.parse? text with
  | none => (none, e)
  | some command =>
    let (applied, ledger) := e.ledger.resolve now command.id command.verdict
    (some ⟨command, applied⟩, { e with ledger })

/-- Drop requests that have outlived a policy, and count them. -/
def sweep (e : Engine) (expiry : ExpiryPolicy) (now : Timestamp) : Nat × Engine :=
  let (count, ledger) := e.ledger.sweep expiry now
  (count, { e with ledger })

end Engine

end ToolGate

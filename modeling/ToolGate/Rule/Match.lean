/-
Which rule decides about a call.

* `LoadedRule` — a rule with its patterns.
* `LoadedRule.covers` — whether a rule has a say in a call.
* `matchRules` — the first rule that has a say decides, unless one that blocks has: then the
  first of those does. Without any, a given action does.
-/
import ToolGate.Rule.Basic
import ToolGate.Pattern.Basic

namespace ToolGate

/-- A pattern that a rule may ask for: there is none, there is one, or the text is no pattern. -/
inductive Clause where
  | absent
  | present (pattern : Pattern)
  | broken
  deriving Inhabited

/-- The clause of an optional pattern. -/
def Clause.ofText (ignoreCase : Bool) : Option String → Clause
  | none => .absent
  | some text =>
    match Pattern.compile ignoreCase text with
    | some p => .present p
    | none => .broken

/-- The text of a clause was no pattern. -/
def Clause.isBroken : Clause → Bool
  | .broken => true
  | _ => false

/-- The clause asks for a pattern that the text has. -/
def Clause.asksAndHolds (clause : Clause) (text : String) : Bool :=
  match clause with
  | .present p => p.accepts text
  | _ => false

/-- The clause asks for nothing, or for a pattern that the text has. -/
def Clause.holds (clause : Clause) (text : String) : Bool :=
  match clause with
  | .present p => p.accepts text
  | _ => true

/-- A rule with its patterns. Goals are compared without regard to case, names with. -/
structure LoadedRule where
  rule : Rule
  tool : Clause
  goal : Clause
  tool_eq : tool = Clause.ofText false rule.toolPattern
  goal_eq : goal = Clause.ofText true rule.intentPattern

/-- A rule with its patterns. -/
def Rule.load (rule : Rule) : LoadedRule :=
  ⟨rule, Clause.ofText false rule.toolPattern, Clause.ofText true rule.intentPattern, rfl, rfl⟩

namespace LoadedRule

/-- The rule has a say in the call: its patterns are patterns, the tool is the one it names or
has the pattern it asks for, and so has the goal. -/
def covers (loaded : LoadedRule) (call : ToolCall) (intent : Intent) : Bool :=
  !loaded.tool.isBroken && !loaded.goal.isBroken &&
    (loaded.rule.tool == some call.tool || loaded.tool.asksAndHolds call.tool) &&
    loaded.goal.holds intent.text

end LoadedRule

/-- What the rules say about a call. -/
structure RuleMatch where
  decision : Decision
  reason : String
  deriving Repr, DecidableEq

/-- The reason that is given when no rule has a say. -/
def noMatchReason : String := "No matching rule"

/-- The reason that is given for a rule without one. -/
def unnamedReason : String := "Rule matched"

/-- What a rule that decides says. -/
def Rule.outcome (rule : Rule) : RuleMatch :=
  ⟨.ofAction rule.action, if rule.reason.isEmpty then unnamedReason else rule.reason⟩

/-- The rule that decides: the first that covers the call, `chosen` if there was one already,
unless a rule that blocks follows. -/
def decidingRule (call : ToolCall) (intent : Intent) :
    Option Rule → List LoadedRule → Option Rule
  | chosen, [] => chosen
  | chosen, loaded :: rest =>
    if loaded.covers call intent then
      if loaded.rule.action = .block then some loaded.rule
      else decidingRule call intent (chosen <|> some loaded.rule) rest
    else decidingRule call intent chosen rest

/-- What the rules say about a call; `fallback` is for calls in which none has a say. -/
def matchRules (call : ToolCall) (intent : Intent) (rules : List LoadedRule) (fallback : Action) :
    RuleMatch :=
  match decidingRule call intent none rules with
  | some rule => rule.outcome
  | none => ⟨.ofAction fallback, noMatchReason⟩

end ToolGate

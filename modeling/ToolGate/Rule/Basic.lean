/-
Rules: what may be done with which tools, for which goals.

* `Rule` — one rule, and its JSON record.
* `Rule.Document` — a list of rules as it stands in a file, `{"rules": […]}`.
* `Rule.forTool`, `Rule.forPattern`, `Rule.standingAllowance` — rules for common needs.
-/
import ToolGate.Action
import ToolGate.ToolCall
import ToolGate.Json.Printer

namespace ToolGate

/-- A rule. It covers a tool by name or by a pattern found in the name, and may ask for a pattern
in the goal. -/
structure Rule where
  action : Action
  tool : Option String
  toolPattern : Option String
  intentPattern : Option String
  reason : String
  deriving Repr, DecidableEq, Inhabited

namespace Rule

/-- A rule about one tool. -/
def forTool (action : Action) (tool reason : String) : Rule :=
  ⟨action, some tool, none, none, reason⟩

/-- A rule about the tools whose names have a pattern. -/
def forPattern (action : Action) (pattern reason : String) : Rule :=
  ⟨action, none, some pattern, none, reason⟩

/-- The rule, for goals with a pattern only. -/
def withIntent (rule : Rule) (pattern : String) : Rule :=
  { rule with intentPattern := some pattern }

/-- A rule that lets the tool of a call through from the given day on. -/
def standingAllowance (call : ToolCall) (day : String) : Rule :=
  forTool .allow call.tool ("User approved forever on " ++ day)

/-- Rules as JSON records. -/
def decoder : Json.Decoder Rule :=
  .record "CompiledRule" ⟨default, none, none, none, ""⟩ [
    .required "action" Action.decoder fun action rule => { rule with action },
    .optional "tool" (.optional .text) fun tool rule => { rule with tool },
    .optional "toolPattern" (.optional .text) fun toolPattern rule => { rule with toolPattern },
    .optional "intentPattern" (.optional .text) fun intentPattern rule =>
      { rule with intentPattern },
    .optional "reason" .text fun reason rule => { rule with reason }]

/-- A field that is left out when there is nothing in it. -/
def optionalField (name : String) : Option String → Json.Fields
  | none => []
  | some s => [(name, .text s)]

/-- A rule as a JSON record. -/
def toJson (rule : Rule) : Json :=
  .object ([("action", .text rule.action.name)] ++ optionalField "tool" rule.tool ++
    optionalField "toolPattern" rule.toolPattern ++
    optionalField "intentPattern" rule.intentPattern ++ [("reason", .text rule.reason)])

/-! ## Documents -/

/-- A list of rules as it stands in a file. -/
structure Document where
  rules : List Rule
  deriving Repr, DecidableEq, Inhabited

namespace Document

/-- Documents as JSON records. Without the field there are no rules. -/
def decoder : Json.Decoder Document :=
  .record "RulesDocument" ⟨[]⟩ [.optional "rules" (.listOf Rule.decoder) fun rules _ => ⟨rules⟩]

/-- Read a document. -/
def read (text : String) : Except Json.Error Document := decoder.decode text

/-- A document as a JSON record. -/
def toJson (doc : Document) : Json := .object [("rules", .list (doc.rules.map Rule.toJson))]

/-- The text of a document. -/
def render (doc : Document) : String := doc.toJson.toPrettyText

/-- The rules in the text of a file; none if there is no readable document. -/
def rulesOrNone (text : Option String) : List Rule :=
  match text with
  | none => []
  | some text =>
    match read text with
    | .ok doc => doc.rules
    | .error _ => []

end Document

end Rule

end ToolGate

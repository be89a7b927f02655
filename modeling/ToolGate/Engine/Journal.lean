/-
What is written to the journal of decisions.

* `Notice` — an entry: how serious it is, and its text.
* `Ruling.notice?`, `Resolution.notice?` — the entries about what happened.
* `decisionLine` — one line for each decision, its parts separated by tabs.
-/
import ToolGate.Engine.Basic

namespace ToolGate

/-- How serious an entry is. -/
inductive Notice.Level where
  | info
  | warning
  deriving Repr, DecidableEq

/-- The name of a level. -/
def Notice.Level.name : Notice.Level → String
  | .info => "INFO"
  | .warning => "WARN"

/-- An entry of the journal. -/
structure Notice where
  level : Notice.Level
  text : String
  deriving Repr, DecidableEq

/-- An entry as it is written, after the time. -/
def Notice.render (n : Notice) : String := "[" ++ n.level.name ++ "] " ++ n.text

/-- The entry about a ruling. -/
def Ruling.notice? (call : ToolCall) : Ruling → Option Notice
  | .internalTool => none
  | .protectedPath => some ⟨.warning, "BLOCKED: protected path - " ++ call.tool⟩
  | .blocked reason => some ⟨.warning, "BLOCKED: " ++ call.tool ++ " (" ++ reason ++ ")"⟩
  | .allowed _ => none
  | .approved => some ⟨.info, "ALLOWED: " ++ call.tool ++ " approved by user, one-use consumed"⟩
  | .requested id reason =>
    some ⟨.warning,
      "REQUIRES_APPROVAL: " ++ call.tool ++ " (" ++ reason ++ ") request=" ++ id.render⟩

/-- The entry about a request that was settled. -/
def Resolution.notice? (r : Resolution) : Option Notice :=
  if r.applied then
    some ⟨.info, "user " ++ r.command.verdict.pastName ++ " request " ++ r.command.id.render⟩
  else none

/-- A reason on one line: an empty line, or the end of a line, becomes a semicolon. -/
def flatten : List Char → List Char
  | [] => []
  | '\n' :: '\n' :: cs => ';' :: ' ' :: flatten cs
  | '\n' :: cs => ';' :: ' ' :: flatten cs
  | c :: cs => c :: flatten cs

/-- How much of a tool's name a line shows. -/
def shownNameLength : Nat := 200

/-- The line about one decision: the decision, the tool, the request and the reason. -/
def decisionLine (call : ToolCall) (e : Evaluation) : String :=
  let request := match e.requestId with
    | some id => id.render
    | none => "-"
  e.decision.name ++ "\t" ++ String.ofList (call.tool.toList.take shownNameLength) ++ "\t" ++
    request ++ "\t" ++ String.ofList (flatten e.reason.toList)

end ToolGate

/-
What the gate answers the host.

* `Response` — the answer to one event; `Response.toJson` is its record.
* `respond` — the answer to a line, with what is written to the journal.
-/
import ToolGate.Engine.Journal
import ToolGate.Host.Event
import ToolGate.Json.Printer

namespace ToolGate.Host

/-- The answer to one line. -/
inductive Response where
  /-- What was decided about a call. -/
  | decided (evaluation : Evaluation)
  /-- What came of a command in a message. -/
  | settled (resolution : Resolution)
  /-- The message held no command. -/
  | unhandled
  /-- The line is no event. -/
  | refused (error : Json.Error)
  deriving Repr

namespace Response

/-- Null, or what is there. -/
def orNull {α : Type} (f : α → Json) : Option α → Json
  | none => .null
  | some a => f a

/-- An answer as a JSON record. The reason is given only for a call that must not be made. -/
def toJson : Response → Json
  | .decided e =>
    .object [
      ("block", .boolean e.isBlocked),
      ("blockReason", if e.isBlocked then .text e.reason else .null),
      ("decision", .text e.decision.name),
      ("requestId", orNull (fun id => .text id.render) e.requestId)]
  | .settled r =>
    .object [
      ("command", .text r.command.verdict.name),
      ("handled", .boolean r.applied),
      ("requestId", .text r.command.id.render)]
  | .unhandled => .object [("handled", .boolean false)]
  | .refused e => .object [("error", .text ("invalid event: " ++ e.message))]

/-- An answer as one line. -/
def render (r : Response) : String := r.toJson.toText

end Response

/-- The answer to an event, the entries for the journal in their order, and the engine after
it. -/
def answer (engine : Engine) (m : Moment) : Event → Response × List Notice × Engine
  | .beforeCall call intent =>
    let (ruling, engine) := engine.judge m call intent
    let e := ruling.evaluation call
    (.decided e, (ruling.notice? call).toList ++ [⟨.info, decisionLine call e⟩], engine)
  | .message text =>
    match engine.onMessage m.now text with
    | (some r, engine) => (.settled r, r.notice?.toList, engine)
    | (none, engine) => (.unhandled, [], engine)

/-- The answer to a line, the entries for the journal in their order, and the engine after it. -/
def respond (engine : Engine) (m : Moment) (line : String) : Response × List Notice × Engine :=
  match Event.read line with
  | .error e => (.refused e, [], engine)
  | .ok event => answer engine m event

end ToolGate.Host

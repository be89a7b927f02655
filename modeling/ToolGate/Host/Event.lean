/-
What the host tells the gate.

* `Event` — a tool is about to be called, or a message has come in.
* `Event.read` — an event written as a JSON record.
-/
import ToolGate.Json.Tagged
import ToolGate.ToolCall

namespace ToolGate.Host

/-- What the host tells. -/
inductive Event where
  /-- A tool is about to be called, for a goal. -/
  | beforeCall (call : ToolCall) (intent : Intent)
  /-- A chat message has come in. -/
  | message (text : String)
  deriving Repr

namespace Event

/-- The field that says which event a record is. -/
def tag : String := "event"

/-- A tool is about to be called. The arguments and the goal may be left out. -/
def beforeCallVariant : Json.Variant Event :=
  .record "before_tool_call" "struct variant HostEvent::BeforeToolCall"
    ((⟨"", []⟩, ⟨""⟩) : ToolCall × Intent) [
      .required "toolName" .text fun tool (call, intent) => ({ call with tool }, intent),
      .optional "params" .anyObject fun args (call, intent) => ({ call with args }, intent),
      .optional "intent" .text fun text (call, _) => (call, ⟨text⟩)]
    fun (call, intent) => .beforeCall call intent

/-- A message has come in. Its text may be left out. -/
def messageVariant : Json.Variant Event :=
  .record "message_received" "struct variant HostEvent::MessageReceived" ""
    [.optional "content" .text fun text _ => text] .message

/-- An event written as a JSON record. -/
def read (line : String) : Except Json.Error Event :=
  Json.decodeTagged tag "internally tagged enum HostEvent" [beforeCallVariant, messageVariant] line

end Event

end ToolGate.Host

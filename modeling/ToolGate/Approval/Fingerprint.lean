/-
The fingerprint of a call: its tool and arguments as one text, in which the order of keys plays
no part.
-/
import ToolGate.ToolCall
import ToolGate.Json.Printer

namespace ToolGate.Approval

/-- The tool's name, a colon, and the arguments on one line with the keys of every object in
order. -/
def fingerprint (tool : String) (args : Json.Fields) : String :=
  tool ++ ":" ++ (Json.canonical (.object args)).toText

end ToolGate.Approval

namespace ToolGate

/-- The fingerprint of a call. -/
def ToolCall.fingerprint (call : ToolCall) : String := Approval.fingerprint call.tool call.args

end ToolGate

/-
A call of a tool, and the goal it is made for.

* `ToolCall` — the tool's name and the arguments.
* `Intent` — the goal, in words.
* `ToolCall.path?` — the file that a call names, under the first of the usual keys that holds a
  text.
-/
import ToolGate.Json.Decoder

namespace ToolGate

/-- A call of a tool. -/
structure ToolCall where
  tool : String
  args : Json.Fields
  deriving Repr, Inhabited

/-- The goal of a call, in words. -/
structure Intent where
  text : String
  deriving Repr, DecidableEq, Inhabited

/-- The keys of arguments that name a file, in the order in which they count. -/
def pathKeys : List String := ["path", "file_path", "filePath", "filename"]

namespace ToolCall

/-- The text under a key of the arguments. -/
def textArgument? (call : ToolCall) (key : String) : Option String :=
  (Json.field? key call.args).bind Json.asText?

/-- The file that the call names. -/
def path? (call : ToolCall) : Option String :=
  pathKeys.findSome? call.textArgument?

/-- Calls as JSON records. -/
def decoder : Json.Decoder ToolCall :=
  .record "ToolCall" ⟨"", []⟩ [
    .required "toolName" .text fun tool call => { call with tool },
    .optional "args" .anyObject fun args call => { call with args }]

/-- A call as a JSON record. -/
def toJson (call : ToolCall) : Json :=
  .object [("toolName", .text call.tool), ("args", .object call.args)]

end ToolCall

namespace Intent

/-- Goals as JSON records. -/
def decoder : Json.Decoder Intent :=
  .record "Intent" ⟨""⟩ [.required "text" .text fun text _ => ⟨text⟩]

/-- A goal as a JSON record. -/
def toJson (intent : Intent) : Json := .object [("text", .text intent.text)]

end Intent

end ToolGate

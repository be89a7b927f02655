/-
Verdicts in chat messages.

A command is `approve` or `deny`, blanks and the id of a request. The word may have a slash in
front, and the slashed word may stand in front of it once more. A command starts where the
message does or after a blank, in any letter case; what follows the id does not matter. If a
message has commands of both kinds, the first that approves counts.

* `readCommand` — the command of a verdict at the start of some characters.
* `findCommand` — the first command of a verdict in a message.
* `Command.parse?` — the command that a message gives.
* `requestMessage` — the message that asks for a command.
-/
import ToolGate.Action
import ToolGate.RequestId

namespace ToolGate.Approval

/-- A verdict on a request. -/
structure Command where
  id : RequestId
  verdict : Verdict
  deriving Repr, DecidableEq

/-- What follows a word, given in lower case, whose letters may be of either case. -/
def afterWord? : List Char → List Char → Option (List Char)
  | [], cs => some cs
  | _ :: _, [] => none
  | w :: ws, c :: cs => if Action.lowerAscii c = w then afterWord? ws cs else none

/-- What follows at least one blank. -/
def afterBlanks? : List Char → Option (List Char)
  | [] => none
  | c :: cs => if Text.isBlank c then some (cs.dropWhile Text.isBlank) else none

/-- What follows a slash, if there is one; otherwise everything. -/
def afterSlash : List Char → List Char
  | '/' :: cs => cs
  | cs => cs

/-- The id after a word and blanks. -/
def readWordAndId (word cs : List Char) : Option RequestId := do
  let cs ← afterWord? word cs
  let cs ← afterBlanks? cs
  let (id, _) ← RequestId.scan cs
  some id

/-- The id of a command at the start of some characters, where the slashed word has not been
written twice. -/
def readOnce (word cs : List Char) : Option RequestId := readWordAndId word (afterSlash cs)

/-- The id of a command at the start of some characters, where the slashed word has been written
in front of another command. -/
def readTwice (word cs : List Char) : Option RequestId :=
  match cs with
  | '/' :: cs => do
    let cs ← afterWord? word cs
    let cs ← afterBlanks? cs
    readOnce word cs
  | _ => none

/-- The id of a command at the start of some characters. -/
def readCommand (word cs : List Char) : Option RequestId := readTwice word cs <|> readOnce word cs

/-- The id of the first command that follows a blank. -/
def findAfterBlank (word : List Char) : List Char → Option RequestId
  | [] => none
  | c :: cs =>
    if Text.isBlank c then readCommand word cs <|> findAfterBlank word cs
    else findAfterBlank word cs

/-- The id of the first command of a verdict. -/
def findCommand (verdict : Verdict) (cs : List Char) : Option RequestId :=
  let word := verdict.name.toList
  readCommand word cs <|> findAfterBlank word cs

/-- The command that a message gives. -/
def Command.parse? (text : String) : Option Command :=
  let cs := Text.trim text.toList
  ((findCommand .approve cs).map fun id => ⟨id, .approve⟩) <|>
    ((findCommand .deny cs).map fun id => ⟨id, .deny⟩)

/-- What the caller of a tool is told when a person has to decide. -/
def requestMessage (reason : String) (id : RequestId) : String :=
  "[Approval required] " ++ reason ++ "\n\nRequest ID: " ++ id.render ++
    "\n\nAsk the user: Reply approve " ++ id.render ++ " to allow this action, or deny " ++
    id.render ++ " to block it. This is a one-use approval; after approving, retry the same action."

end ToolGate.Approval

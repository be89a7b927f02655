/-
Rules in plain words.

A text lists them one a line, each after a hyphen; they may stand in quotes. Other lines are
remarks.

* `plainRule?` — the rule of one line.
* `plainRules` — the rules of a text.
* `starterText` — the text that a user starts with.
-/
import ToolGate.Text.Blank

namespace ToolGate.Authoring

/-- A single or double quote. -/
def isQuote (c : Char) : Bool := c = '"' || c = '\''

/-- The rule of a line: what follows the hyphen, without blanks and then quotes around it. -/
def plainRule? (line : List Char) : Option (List Char) :=
  match Text.trim line with
  | '-' :: rest =>
    let rule := Text.trim (Text.dropEnd isQuote (Text.dropStart isQuote (Text.trimStart rest)))
    if rule.isEmpty then none else some rule
  | _ => none

/-- The rules of a text. -/
def plainRules (text : String) : List String :=
  (Text.lines text.toList).filterMap fun line => (plainRule? line).map String.ofList

/-- The text that a user starts with. -/
def starterText : String :=
  "# AI Permissions - edit, then compile into rules.json\n" ++
  "- block gmail.delete and gmail.batchDelete - never auto-delete emails\n" ++
  "- require approval before exec, bash, or process - ask before running commands\n" ++
  "- require approval before write, edit, apply_patch - ask before file changes\n" ++
  "- allow read, search, list - safe read-only operations\n"

end ToolGate.Authoring

/-
From plain words to rules, by way of a language model.

* `prompt` — what the model is asked.
* `insideFence` — what the model answered, without a code fence around it.
* `compile` — the rules that the answer lists.
* `Failure` — what can go wrong.
-/
import ToolGate.Authoring.PlainRules
import ToolGate.Rule.Basic
import ToolGate.Storage.Basic

namespace ToolGate.Authoring

/-- What can go wrong with rules that are being made. -/
inductive Failure where
  /-- The model could not be asked. -/
  | model (message : String)
  /-- The model's answer is no list of rules. -/
  | answer (error : Json.Error)
  /-- A file could not be read or written. -/
  | file (path : String) (error : StorageError)
  deriving Repr, DecidableEq

/-- The wording of a failure. -/
def Failure.message : Failure → String
  | .model message => "language model request failed: " ++ message
  | .answer error => "compiler output is not a rules document: " ++ error.message
  | .file path error => path ++ ": " ++ error.message

/-- What the model is told before the rules. -/
def instructions : String :=
  "You are a rule extractor. Convert user rules into structured JSON.\n" ++
  "\n" ++
  "Rules:\n" ++
  "- \"don't allow\" / \"never\" / \"block\" → action: \"block\"\n" ++
  "- \"ask me\" / \"prompt me\" / \"before X\" → action: \"require_approval\" " ++
  "(NEVER \"allow\")\n" ++
  "- \"allow\" → action: \"allow\"\n" ++
  "\n" ++
  "Output ONLY valid JSON: \x7b \"rules\": [ \x7b \"action\": \"...\", \"tool\": \"...\", " ++
  "\"reason\": \"...\" \x7d ] \x7d\n" ++
  "Include tool names when inferable (e.g. gmail.delete, gmail.batchDelete for email delete).\n"

/-- Rules in plain words, one a line. -/
def listing (rules : List String) : String :=
  String.intercalate "\n" (rules.map ("- " ++ ·))

/-- What the model is asked. -/
def prompt (rules : List String) : String := instructions ++ "\n\nUser rules:\n" ++ listing rules

/-- The mark before and after fenced code. -/
def fence : List Char := ['`', '`', '`']

/-- What follows the first line. -/
def afterFirstLine : List Char → List Char
  | [] => []
  | c :: cs => if c = '\n' then cs else afterFirstLine cs

/-- An answer without blanks around it and without a fence. A fence that is not closed goes on to
the end. -/
def insideFence (text : List Char) : List Char :=
  let trimmed := Text.trim text
  match Text.afterStart? fence trimmed with
  | none => trimmed
  | some rest =>
    let body := afterFirstLine rest
    Text.trim ((Text.beforeEnd? fence (Text.trimEnd body)).getD body)

/-- A language model: it answers a prompt, or fails to. -/
abbrev LanguageModel := String → Except Failure String

/-- The rules that the model makes of rules in plain words. -/
def compile (rules : List String) (model : LanguageModel) : Except Failure (List Rule) :=
  match model (prompt rules) with
  | .error failure => .error failure
  | .ok reply =>
    match Rule.Document.read (String.ofList (insideFence reply.toList)) with
    | .error e => .error (.answer e)
    | .ok doc => .ok doc.rules

end ToolGate.Authoring

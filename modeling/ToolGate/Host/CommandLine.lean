/-
The command line of the gate.

* `Flags` — what the words on the command line set; `Flags.apply` puts them into the settings.
* `Invocation.ofWords` — what a command line asks for.
* `Misuse.message` — what is wrong with one that asks for nothing.
-/
import ToolGate.Settings.Basic

namespace ToolGate.Host

/-- What the words on the command line set. -/
structure Flags where
  rulesPath : Option String
  fallback : Option Action
  /-- Paths are not protected. -/
  unprotected : Bool
  deriving Repr, DecidableEq

namespace Flags

/-- Nothing is set. -/
def none : Flags := ⟨.none, .none, false⟩

/-- Settings with what the command line sets. -/
def apply (f : Flags) (s : Settings) : Settings :=
  { s with
    rulesPath := f.rulesPath.getD s.rulesPath
    fallback := f.fallback.getD s.fallback
    protects := s.protects && !f.unprotected }

end Flags

/-- What can be wrong with a command line. -/
inductive Misuse where
  | missingPath
  | missingAction
  | unknownAction (word : String)
  | unknownWord (word : String)
  deriving Repr, DecidableEq

/-- What a command line asks for. -/
inductive Invocation where
  | help
  | serve (flags : Flags)
  | misuse (cause : Misuse)
  deriving Repr, DecidableEq

/-- The name of the program. -/
def programName : String := "ai-permissions"

/-- How the program is used. -/
def usage : String :=
  "usage: ai-permissions [--rules <path>] " ++
  "[--default-when-no-match <allow|block|require_approval>]\n" ++
  "                      [--no-path-protection]\n" ++
  "\n" ++
  "Reads line-delimited JSON events on stdin and writes one decision per line to stdout."

namespace Misuse

/-- What is wrong. -/
def cause : Misuse → String
  | .missingPath => "--rules needs a path"
  | .missingAction => "--default-when-no-match needs a value"
  | .unknownAction word => "unknown action: " ++ word
  | .unknownWord word => "unknown argument: " ++ word

/-- What is wrong, and how the program is used. -/
def message (m : Misuse) : String := programName ++ ": " ++ m.cause ++ "\n\n" ++ usage

end Misuse

/-- The flags of some words, added to those of the words before them. -/
def readFlags : Flags → List String → Except Misuse Flags
  | flags, [] => .ok flags
  | flags, "--rules" :: words =>
    match words with
    | [] => .error .missingPath
    | path :: words => readFlags { flags with rulesPath := some path } words
  | flags, "--default-when-no-match" :: words =>
    match words with
    | [] => .error .missingAction
    | word :: words =>
      match Action.ofName? word with
      | some action => readFlags { flags with fallback := some action } words
      | none => .error (.unknownAction word)
  | flags, "--no-path-protection" :: words => readFlags { flags with unprotected := true } words
  | _, word :: _ => .error (.unknownWord word)

/-- A word that asks for help, wherever it stands. -/
def isHelp (word : String) : Bool := word = "-h" || word = "--help"

/-- What a command line asks for. -/
def Invocation.ofWords (words : List String) : Invocation :=
  if words.any isHelp then .help
  else
    match readFlags .none words with
    | .ok flags => .serve flags
    | .error m => .misuse m

end ToolGate.Host

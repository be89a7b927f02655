/-
The environment in which the program runs.

* `Environment` — variables with their values, and the home folder of the account.
* `Environment.expand` — a path with variables put in, and the home folder for a tilde.
* `Environment.atHome?` — a path below the home folder.
-/
import ToolGate.Text.Template

namespace ToolGate

/-- Variables with their values, and the home folder that the account has on this machine. -/
structure Environment where
  bindings : List (String × String)
  accountHome? : Option String := none
  deriving Repr, DecidableEq

namespace Environment

/-- The value of a variable, if it is set. -/
def get? (env : Environment) (name : String) : Option String :=
  (env.bindings.find? (·.1 == name)).map (·.2)

/-- The variable that holds the home folder. -/
def homeVariable : String := "HOME"

/-- The home folder, if the variable for it is set. -/
def home? (env : Environment) : Option String := env.get? homeVariable

/-- A path below a folder. -/
def below (folder path : String) : String :=
  match folder.toList.getLast? with
  | none => path
  | some '/' => folder ++ path
  | some _ => folder ++ "/" ++ path

/-- A path below the home folder. -/
def atHome? (env : Environment) (path : String) : Option String := env.home?.map (below · path)

/-- The path is, or starts with, a tilde. -/
def startsWithTilde (cs : List Char) : Bool := cs.head? == some '~'

/-- The folder that a tilde stands for: that of the variable unless it is unset or empty, and the
account's otherwise. -/
def tildeFolder? (env : Environment) : Option String :=
  (env.home?.filter (!·.isEmpty)).or env.accountHome?

/-- The path with the home folder for a tilde that is its first part. -/
def expandTilde (env : Environment) (path : List Char) : List Char :=
  match path with
  | '~' :: rest =>
    if rest.isEmpty || rest.head? == some '/' then
      match env.tildeFolder? with
      | some home => home.toList ++ rest
      | none => path
    else path
  | _ => path

/-- The path with the values of its variables, and the home folder for a tilde. A tilde that only
comes from a variable stays; if a variable has no value, all of them stay. -/
def expand (env : Environment) (path : String) : String :=
  let written := path.toList
  String.ofList <|
    match (Text.Template.ofText written).fill env.get? with
    | none => env.expandTilde written
    | some filled =>
      if startsWithTilde filled && !startsWithTilde written then filled
      else env.expandTilde filled

end Environment

end ToolGate

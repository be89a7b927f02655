/-
What the program needs of the files around it.

* `Storage` — the operations, in any monad that has files.
* `StorageError` — how they fail; `StorageError.message` is the system's wording.
* `parent?` — the folder in which a path lies.
-/
import ToolGate.Rule.Cache

namespace ToolGate

/-- How an operation on files fails. -/
inductive StorageError where
  | notFound
  | alreadyExists
  | notAFolder
  | isAFolder
  | notText
  | other (message : String)
  deriving Repr, DecidableEq

/-- The system's wording of a failure. -/
def StorageError.message : StorageError → String
  | .notFound => "No such file or directory (os error 2)"
  | .alreadyExists => "File exists (os error 17)"
  | .notAFolder => "Not a directory (os error 20)"
  | .isAFolder => "Is a directory (os error 21)"
  | .notText => "stream did not contain valid UTF-8"
  | .other message => message

/-- The operations on files. -/
class Storage (m : Type → Type) where
  /-- Something stands at a path. -/
  pathExists : String → m Bool
  /-- Create a folder and those it lies in, where they are missing. -/
  createFolders : String → m (Except StorageError Unit)
  /-- The text of a file. -/
  readText : String → m (Except StorageError String)
  /-- Give a file a text, creating the file if it is missing. -/
  writeText : String → String → m (Except StorageError Unit)
  /-- Add a text at the end of a file, creating the file if it is missing. -/
  appendText : String → String → m (Except StorageError Unit)
  /-- What stands at a path at this moment. -/
  snapshot : String → m (Option Snapshot)

namespace Storage

/-- Characters without slashes, and parts that name nothing, at their end. -/
def dropTail (cs : List Char) : List Char :=
  (go cs.reverse).reverse
where
  /-- The same from the end. -/
  go : List Char → List Char
    | '/' :: cs => go cs
    | '.' :: '/' :: cs => go cs
    | cs => cs

/-- The folder in which a path lies: empty for a name alone, none for the root or the empty
path. -/
def parent? (path : String) : Option String :=
  let cs := path.toList
  match dropTail cs with
  | [] => none
  | trimmed =>
    let folder := (trimmed.reverse.dropWhile (· ≠ '/')).reverse
    let parent := dropTail folder
    some (String.ofList
      (if parent.isEmpty then (if cs.head? = some '/' then ['/'] else []) else parent))

end Storage

end ToolGate

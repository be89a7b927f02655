/-
The files in which rules are kept: those in plain words, and those made of them.

* `ensurePlainRules`, `readPlainRules` — the text in plain words, which starts with some rules.
* `writeRules`, `loadRulesFile` — the list of rules.
-/
import ToolGate.Authoring.Compile

namespace ToolGate.Authoring

variable {m : Type → Type} [Monad m] [Storage m]

/-- Write a file, after creating the folder it lies in. -/
def writeInFolder (path text : String) : m (Except Failure Unit) := do
  let created ← match Storage.parent? path with
    | some folder => Storage.createFolders folder
    | none => pure (.ok ())
  match created with
  | .error e => pure (.error (.file path e))
  | .ok () =>
    let written ← Storage.writeText path text
    pure (written.mapError (.file path ·))

/-- Write the starter text, unless something stands at the path. Tell whether it was written. -/
def ensurePlainRules (path : String) : m (Except Failure Bool) := do
  if ← Storage.pathExists path then pure (.ok false)
  else
    let written ← writeInFolder path starterText
    pure (written.map fun () => true)

/-- The rules in plain words of a file, which is written first if it is missing. -/
def readPlainRules (path : String) : m (Except Failure (List String)) := do
  match ← ensurePlainRules path with
  | .error failure => pure (.error failure)
  | .ok _ =>
    let text ← Storage.readText path
    pure ((text.map plainRules).mapError (.file path ·))

/-- Write a list of rules. -/
def writeRules (path : String) (rules : List Rule) : m (Except Failure Unit) :=
  writeInFolder path (Rule.Document.render ⟨rules⟩)

/-- The rules of a file; none if there is no readable list. -/
def loadRulesFile (path : String) : m (List Rule) := do
  let text ← Storage.readText path
  pure (Rule.Document.rulesOrNone text.toOption)

end ToolGate.Authoring

/-
Where the files of the gate are, and the engine that looks after them.

* `Settings.rulesFile` — the path of the rules; `Settings.userFile?` and `Settings.journalFile?` —
  the paths of the user's changes and of the journal.
* `Settings.ownPaths` — the paths that are protected whatever the lists say.
* `Settings.policy`, `Settings.engine` — the policy and the engine that the settings ask for.
-/
import ToolGate.Environment
import ToolGate.Settings.Overlay

namespace ToolGate.Settings

/-- The path of the file with the user's changes. -/
def userFile? (env : Environment) : Option String := env.atHome? (folder ++ "/config.toml")

/-- The path of the journal of decisions. -/
def journalFile? (env : Environment) : Option String :=
  env.atHome? ".local/share/ai-permissions-layer/decisions.log"

/-- The path of the rules. -/
def rulesFile (env : Environment) (s : Settings) : String := env.expand s.rulesPath

/-- The globs that accept a path alone; one that starts in no fixed place is accepted below any
folder. -/
def exactly (path : String) : List String :=
  let cs := (Protection.slashed path).toList
  let literal := String.ofList (Glob.escape cs)
  if cs.head? = some '/' then [literal] else [literal, "**/" ++ literal]

/-- The paths of the files that say what is allowed. -/
def ownPaths (env : Environment) (s : Settings) : List String :=
  s.rulesFile env :: (userFile? env).toList

/-- The protected paths of the settings with the files that say what is allowed. -/
def effectiveProtection (env : Environment) (s : Settings) : Protection.Lists :=
  { s.protection with
    protectedPatterns :=
      ((s.ownPaths env).flatMap exactly).foldl ListChange.addItem s.protection.protectedPatterns }

/-- The policy that the settings ask for. -/
def policy (env : Environment) (s : Settings) : Policy where
  fallback := s.fallback
  protection := if s.protects then some (.ofLists (s.effectiveProtection env)) else none
  internalTools := Policy.compileInternal s.internalTools

/-- The engine that the settings ask for, with an empty ledger. -/
def engine (env : Environment) (s : Settings) : Engine :=
  ⟨s.policy env, .file (.ofPath (s.rulesFile env)), .empty⟩

end ToolGate.Settings

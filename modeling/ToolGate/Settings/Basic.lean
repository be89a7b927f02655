/-
The settings of the gate.

* `Settings` — what can be set; `Settings.usual` is what holds without a word from the user.
* `Settings.expiry`, `Settings.sweepPeriod` — what the settings say about requests.
* `Settings.read?` — settings written out as TOML, `Settings.toJson` as JSON.
-/
import ToolGate.Approval.Ledger
import ToolGate.Engine.Basic
import ToolGate.Toml.Decoder

namespace ToolGate

/-- What can be set. -/
structure Settings where
  /-- What to do when no rule covers a call. -/
  fallback : Action
  /-- Where the rules stand, before variables are put in. -/
  rulesPath : String
  /-- Protected paths are looked after at all. -/
  protects : Bool
  protection : Protection.Lists
  /-- How long a request waits for a verdict, and an approval for its use, in seconds. -/
  lifetime : Nat
  /-- How long to wait between sweeps, in seconds. -/
  sweepPause : Nat
  /-- Settled requests expire as well. -/
  expireResolved : Bool
  /-- Patterns of the names of tools that are exempt from all checks. -/
  internalTools : List String
  deriving Repr, DecidableEq

namespace Settings

/-- The folder of the user's files, below the home folder. -/
def folder : String := ".config/ai-permissions-layer"

/-- The settings that hold without a word from the user. -/
def usual : Settings where
  fallback := .requireApproval
  rulesPath := "~/" ++ folder ++ "/rules.json"
  protects := true
  protection := .usual
  lifetime := 3600
  sweepPause := 300
  expireResolved := true
  internalTools := Policy.usualInternalTools

instance : Inhabited Settings := ⟨usual⟩

/-! ## Requests -/

/-- The longest span of time that can be told, in milliseconds. -/
def longestSpan : Int := 9223372036854775807

/-- A number of seconds in milliseconds, or the longest span if that is less. -/
def spanOfSeconds (seconds : Nat) : Int := min (seconds * 1000) longestSpan

/-- How long requests live. -/
def expiry (s : Settings) : Approval.ExpiryPolicy := ⟨spanOfSeconds s.lifetime, s.expireResolved⟩

/-- How long to wait between sweeps, in seconds. -/
def sweepPeriod (s : Settings) : Nat := max s.sweepPause 1

/-! ## Writing and reading -/

/-- Settings as a JSON record. -/
def toJson (s : Settings) : Json :=
  .object [
    ("settings", .object [
      ("default_when_no_match", .text s.fallback.name),
      ("rules_path", .text s.rulesPath)]),
    ("path_protection", .object [
      ("enabled", .boolean s.protects),
      ("dangerous_tools", Protection.Lists.texts s.protection.dangerousTools),
      ("protected_patterns", Protection.Lists.texts s.protection.protectedPatterns)]),
    ("approvals", .object [
      ("ttl_secs", .number (.integer s.lifetime)),
      ("sweep_interval_secs", .number (.integer s.sweepPause)),
      ("expire_resolved", .boolean s.expireResolved)]),
    ("internal_tools", .object [("patterns", Protection.Lists.texts s.internalTools)])]

/-- An action by its name. -/
def asAction? : Toml → Option Action := Toml.asOption? Action.options

/-- The section about decisions and the rules. -/
def decisionFields : List (Toml.Field Settings) := [
  .setting "default_when_no_match" asAction? fun fallback s => { s with fallback },
  .setting "rules_path" Toml.asText? fun rulesPath s => { s with rulesPath }]

/-- The section about protected paths. -/
def protectionFields : List (Toml.Field Settings) := [
  .setting "enabled" Toml.asFlag? fun protects s => { s with protects },
  .setting "dangerous_tools" Toml.asTexts?
    fun tools s => { s with protection := ⟨tools, s.protection.protectedPatterns⟩ },
  .setting "protected_patterns" Toml.asTexts?
    fun patterns s => { s with protection := ⟨s.protection.dangerousTools, patterns⟩ }]

/-- The section about requests. -/
def requestFields : List (Toml.Field Settings) := [
  .setting "ttl_secs" Toml.asCount? fun lifetime s => { s with lifetime },
  .setting "sweep_interval_secs" Toml.asCount? fun sweepPause s => { s with sweepPause },
  .setting "expire_resolved" Toml.asFlag? fun expireResolved s => { s with expireResolved }]

/-- The section about exempt tools. -/
def internalFields : List (Toml.Field Settings) := [
  .setting "patterns" Toml.asTexts? fun internalTools s => { s with internalTools }]

/-- All sections. -/
def sections : List (Toml.Field Settings) := [
  .part "settings" (Toml.record decisionFields),
  .part "path_protection" (Toml.record protectionFields),
  .part "approvals" (Toml.record requestFields),
  .part "internal_tools" (Toml.record internalFields)]

/-- Settings written out as TOML. What is left out is as usual. -/
def read? (text : String) : Option Settings :=
  (Toml.read? text).bind fun document => Toml.record sections document usual

end Settings

end ToolGate

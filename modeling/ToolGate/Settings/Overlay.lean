/-
The user's changes to the settings.

* `ListChange` — changes to a list: items to add and to remove, or another list in its place.
* `Overlay` — changes to all settings; `Overlay.apply` makes them.
* `Overlay.read?` — changes written out as TOML.
-/
import ToolGate.Settings.Basic

namespace ToolGate

/-- Changes to a list of names. -/
structure ListChange where
  /-- What is added takes the place of the whole list. -/
  replaces : Bool
  add : List String
  remove : List String
  deriving Repr, DecidableEq

namespace ListChange

/-- No change. -/
def none : ListChange := ⟨false, [], []⟩

/-- A list with an item at its end, unless it is there already. -/
def addItem (items : List String) (item : String) : List String :=
  if items.contains item then items else items ++ [item]

/-- A list after the changes: items are removed first, and then added where they are missing. -/
def apply (c : ListChange) (items : List String) : List String :=
  if c.replaces then c.add
  else c.add.foldl addItem (items.filter fun item => !c.remove.contains item)

end ListChange

/-- Changes to the settings. What is not mentioned stays. -/
structure Overlay where
  fallback : Option Action
  rulesPath : Option String
  protects : Option Bool
  dangerousTools : ListChange
  protectedPatterns : ListChange
  lifetime : Option Nat
  sweepPause : Option Nat
  expireResolved : Option Bool
  internalTools : ListChange
  deriving Repr, DecidableEq

namespace Overlay

/-- No changes. -/
def empty : Overlay := ⟨none, none, none, .none, .none, none, none, none, .none⟩

/-- Settings after the changes. -/
def apply (o : Overlay) (s : Settings) : Settings where
  fallback := o.fallback.getD s.fallback
  rulesPath := o.rulesPath.getD s.rulesPath
  protects := o.protects.getD s.protects
  protection :=
    ⟨o.dangerousTools.apply s.protection.dangerousTools,
      o.protectedPatterns.apply s.protection.protectedPatterns⟩
  lifetime := o.lifetime.getD s.lifetime
  sweepPause := o.sweepPause.getD s.sweepPause
  expireResolved := o.expireResolved.getD s.expireResolved
  internalTools := o.internalTools.apply s.internalTools

/-! ## Reading -/

/-- The section about decisions and the rules. -/
def decisionFields : List (Toml.Field Overlay) := [
  .override "default_when_no_match" Settings.asAction? fun action o =>
    { o with fallback := some action },
  .override "rules_path" Toml.asText? fun path o => { o with rulesPath := some path }]

/-- The section about protected paths. One word says whether both of its lists are replaced. -/
def protectionFields : List (Toml.Field Overlay) := [
  .override "enabled" Toml.asFlag? fun protects o => { o with protects := some protects },
  .setting "replace" Toml.asFlag? fun replaces o =>
    { o with
      dangerousTools := { o.dangerousTools with replaces }
      protectedPatterns := { o.protectedPatterns with replaces } },
  .setting "dangerous_tools" Toml.asTexts? fun add o =>
    { o with dangerousTools := { o.dangerousTools with add } },
  .setting "protected_patterns" Toml.asTexts? fun add o =>
    { o with protectedPatterns := { o.protectedPatterns with add } },
  .setting "remove_dangerous_tools" Toml.asTexts? fun remove o =>
    { o with dangerousTools := { o.dangerousTools with remove } },
  .setting "remove_protected_patterns" Toml.asTexts? fun remove o =>
    { o with protectedPatterns := { o.protectedPatterns with remove } }]

/-- The section about requests. -/
def requestFields : List (Toml.Field Overlay) := [
  .override "ttl_secs" Toml.asCount? fun seconds o => { o with lifetime := some seconds },
  .override "sweep_interval_secs" Toml.asCount? fun seconds o =>
    { o with sweepPause := some seconds },
  .override "expire_resolved" Toml.asFlag? fun expires o =>
    { o with expireResolved := some expires }]

/-- The section about exempt tools. -/
def internalFields : List (Toml.Field Overlay) := [
  .setting "replace" Toml.asFlag? fun replaces o =>
    { o with internalTools := { o.internalTools with replaces } },
  .setting "patterns" Toml.asTexts? fun add o =>
    { o with internalTools := { o.internalTools with add } },
  .setting "remove_patterns" Toml.asTexts? fun remove o =>
    { o with internalTools := { o.internalTools with remove } }]

/-- All sections. -/
def sections : List (Toml.Field Overlay) := [
  .part "settings" (Toml.record decisionFields),
  .part "path_protection" (Toml.record protectionFields),
  .part "approvals" (Toml.record requestFields),
  .part "internal_tools" (Toml.record internalFields)]

/-- Changes written out as TOML. -/
def read? (text : String) : Option Overlay :=
  (Toml.read? text).bind fun document => Toml.record sections document empty

end Overlay

namespace Settings

/-- What the user's file says: nothing if there is none, or changes, if it can be read. -/
inductive UserFile where
  | absent
  | unreadable
  | changes (overlay : Overlay)
  deriving Repr, DecidableEq

/-- What the text of the user's file says. -/
def UserFile.ofText? : Option String → UserFile
  | none => .absent
  | some text =>
    match Overlay.read? text with
    | some overlay => .changes overlay
    | none => .unreadable

/-- The settings with what the user's file says. A file that cannot be read changes nothing. -/
def withUserFile : UserFile → Settings
  | .changes overlay => overlay.apply usual
  | _ => usual

end Settings

end ToolGate

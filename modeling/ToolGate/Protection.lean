/-
Protected paths: tools that change files may never touch them.

* `Protection.Lists` — the tools and the globs, as settings have them, with their JSON record.
* `Protection` — the tools with the globs that could be read.
* `Protection.forbids` — a call of such a tool names a protected path.
-/
import ToolGate.Glob.Reader
import ToolGate.ToolCall

namespace ToolGate

/-- Tools that change files, and globs of the paths that they may not touch. -/
structure Protection.Lists where
  dangerousTools : List String
  protectedPatterns : List String
  deriving Repr, DecidableEq, Inhabited

/-- Tools that change files, and what they may not touch. -/
structure Protection where
  dangerousTools : List String
  globs : List Glob
  deriving Inhabited

namespace Protection

/-- The tools that change files unless settings say otherwise. -/
def usualTools : List String :=
  ["filesystem.write", "filesystem.edit", "write_file", "edit_file", "writeFile", "fs.writeFile",
    "write", "edit", "apply_patch"]

/-- The globs that are protected unless settings say otherwise. -/
def usualPatterns : List String := ["**/rules*.json", "**/.config/ai-permissions-layer/**"]

/-- The reason that is given for a forbidden call. -/
def reason : String := "Protected path: rules cannot be modified by agent"

namespace Lists

/-- The usual tools and globs. -/
def usual : Lists := ⟨usualTools, usualPatterns⟩

/-- Lists as a JSON record. -/
def decoder : Json.Decoder Lists :=
  .record "PathProtectionConfig" ⟨[], []⟩ [
    .required "dangerous_tools" (.listOf .text) fun dangerousTools l => { l with dangerousTools },
    .required "protected_patterns" (.listOf .text)
      fun protectedPatterns l => { l with protectedPatterns }]

/-- A list of texts. -/
def texts (items : List String) : Json := .list (items.map .text)

/-- Lists as a JSON record. -/
def toJson (l : Lists) : Json :=
  .object [("dangerous_tools", texts l.dangerousTools),
    ("protected_patterns", texts l.protectedPatterns)]

end Lists

/-- The protection that lists ask for. Globs that cannot be read are left out. -/
def ofLists (l : Lists) : Protection := ⟨l.dangerousTools, l.protectedPatterns.filterMap Glob.read?⟩

/-- The usual protection. -/
def usual : Protection := ofLists .usual

/-- The tool changes files. -/
def isDangerous (p : Protection) (tool : String) : Bool := p.dangerousTools.contains tool

/-- A path with slashes for backslashes. -/
def slashed (path : String) : String :=
  String.ofList (path.toList.map fun c => if c = '\\' then '/' else c)

/-- A path is protected. -/
def covers (p : Protection) (path : String) : Bool := p.globs.any (·.accepts (slashed path))

/-- The tool changes files and the path that the call names is protected. -/
def forbids (p : Protection) (call : ToolCall) : Bool :=
  p.isDangerous call.tool &&
    match call.path? with
    | some path => p.covers path
    | none => false

end Protection

end ToolGate

/-
What the names after `\p` mean.

* `looseName` — names are compared without case, blanks, hyphens, underscores and a leading `is`.
* `resolve` — the set a query names: a binary property, a general category or a script by its
  name alone, and the values of the properties that have several.
-/
import ToolGate.Unicode.Class
import ToolGate.Unicode.Script
import ToolGate.Unicode.ScriptExtension
import ToolGate.Unicode.Age
import ToolGate.Unicode.Boundary
import ToolGate.Pattern.Syntax

namespace ToolGate.Pattern

open ToolGate.Unicode

/-- A name as it is compared: ASCII letters in lower case, without blanks, hyphens, underscores
and characters outside ASCII, and without a leading `is`; `isc` alone keeps it. -/
def looseName (name : String) : String :=
  let clean (cs : List Char) : List Char :=
    (cs.filter fun c => c.toNat < 128 && c != ' ' && c != '_' && c != '-').map Char.toLower
  let cs := name.toList
  match cs with
  | i :: s :: rest =>
    if i.toLower = 'i' && s.toLower = 's' then
      let rest := clean rest
      String.ofList (if rest = ['c'] then ['i', 's', 'c'] else rest)
    else String.ofList (clean cs)
  | _ => String.ofList (clean cs)

/-- The set named by a property, category or script alone. -/
def resolveName (name : String) : Option CodeSet :=
  let name := looseName name
  match findNamed propertyTable name with
  | some s => some s
  | none =>
    match category name with
    | some s => some s
    | none => findNamed scriptTable name

/-- The set of the code points with a value of a property. -/
def resolveValue (property value : String) : Option CodeSet :=
  let value := looseName value
  match looseName property with
  | "gc" | "generalcategory" => category value
  | "sc" | "script" => findNamed scriptTable value
  | "scx" | "scriptextensions" => findNamed scriptExtensionTable value
  | "age" => assignedBy value
  | "gcb" | "graphemeclusterbreak" => findNamed graphemeTable value
  | "wb" | "wordbreak" => findNamed wordTable value
  | "sb" | "sentencebreak" => findNamed sentenceTable value
  | _ => none

/-- The set a query names. -/
def resolve : PropertyQuery → Option CodeSet
  | .letter c => resolveName c.toString
  | .name n => resolveName n
  | .value p v => resolveValue p v

end ToolGate.Pattern

/-
Patterns: the texts that rules and settings use to describe tool names and goals.

* `Pattern.compile` — a pattern from its text, case-sensitive or not; a text that is no
  pattern, or whose automaton would be too large, has none.
* `Pattern.accepts` — the pattern matches somewhere in a text. Patterns are not anchored.
* `Pattern.Matches` — the same, said by what stretches of a text an expression spans.
-/
import ToolGate.Pattern.Reader
import ToolGate.Pattern.Size
import ToolGate.Regular.Search

namespace ToolGate

/-- A pattern with the expression it stands for. -/
structure Pattern where
  expr : Pattern.PatternExpr
  deriving Repr, Inhabited

namespace Pattern

/-- The pattern written in a text. -/
def compile (ignoreCase : Bool) (text : String) : Option Pattern := do
  let node ← read text
  let (expr, _) ← meaning node { ignoreCase }
  if fits expr then some ⟨expr⟩ else none

/-- The pattern matches somewhere in the text. -/
def accepts (p : Pattern) (text : String) : Bool :=
  Regular.found Unicode.CodeSet.mem Look.holds p.expr text.toList

/-- The pattern spans some stretch of the text. -/
def Matches (p : Pattern) (text : String) : Prop :=
  Regular.Found Unicode.CodeSet.mem Look.holds p.expr text.toList

end Pattern

end ToolGate

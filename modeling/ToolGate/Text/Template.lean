/-
Texts with variables in them.

A variable is written `$name` or `${name}`; with `${name:-text}` it has a text to fall back on.
Two dollar signs stand for one. A dollar sign that starts none of these stands for itself.

* `Template.ofText` — the pieces of a text.
* `Template.fill` — the text with the values of the variables put in; none if a variable has
  neither a value nor a text to fall back on.
-/
import ToolGate.Unicode.Class

namespace ToolGate.Text

/-- A piece of a text: characters that stand for themselves, or a variable. -/
inductive Template.Piece where
  | plain (text : List Char)
  | variable (name : List Char) (fallback : Option (List Char))
  deriving Repr, DecidableEq

/-- A text with variables. -/
abbrev Template := List Template.Piece

namespace Template

/-- A character that may stand in the name of a variable without braces. -/
def isNameChar (c : Char) : Bool := c = '_' || Unicode.isAlphanumeric c

/-- What stands before the first closing brace, and what after it. -/
def splitAtBrace : List Char → Option (List Char × List Char)
  | [] => none
  | c :: cs =>
    if c = '\x7d' then some ([], cs) else (splitAtBrace cs).map fun (a, b) => (c :: a, b)

/-- What stands before the first colon with a hyphen, and what after them. -/
def splitAtFallback : List Char → Option (List Char × List Char)
  | ':' :: '-' :: cs => some ([], cs)
  | [] => none
  | c :: cs => (splitAtFallback cs).map fun (a, b) => (c :: a, b)

/-- The variable that is written between braces. A name is not empty if a text to fall back on
follows. -/
def inBraces (body : List Char) : Piece :=
  match splitAtFallback body with
  | some (c :: name, fallback) => .variable (c :: name) (some fallback)
  | _ => .variable body none

/-- The pieces of a text; `fuel` is at least its length. -/
def piecesFrom : Nat → List Char → Template
  | 0, cs => [.plain cs]
  | _ + 1, [] => []
  | fuel + 1, c :: cs =>
    if c ≠ '$' then .plain [c] :: piecesFrom fuel cs
    else
      match cs with
      | [] => [.plain ['$']]
      | d :: rest =>
        if d = '\x7b' then
          match splitAtBrace rest with
          | some (body, rest) => inBraces body :: piecesFrom fuel rest
          | none => .plain ['$', d] :: piecesFrom fuel rest
        else if isNameChar d then
          .variable (cs.takeWhile isNameChar) none :: piecesFrom fuel (cs.dropWhile isNameChar)
        else if d = '$' then .plain ['$'] :: piecesFrom fuel rest
        else .plain ['$'] :: piecesFrom fuel cs

/-- The pieces of a text. -/
def ofText (cs : List Char) : Template := piecesFrom cs.length cs

/-- The names of the variables of a text. -/
def names (t : Template) : List String :=
  t.filterMap fun
    | .plain _ => none
    | .variable name _ => some (String.ofList name)

/-- What a piece stands for. -/
def Piece.fill (value : String → Option String) : Piece → Option (List Char)
  | .plain text => some text
  | .variable name fallback =>
    match value (String.ofList name) with
    | some v => some v.toList
    | none => fallback

/-- The text with the values of its variables. Values are not searched for variables again. -/
def fill (value : String → Option String) (t : Template) : Option (List Char) :=
  (t.mapM (Piece.fill value)).map List.flatten

end Template

end ToolGate.Text

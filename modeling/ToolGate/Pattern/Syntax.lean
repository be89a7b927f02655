/-
What a pattern text says, before flags and character tables give it a meaning.

* `Flag`, `FlagChange` — `(?i)`, `(?-s:…)` and the like.
* `Place` — tests of a position: line and text ends, word boundaries.
* `ClassItem`, `ClassSet`, `Bracketed` — bracketed classes with their set operations.
* `Node` — the syntax tree; `Node.depth` is how deeply it nests.
-/

namespace ToolGate.Pattern

/-- A mode that can be switched inside a pattern. -/
inductive Flag where
  | ignoreCase
  | multiLine
  | dotAll
  | swapGreed
  | unicode
  | crlf
  | ignoreBlanks
  deriving Repr, DecidableEq

/-- Flags switched on or off, in the order they are written. -/
abbrev FlagChange := List (Flag × Bool)

/-- The last setting of a flag in a change, if it is mentioned. -/
def FlagChange.setting (change : FlagChange) (flag : Flag) : Option Bool :=
  (change.find? fun e => e.1 == flag).map (·.2)

/-- A test of a position as written; flags decide what exactly is tested. -/
inductive Place where
  | lineStart
  | lineEnd
  | textStart
  | textEnd
  | wordBoundary
  | notWordBoundary
  | wordStart
  | wordEnd
  | wordStartHalf
  | wordEndHalf
  deriving Repr, DecidableEq

/-- A literal character. `byte` marks the spelling `\xNN`, which names a byte where the
pattern is not read as Unicode text. -/
structure Literal where
  char : Char
  byte : Bool
  deriving Repr, DecidableEq

/-- The classes with a letter of their own: digits, blanks, word characters. -/
inductive LetterClass where
  | digit
  | blank
  | word
  deriving Repr, DecidableEq

/-- What a `\p` names. -/
inductive PropertyQuery where
  | letter (name : Char)
  | name (name : String)
  | value (property value : String)
  deriving Repr, DecidableEq

/-- The operators between the sets of a bracketed class. -/
inductive SetOp where
  | inter
  | diff
  | symmDiff
  deriving Repr, DecidableEq

mutual

/-- One item of a bracketed class. -/
inductive ClassItem where
  | literal (l : Literal)
  | range (lo hi : Literal)
  | ascii (ranges : List (Nat × Nat)) (negated : Bool)
  | property (q : PropertyQuery) (negated : Bool)
  | letter (k : LetterClass) (negated : Bool)
  | nested (b : Bracketed)
  deriving Repr

/-- Items side by side, or two sets with an operator between them. -/
inductive ClassSet where
  | items (list : List ClassItem)
  | op (kind : SetOp) (left right : ClassSet)
  deriving Repr

/-- A class in brackets. -/
inductive Bracketed where
  | mk (negated : Bool) (set : ClassSet)
  deriving Repr

end

/-- The syntax tree of a pattern. -/
inductive Node where
  | empty
  | flags (change : FlagChange)
  | literal (l : Literal)
  | dot
  | place (p : Place)
  | property (q : PropertyQuery) (negated : Bool)
  | letter (k : LetterClass) (negated : Bool)
  | bracketed (b : Bracketed)
  | repeated (lo : Nat) (hi : Option Nat) (body : Node)
  | group (change : FlagChange) (captures : Bool) (body : Node)
  | alternation (branches : List Node)
  | concat (parts : List Node)
  deriving Repr, Inhabited

/-! ## Nesting -/

mutual

/-- Levels of a class item. -/
def ClassItem.depth : ClassItem → Nat
  | .nested b => b.depth
  | _ => 0

/-- Levels of the deepest of several class items. -/
def ClassItem.depths : List ClassItem → Nat
  | [] => 0
  | i :: rest => max i.depth (ClassItem.depths rest)

/-- Levels of a class set: items side by side form a level of their own unless there is
exactly one, and so does every operator. -/
def ClassSet.depth : ClassSet → Nat
  | .items [] => 0
  | .items [i] => i.depth
  | .items (i :: rest) => 1 + max i.depth (ClassItem.depths rest)
  | .op _ l r => 1 + max l.depth r.depth

/-- Levels of a bracketed class, its own included. -/
def Bracketed.depth : Bracketed → Nat
  | .mk _ s => 1 + s.depth

end

mutual

/-- How deeply a syntax tree nests; single characters, places and letter classes are level 0. -/
def Node.depth : Node → Nat
  | .bracketed b => b.depth
  | .repeated _ _ body => 1 + body.depth
  | .group _ _ body => 1 + body.depth
  | .alternation bs => 1 + Node.depths bs
  | .concat ps => 1 + Node.depths ps
  | _ => 0

/-- How deeply the deepest of several trees nests. -/
def Node.depths : List Node → Nat
  | [] => 0
  | n :: rest => max n.depth (Node.depths rest)

end

end ToolGate.Pattern

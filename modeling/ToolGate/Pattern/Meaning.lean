/-
The regular expression a syntax tree stands for.

* `Look` — the tests of a position that flags have decided; `Look.holds` says when each succeeds.
* `Modes` — the flags in force; a switch holds to the end of the group it stands in.
* `classOf` — the characters of a bracketed class.
* `meaning` — the expression of a tree. A tree without one names an unknown property, or could
  match less than a whole character outside Unicode mode.
-/
import ToolGate.Unicode.CaseFold
import ToolGate.Pattern.Property
import ToolGate.Regular.Expr

namespace ToolGate.Pattern

open ToolGate.Unicode (CodeSet)

/-! ## Positions -/

/-- Where a position stands to the words around it. -/
inductive WordEdge where
  | boundary
  | inside
  | start
  | finish
  | startHalf
  | finishHalf
  deriving Repr, DecidableEq

/-- A test of a position. -/
inductive Look where
  | textStart
  | textEnd
  | lineStart
  | lineEnd
  | lineStartCrlf
  | lineEndCrlf
  | word (unicode : Bool) (edge : WordEdge)
  deriving Repr, DecidableEq

/-- Word characters, of every script or of ASCII alone. -/
def wordSet (unicode : Bool) : CodeSet :=
  if unicode then Unicode.wordCharacters else ⟨[(48, 57), (65, 90), (95, 95), (97, 122)]⟩

/-- Whether a test succeeds between two characters; at an end of the text one is absent. -/
def Look.holds : Look → Option Char → Option Char → Bool
  | textStart, p, _ => p.isNone
  | textEnd, _, n => n.isNone
  | lineStart, p, _ => p.isNone || p = some '\n'
  | lineEnd, _, n => n.isNone || n = some '\n'
  | lineStartCrlf, p, n => p.isNone || p = some '\n' || (p = some '\r' && n != some '\n')
  | lineEndCrlf, p, n => n.isNone || n = some '\r' || (n = some '\n' && p != some '\r')
  | word unicode edge, p, n =>
    let before := p.any (wordSet unicode).mem
    let after := n.any (wordSet unicode).mem
    match edge with
    | .boundary => before != after
    | .inside => before == after
    | .start => !before && after
    | .finish => before && !after
    | .startHalf => !before
    | .finishHalf => !after

/-- The expressions that patterns stand for. -/
abbrev PatternExpr := Regular.Expr CodeSet Look

/-! ## Modes -/

/-- The flags in force. Blanks matter to reading alone, and reluctance to no decision here. -/
structure Modes where
  ignoreCase : Bool := false
  multiLine : Bool := false
  dotAll : Bool := false
  unicode : Bool := true
  crlf : Bool := false
  deriving Repr, DecidableEq

/-- The modes after a switch of flags. -/
def Modes.apply (m : Modes) (change : FlagChange) : Modes where
  ignoreCase := (change.setting .ignoreCase).getD m.ignoreCase
  multiLine := (change.setting .multiLine).getD m.multiLine
  dotAll := (change.setting .dotAll).getD m.dotAll
  unicode := (change.setting .unicode).getD m.unicode
  crlf := (change.setting .crlf).getD m.crlf

/-- The test that a written place stands for. -/
def Place.look (m : Modes) : Place → Look
  | .lineStart =>
    if m.multiLine then if m.crlf then .lineStartCrlf else .lineStart else .textStart
  | .lineEnd => if m.multiLine then if m.crlf then .lineEndCrlf else .lineEnd else .textEnd
  | .textStart => .textStart
  | .textEnd => .textEnd
  | .wordBoundary => .word m.unicode .boundary
  | .notWordBoundary => .word m.unicode .inside
  | .wordStart => .word m.unicode .start
  | .wordEnd => .word m.unicode .finish
  | .wordStartHalf => .word m.unicode .startHalf
  | .wordEndHalf => .word m.unicode .finishHalf

/-! ## Classes -/

/-- Close a set under the case of letters, as the modes say. -/
def foldSet (m : Modes) (s : CodeSet) : CodeSet :=
  if !m.ignoreCase then s else if m.unicode then s.foldCase else s.foldAsciiCase

/-- Close under case, then take the complement of a negated class. Outside Unicode mode a class
holds bytes, and only those that are characters by themselves may be left in it. -/
def finishSet (m : Modes) (negated : Bool) (s : CodeSet) : Option CodeSet :=
  let s := foldSet m s
  if m.unicode then some (if negated then s.complement else s)
  else
    let s := if negated then s.complementTo 255 else s
    if s.isAscii then some s else none

/-- The set of a class with a letter of its own, which is closed under case already. -/
def letterSet (m : Modes) (k : LetterClass) (negated : Bool) : Option CodeSet :=
  if m.unicode then
    let s := match k with
      | .digit => Unicode.digits
      | .blank => Unicode.blanks
      | .word => Unicode.wordCharacters
    some (if negated then s.complement else s)
  else if negated then none
  else
    match k with
    | .digit => some ⟨[(48, 57)]⟩
    | .blank => some ⟨[(9, 13), (32, 32)]⟩
    | .word => some (wordSet false)

/-- The set of a named property; properties exist in Unicode mode alone. -/
def propertySet (m : Modes) (q : PropertyQuery) (negated : Bool) : Option CodeSet :=
  if m.unicode then (resolve q).bind (finishSet m negated) else none

/-- The code point of a literal in a class. Outside Unicode mode it must be ASCII. -/
def Literal.code (m : Modes) (l : Literal) : Option Nat :=
  if m.unicode || l.char.toNat < 128 then some l.char.toNat else none

mutual

/-- The characters of one item of a class. -/
def itemSet (m : Modes) : ClassItem → Option CodeSet
  | .literal l => (l.code m).map CodeSet.singleton
  | .range lo hi => do
    let a ← lo.code m
    let b ← hi.code m
    some ⟨[(a, b)]⟩
  | .ascii rs negated => finishSet m negated ⟨rs⟩
  | .property q negated => propertySet m q negated
  | .letter k negated => letterSet m k negated
  | .nested b => classOf m b

/-- The characters of items side by side. -/
def itemSets (m : Modes) : List ClassItem → Option (List (Nat × Nat))
  | [] => some []
  | i :: rest => do
    let s ← itemSet m i
    let more ← itemSets m rest
    some (s.ranges ++ more)

/-- The characters of a class set. -/
def setOf (m : Modes) : ClassSet → Option CodeSet
  | .items list => (itemSets m list).map CodeSet.ofRanges
  | .op kind left right => do
    let l ← (setOf m left).map (foldSet m)
    let r ← (setOf m right).map (foldSet m)
    match kind with
    | .inter => some (l.inter r)
    | .diff => some (l.diff r)
    | .symmDiff => some (l.symmDiff r)

/-- The characters of a bracketed class. -/
def classOf (m : Modes) : Bracketed → Option CodeSet
  | .mk negated set => (setOf m set).bind (finishSet m negated)

end

/-! ## Trees -/

/-- The expression for one character out of a set. -/
def oneOf (s : CodeSet) : PatternExpr :=
  if s.ranges.isEmpty then .nothing else .one s

/-- The set of a literal character. The spelling of a byte above 127 is no character outside
Unicode mode. -/
def literalSet (m : Modes) (l : Literal) : Option CodeSet :=
  if !m.unicode && l.byte && l.char.toNat > 127 then none
  else some (foldSet m (CodeSet.singleton l.char.toNat))

/-- What the dot stands for. -/
def dotSet (m : Modes) : Option CodeSet :=
  if !m.unicode then none
  else if m.dotAll then some CodeSet.all
  else if m.crlf then some (CodeSet.complement ⟨[(10, 10), (13, 13)]⟩)
  else some (CodeSet.complement ⟨[(10, 10)]⟩)

/-- The expression matches no text but the empty one, wherever it matches at all. -/
def onlyEmpty : PatternExpr → Bool
  | .nothing => false
  | .empty => true
  | .one _ => false
  | .look _ => true
  | .seq x y => onlyEmpty x && onlyEmpty y
  | .alt x y => onlyEmpty x && onlyEmpty y
  | .many _ hi x => hi = some 0 || onlyEmpty x
  | .group x => onlyEmpty x

/-- A repetition. More than one round of the empty text adds nothing. -/
def repeatedExpr (lo : Nat) (hi : Option Nat) (body : PatternExpr) : PatternExpr :=
  let (lo, hi) :=
    if onlyEmpty body then (min lo 1, some (min (hi.getD 1) 1)) else (lo, hi)
  if lo = 0 ∧ hi = some 0 then .empty
  else if lo = 1 ∧ hi = some 1 then body
  else .many lo hi body

mutual

/-- The expression of a tree in given modes, and the modes in force after it. -/
def meaning : Node → Modes → Option (PatternExpr × Modes)
  | .empty, m => some (.empty, m)
  | .flags change, m => some (.empty, m.apply change)
  | .literal l, m => (literalSet m l).map fun s => (.one s, m)
  | .dot, m => (dotSet m).map fun s => (.one s, m)
  | .place p, m => some (.look (p.look m), m)
  | .property q negated, m => (propertySet m q negated).map fun s => (oneOf s, m)
  | .letter k negated, m => (letterSet m k negated).map fun s => (oneOf s, m)
  | .bracketed b, m => (classOf m b).map fun s => (oneOf s, m)
  | .repeated lo hi body, m => do
    let (e, m) ← meaning body m
    some (repeatedExpr lo hi e, m)
  | .group change captures body, m => do
    let (e, _) ← meaning body (m.apply change)
    some (if captures then .group e else e, m)
  | .alternation bs, m => do
    let (es, m) ← meanings bs m
    some (Regular.Expr.altAll es, m)
  | .concat ps, m => do
    let (es, m) ← meanings ps m
    some (Regular.Expr.seqAll es, m)

/-- The expressions of several trees, each in the modes left by the one before. -/
def meanings : List Node → Modes → Option (List PatternExpr × Modes)
  | [], m => some ([], m)
  | n :: rest, m => do
    let (e, m) ← meaning n m
    let (es, m) ← meanings rest m
    some (e :: es, m)

end

end ToolGate.Pattern

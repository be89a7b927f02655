/-
Globs: patterns of file paths.

* `Glob` — the parts of a glob in order. `*` and `?` stay within one segment of a path, `**` may
  stand for any number of whole segments.
* `Glob.expr` — the regular expression over bytes that a glob stands for.
* `Glob.accepts` — the glob matches a whole path.
* `Glob.escape` — the glob that stands for a path as it is written.

Paths are compared byte by byte: `?` is one byte, and a bracketed class holds the bytes of its
characters.
-/
import ToolGate.Regular.Search

namespace ToolGate

/-- A part of a glob. -/
inductive Glob.Part where
  /-- The character itself. -/
  | literal (c : Char)
  /-- `?` -/
  | anyOne
  /-- `*` -/
  | anyRun
  /-- `**` and the slash after it, at the start. -/
  | leadingSegments
  /-- `**` and the slash before it, at the end. -/
  | trailingSegments
  /-- `**` and the slashes around it. -/
  | innerSegments
  /-- A bracketed class of ranges. -/
  | oneOf (negated : Bool) (ranges : List (Char × Char))
  /-- Alternatives between braces. -/
  | alternatives (branches : List (List Glob.Part))
  deriving Repr, Inhabited

/-- A glob. -/
structure Glob where
  parts : List Glob.Part
  deriving Repr, Inhabited

namespace Glob

/-- A set of bytes: those in the ranges, or those outside. -/
structure ByteSet where
  negated : Bool
  ranges : List (UInt8 × UInt8)
  deriving Repr, DecidableEq

/-- The byte is in the set. -/
def ByteSet.has (s : ByteSet) (b : UInt8) : Bool :=
  (s.ranges.any fun r => r.1 ≤ b && b ≤ r.2) != s.negated

/-- The bytes of a character. -/
def bytesOf (c : Char) : List UInt8 := String.utf8EncodeChar c

/-- The bytes of a text. -/
def bytesOfText (cs : List Char) : List UInt8 := cs.flatMap bytesOf

/-- Expressions over bytes; they test no positions. -/
abbrev ByteExpr := Regular.Expr ByteSet Empty

/-- One byte. -/
def byte (b : UInt8) : ByteExpr := .one ⟨false, [(b, b)]⟩

/-- The bytes of a character, one after another. -/
def charExpr (c : Char) : ByteExpr := .seqAll ((bytesOf c).map byte)

/-- The slash between segments. -/
def slash : ByteExpr := byte 0x2F

/-- Any byte. -/
def anyByte : ByteExpr := .one ⟨true, []⟩

/-- Any byte of a segment. -/
def segmentByte : ByteExpr := .one ⟨true, [(0x2F, 0x2F)]⟩

/-- The bytes of a range of characters: those of its ends, and those from the last byte of the
lower end to the first byte of the upper end. -/
def byteRanges (r : Char × Char) : List (UInt8 × UInt8) :=
  let single (b : UInt8) := (b, b)
  if r.1 = r.2 then (bytesOf r.1).map single
  else
    let low := bytesOf r.1
    let high := bytesOf r.2
    low.dropLast.map single ++ [(low.getLastD 0, high.headD 0)] ++ high.tail.map single

/-- The expression matches nothing but the empty path because it was written without parts. -/
def isBlank : ByteExpr → Bool
  | .empty => true
  | _ => false

mutual

/-- What a part stands for. Empty alternatives do not count. -/
def partExpr : Part → ByteExpr
  | .literal c => charExpr c
  | .anyOne => segmentByte
  | .anyRun => segmentByte.star
  | .leadingSegments => .alt slash.optional (.seq anyByte.star slash)
  | .trailingSegments => .seq slash anyByte.star
  | .innerSegments => .alt slash (.seq slash (.seq anyByte.star slash))
  | .oneOf negated ranges => .one ⟨negated, ranges.flatMap byteRanges⟩
  | .alternatives branches =>
    match (branchExprs branches).filter (!isBlank ·) with
    | [] => .empty
    | exprs => .altAll exprs

/-- What parts in order stand for. -/
def partExprs : List Part → List ByteExpr
  | [] => []
  | p :: ps => partExpr p :: partExprs ps

/-- What each of some alternatives stands for. -/
def branchExprs : List (List Part) → List ByteExpr
  | [] => []
  | b :: bs => .seqAll ((partExprs b).filter (!isBlank ·)) :: branchExprs bs

end

/-- The expression that a glob stands for. The glob `**` alone stands for every path. -/
def expr (g : Glob) : ByteExpr :=
  match g.parts with
  | [.leadingSegments] => anyByte.star
  | parts => .seqAll ((partExprs parts).filter (!isBlank ·))

/-- The glob matches the whole path. -/
def accepts (g : Glob) (path : String) : Bool :=
  Regular.whole ByteSet.has (fun e _ _ => nomatch e) g.expr (bytesOfText path.toList)

/-- The glob spans the whole path. -/
def Matches (g : Glob) (path : String) : Prop :=
  Regular.Whole ByteSet.has (fun e _ _ => nomatch e) g.expr (bytesOfText path.toList)

/-- A character as a part that stands for itself. -/
def escapeChar (c : Char) : List Char :=
  if c = '?' ∨ c = '*' ∨ c = '[' ∨ c = ']' ∨ c = '\x7b' ∨ c = '\x7d' then ['[', c, ']'] else [c]

/-- The text of a glob that stands for a path as it is written. -/
def escape (path : List Char) : List Char := path.flatMap escapeChar

end Glob

end ToolGate

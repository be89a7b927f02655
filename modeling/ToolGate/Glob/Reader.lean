/-
Reading globs.

Inside braces a comma ends an alternative; braces may be nested. A backslash takes the next
character as it is. `**` stands for whole segments where it is bounded by slashes or by the ends
of the glob or of an alternative; elsewhere it is two stars.

* `read?` — the glob of a text; none if a class or braces are not closed, a closing brace was not
  opened, a range is reversed, or nothing follows a backslash.
-/
import ToolGate.Glob.Basic

namespace ToolGate.Glob

/-! ## Classes -/

/-- The ranges with the last one (which is first in the list) taken up to a character. -/
def extendRange (c : Char) : List (Char × Char) → Option (List (Char × Char))
  | [] => none
  | (a, _) :: rest => if c < a then none else some ((a, c) :: rest)

/-- The ranges of a class up to its end, latest first. A closing bracket that comes first and a
hyphen at either end stand for themselves. -/
def readRanges (first inRange : Bool) (ranges : List (Char × Char)) :
    List Char → Option (List (Char × Char) × List Char)
  | [] => none
  | c :: cs =>
    if c = ']' ∧ !first then some (if inRange then ('-', '-') :: ranges else ranges, cs)
    else if c = '-' ∧ !first ∧ !inRange then readRanges false true ranges cs
    else if inRange then
      match extendRange c ranges with
      | some ranges => readRanges false false ranges cs
      | none => none
    else readRanges false false ((c, c) :: ranges) cs

/-- A class after its opening bracket. -/
def readClass (cs : List Char) : Option (Part × List Char) :=
  let (negated, cs) := match cs with
    | '!' :: rest => (true, rest)
    | '^' :: rest => (true, rest)
    | rest => (false, rest)
  (readRanges true false [] cs).map fun (ranges, cs) => (.oneOf negated ranges.reverse, cs)

/-! ## Parts in order -/

/-- Braces that are open: the parts before them, and the alternatives that have ended, both
latest first. -/
structure Group where
  before : List Part
  branches : List (List Part)

/-- What has been read: the open braces, innermost first, the parts of the alternative that is
being read, latest first, and the last character. -/
structure State where
  groups : List Group
  parts : List Part
  last : Option Char

namespace State

/-- One more part. -/
def push (s : State) (p : Part) (last : Char) : State :=
  { s with parts := p :: s.parts, last := some last }

/-- After two stars that follow a slash: whole segments, which take the slash before them, or
join the segments before them. -/
def pushSegments (s : State) (p : Part) (last : Char) : State :=
  let parts := match s.parts with
    | .leadingSegments :: rest => .leadingSegments :: rest
    | .trailingSegments :: rest => .trailingSegments :: rest
    | _ :: rest => p :: rest
    | [] => [p]
  { s with parts, last := some last }

/-- After two stars that are no more than that. -/
def pushStars (s : State) : State := (s.push .anyRun '*').push .anyRun '*'

/-- The two stars come where segments may start. -/
def afterSlash (s : State) : Bool :=
  s.last == some '/' || (!s.groups.isEmpty && (s.last == some ',' || s.last == some '\x7b'))

/-- Two stars, before the characters that follow them. -/
def readStars (s : State) (cs : List Char) : State × List Char :=
  if s.parts.isEmpty then
    match cs with
    | [] => (s.push .leadingSegments '*', [])
    | '/' :: rest => (s.push .leadingSegments '/', rest)
    | rest => (s.pushStars, rest)
  else if !s.afterSlash then (s.pushStars, cs)
  else
    match cs with
    | [] => (s.pushSegments .trailingSegments '*', [])
    | '/' :: rest => (s.pushSegments .innerSegments '/', rest)
    | c :: rest =>
      if !s.groups.isEmpty && (c == ',' || c == '\x7d') then
        (s.pushSegments .trailingSegments '*', c :: rest)
      else (s.pushStars, c :: rest)

/-- The next character, with what it needs of those after it. -/
def step (s : State) (c : Char) (cs : List Char) : Option (State × List Char) :=
  if c = '?' then some (s.push .anyOne c, cs)
  else if c = '*' then
    match cs with
    | '*' :: rest => some (s.readStars rest)
    | rest => some (s.push .anyRun c, rest)
  else if c = '[' then (readClass cs).map fun (p, rest) => (s.push p ']', rest)
  else if c = '\x7b' then some (⟨⟨s.parts, []⟩ :: s.groups, [], some c⟩, cs)
  else if c = '\x7d' then
    match s.groups with
    | [] => none
    | g :: groups =>
      let branches := (s.parts.reverse :: g.branches).reverse
      some (⟨groups, .alternatives branches :: g.before, some c⟩, cs)
  else if c = ',' then
    match s.groups with
    | [] => some (s.push (.literal c) c, cs)
    | g :: groups => some (⟨⟨g.before, s.parts.reverse :: g.branches⟩ :: groups, [], some c⟩, cs)
  else if c = '\\' then
    match cs with
    | [] => none
    | d :: rest => some (s.push (.literal d) d, rest)
  else some (s.push (.literal c) c, cs)

end State

/-- Read the characters that are left; each step takes at least one. -/
def readFrom : Nat → State → List Char → Option (List Part)
  | _, s, [] => if s.groups.isEmpty then some s.parts.reverse else none
  | 0, _, _ :: _ => none
  | fuel + 1, s, c :: cs =>
    match s.step c cs with
    | some (s, rest) => readFrom fuel s rest
    | none => none

/-- The glob of a text. -/
def read? (text : String) : Option Glob :=
  let cs := text.toList
  (readFrom cs.length ⟨[], [], none⟩ cs).map Glob.mk

end ToolGate.Glob

/-
Reading a pattern text into its syntax tree.

The grammar: alternation by `|`, repetition by `?`, `*`, `+` and counts in braces, groups that
capture, name, or switch flags, escapes, and bracketed classes with `&&`, `--` and `~~`. Texts
outside the grammar have no tree; look-around and back references are outside it.

* `Scan` — the reading state: what is left, whether blanks are skipped, the group names so far.
* `readEscape`, `readClass`, `readGroupStart`, `readCount` — the parts.
* `read` — the whole, which also refuses trees nested deeper than `depthLimit`.

Every reader takes the characters still to be read and gives back those it left.
-/
import ToolGate.Text.Blank
import ToolGate.Unicode.Class
import ToolGate.Pattern.Syntax

namespace ToolGate.Pattern

open ToolGate.Text (isBlank)

/-- The deepest nesting a pattern may have. -/
def depthLimit : Nat := 250

/-! ## Blanks and comments -/

mutual

/-- Skip blanks, and comments from `#` to the end of the line. -/
def skipBlanks : List Char → List Char
  | [] => []
  | c :: rest =>
    if isBlank c then skipBlanks rest
    else if c = '#' then skipComment rest
    else c :: rest

/-- Skip the rest of a comment and the blanks after it. -/
def skipComment : List Char → List Char
  | [] => []
  | c :: rest => if c = '\n' then skipBlanks rest else skipComment rest

end

/-- Skip blanks and comments where the pattern ignores them. -/
def skip (ignoring : Bool) (cs : List Char) : List Char :=
  if ignoring then skipBlanks cs else cs

/-- The next character a class range would meet, blanks apart: a `#` hides the blanks after it
but not what follows them. -/
def peekBlanks (inComment : Bool) : List Char → Option Char
  | [] => none
  | c :: rest =>
    if isBlank c then peekBlanks inComment rest
    else if c = '#' && !inComment then peekBlanks true rest
    else some c

/-- The next character, blanks apart where they are ignored. -/
def peek (ignoring : Bool) (cs : List Char) : Option Char :=
  if ignoring then peekBlanks false cs else cs.head?

/-! ## Escapes -/

/-- A part of a pattern that is a single item: also what a bracketed class is made of. -/
inductive Item where
  | literal (l : Literal)
  | place (p : Place)
  | property (q : PropertyQuery) (negated : Bool)
  | letter (k : LetterClass) (negated : Bool)

/-- The syntax tree of a single item. -/
def Item.toNode : Item → Node
  | .literal l => .literal l
  | .place p => .place p
  | .property q n => .property q n
  | .letter k n => .letter k n

/-- Characters with a meaning of their own somewhere in a pattern. -/
def isMeta (c : Char) : Bool :=
  "\\.+*?()|[]\x7b\x7d^$#&-~".toList.contains c

/-- Characters that a backslash makes literal. -/
def isEscapable (c : Char) : Bool :=
  isMeta c || (c.toNat < 128 && !c.isAlphanum && c != '<' && c != '>')

/-- The value of a hexadecimal digit. -/
def hexValue? (c : Char) : Option Nat :=
  if '0' ≤ c && c ≤ '9' then some (c.toNat - 48)
  else if 'a' ≤ c && c ≤ 'f' then some (c.toNat - 87)
  else if 'A' ≤ c && c ≤ 'F' then some (c.toNat - 55)
  else none

/-- The number written by hexadecimal digits; none when a character is no digit. -/
def hexNumber? (cs : List Char) : Option Nat :=
  cs.foldlM (fun acc c => (hexValue? c).map fun v => acc * 16 + v) 0

/-- The character with a code point, where there is one. -/
def charOf? (n : Nat) : Option Char :=
  if n.isValidChar then some (Char.ofNat n) else none

/-- The text up to a closing brace, and what follows it. -/
def readBraced (ignoring : Bool) : Nat → List Char → Option (List Char × List Char)
  | 0, _ => none
  | fuel + 1, cs =>
    match skip ignoring cs with
    | [] => none
    | '}' :: rest => some ([], rest)
    | c :: rest => (readBraced ignoring fuel rest).map fun r => (c :: r.1, r.2)

/-- Exactly so many characters, blanks between them skipped where they are ignored. -/
def readExactly (ignoring : Bool) : Nat → List Char → Option (List Char × List Char)
  | 0, cs => some ([], cs)
  | n + 1, cs =>
    match skip ignoring cs with
    | [] => none
    | c :: rest => (readExactly ignoring n rest).map fun r => (c :: r.1, r.2)

/-- The literal after `\x`, `\u` or `\U`: hexadecimal digits in braces, or so many of them. -/
def readHex (ignoring : Bool) (width : Nat) (cs : List Char) : Option (Literal × List Char) :=
  match skip ignoring cs with
  | '{' :: rest => do
    let (digits, rest) ← readBraced ignoring (rest.length + 1) rest
    if digits.isEmpty then none
    let c ← (hexNumber? digits) >>= charOf?
    some (⟨c, false⟩, rest)
  | cs => do
    let (digits, rest) ← readExactly ignoring width cs
    let c ← (hexNumber? digits) >>= charOf?
    some (⟨c, width = 2⟩, rest)

/-- The text before the first occurrence of a separator, and the text after it. -/
def cutAt (sep : List Char) (before : List Char) : List Char → Option (List Char × List Char)
  | [] => none
  | c :: rest =>
    match Text.afterStart? sep (c :: rest) with
    | some after => some (before.reverse, after)
    | none => cutAt sep (c :: before) rest

/-- What a `\p` in braces names: a property alone, or a property and its value after `!=`, `:`
or `=`. -/
def queryOf (name : List Char) : PropertyQuery :=
  match ["!=", ":", "="].findSome? fun sep => cutAt sep.toList [] name with
  | some (property, value) => .value (String.ofList property) (String.ofList value)
  | none => .name (String.ofList name)

/-- The class after `\p` or `\P`. -/
def readProperty (ignoring negated : Bool) (cs : List Char) : Option (Item × List Char) :=
  match skip ignoring cs with
  | [] => none
  | '{' :: rest => do
    let (name, rest) ← readBraced ignoring (rest.length + 1) rest
    some (.property (queryOf name) negated, rest)
  | '\\' :: _ => none
  | c :: rest => some (.property (.letter c) negated, rest)

/-- The word boundaries that are written out in braces. -/
def boundaryNamed (name : List Char) : Option Place :=
  match String.ofList name with
  | "start" => some .wordStart
  | "end" => some .wordEnd
  | "start-half" => some .wordStartHalf
  | "end-half" => some .wordEndHalf
  | _ => none

/-- Characters of the name of a word boundary. -/
def isBoundaryChar (c : Char) : Bool := c.isAlpha || c == '-'

/-- The name of a word boundary up to its closing brace. -/
def readBoundaryName (ignoring : Bool) : Nat → List Char → Option (List Char × List Char)
  | 0, _ => none
  | fuel + 1, cs =>
    match skip ignoring cs with
    | [] => none
    | '}' :: rest => some ([], rest)
    | c :: rest =>
      if isBoundaryChar c then
        (readBoundaryName ignoring fuel rest).map fun r => (c :: r.1, r.2)
      else none

/-- What follows `\b`: a brace with a letter or hyphen in it names a word boundary, any other
brace is left to be a count. -/
def readBoundary (ignoring : Bool) (cs : List Char) : Option (Place × List Char) :=
  match cs with
  | '{' :: rest =>
    match skip ignoring rest with
    | [] => none
    | c :: _ =>
      if isBoundaryChar c then do
        let (name, rest) ← readBoundaryName ignoring (rest.length + 1) rest
        (boundaryNamed name).map fun p => (p, rest)
      else some (.wordBoundary, cs)
  | _ => some (.wordBoundary, cs)

/-- The item after a backslash. -/
def readEscape (ignoring : Bool) : List Char → Option (Item × List Char)
  | [] => none
  | c :: rest =>
    let plain (n : Nat) := some (Item.literal ⟨Char.ofNat n, false⟩, rest)
    match c with
    | 'x' => (readHex ignoring 2 rest).map fun r => (.literal r.1, r.2)
    | 'u' => (readHex ignoring 4 rest).map fun r => (.literal r.1, r.2)
    | 'U' => (readHex ignoring 8 rest).map fun r => (.literal r.1, r.2)
    | 'p' => readProperty ignoring false rest
    | 'P' => readProperty ignoring true rest
    | 'd' => some (.letter .digit false, rest)
    | 's' => some (.letter .blank false, rest)
    | 'w' => some (.letter .word false, rest)
    | 'D' => some (.letter .digit true, rest)
    | 'S' => some (.letter .blank true, rest)
    | 'W' => some (.letter .word true, rest)
    | 'a' => plain 7
    | 'f' => plain 12
    | 't' => plain 9
    | 'n' => plain 10
    | 'r' => plain 13
    | 'v' => plain 11
    | 'A' => some (.place .textStart, rest)
    | 'z' => some (.place .textEnd, rest)
    | 'b' => (readBoundary ignoring rest).map fun r => (.place r.1, r.2)
    | 'B' => some (.place .notWordBoundary, rest)
    | '<' => some (.place .wordStart, rest)
    | '>' => some (.place .wordEnd, rest)
    | c => if isEscapable c then some (.literal ⟨c, false⟩, rest) else none

/-! ## Bracketed classes -/

/-- The classes written `[:name:]` inside brackets. -/
def asciiClass (name : String) : Option (List (Nat × Nat)) :=
  match name with
  | "alnum" => some [(48, 57), (65, 90), (97, 122)]
  | "alpha" => some [(65, 90), (97, 122)]
  | "ascii" => some [(0, 127)]
  | "blank" => some [(9, 9), (32, 32)]
  | "cntrl" => some [(0, 31), (127, 127)]
  | "digit" => some [(48, 57)]
  | "graph" => some [(33, 126)]
  | "lower" => some [(97, 122)]
  | "print" => some [(32, 126)]
  | "punct" => some [(33, 47), (58, 64), (91, 96), (123, 126)]
  | "space" => some [(9, 13), (32, 32)]
  | "upper" => some [(65, 90)]
  | "word" => some [(48, 57), (65, 90), (95, 95), (97, 122)]
  | "xdigit" => some [(48, 57), (65, 70), (97, 102)]
  | _ => none

/-- The class after `[:`, up to and with `:]`; none when the text is no such class. -/
def readAsciiClass (cs : List Char) : Option (ClassItem × List Char) :=
  let (negated, cs) := match cs with
    | '^' :: rest => (true, rest)
    | _ => (false, cs)
  let name := cs.takeWhile (· != ':')
  match cs.dropWhile (· != ':') with
  | ':' :: ']' :: rest =>
    (asciiClass (String.ofList name)).map fun rs => (.ascii rs negated, rest)
  | _ => none

/-- A single item of a class: an escape, or a character that stands for itself. -/
def readClassAtom (ignoring : Bool) : List Char → Option (Item × List Char)
  | [] => none
  | '\\' :: rest => readEscape ignoring rest
  | c :: rest => some (.literal ⟨c, false⟩, rest)

/-- A single item as a member of a class; positions are none. -/
def Item.toClassItem : Item → Option ClassItem
  | .literal l => some (.literal l)
  | .property q n => some (.property q n)
  | .letter k n => some (.letter k n)
  | .place _ => none

/-- An item of a class, or a range between two literals. A hyphen before `]` or another hyphen
does not make a range. -/
def readClassRange (ignoring : Bool) (cs : List Char) : Option (ClassItem × List Char) := do
  let (first, rest) ← readClassAtom ignoring cs
  match skip ignoring rest with
  | [] => none
  | '-' :: rest' =>
    let next := peek ignoring rest'
    if next = some ']' || next = some '-' then
      (first.toClassItem).map fun i => (i, '-' :: rest')
    else
      let rest := skip ignoring rest'
      let (second, rest) ← readClassAtom ignoring rest
      match first, second with
      | .literal lo, .literal hi => if lo.char ≤ hi.char then some (.range lo hi, rest) else none
      | _, _ => none
  | rest => (first.toClassItem).map fun i => (i, rest)

/-- Leading hyphens of a class, which stand for themselves; the class must go on after them. -/
def readHyphens (ignoring : Bool) : Nat → List Char → Option (List ClassItem × List Char)
  | 0, _ => none
  | _, [] => none
  | fuel + 1, '-' :: rest =>
    (readHyphens ignoring fuel (skip ignoring rest)).map fun r =>
      (.literal ⟨'-', false⟩ :: r.1, r.2)
  | _, cs => some ([], cs)

/-- The start of a class after its bracket: negation, leading hyphens, and a `]` in first place,
which stands for itself. -/
def readClassStart (ignoring : Bool) (cs : List Char) :
    Option (Bool × List ClassItem × List Char) := do
  let cs := skip ignoring cs
  let (negated, cs) := match cs with
    | '^' :: rest => (true, skip ignoring rest)
    | _ => (false, cs)
  let (hyphens, cs) ← readHyphens ignoring (cs.length + 1) cs
  match hyphens, cs with
  | [], ']' :: rest =>
    match skip ignoring rest with
    | [] => none
    | rest => some (negated, [.literal ⟨']', false⟩], rest)
  | _, _ => some (negated, hyphens, cs)

/-- The set read so far: the items beside each other, behind the operator before them. -/
def joinSets (pending : Option (SetOp × ClassSet)) (items : List ClassItem) : ClassSet :=
  match pending with
  | none => .items items.reverse
  | some (kind, left) => .op kind left (.items items.reverse)

/-- The rest of a class, up to and with its closing bracket. `pending` is the set before the
last operator; `items` are those after it, latest first. Operators group to the left. -/
def readClassRest (ignoring : Bool) : Nat → Bool → Option (SetOp × ClassSet) → List ClassItem →
    List Char → Option (Bracketed × List Char)
  | 0, _, _, _, _ => none
  | fuel + 1, negated, pending, items, cs =>
    let operator (kind : SetOp) (rest : List Char) :=
      readClassRest ignoring fuel negated (some (kind, joinSets pending items)) [] rest
    match skip ignoring cs with
    | [] => none
    | '[' :: rest =>
      let ascii := match rest with
        | ':' :: inner => readAsciiClass inner
        | _ => none
      match ascii with
      | some (item, rest) => readClassRest ignoring fuel negated pending (item :: items) rest
      | none => do
        let (negated', first, rest) ← readClassStart ignoring rest
        let (inner, rest) ← readClassRest ignoring fuel negated' none first.reverse rest
        readClassRest ignoring fuel negated pending (.nested inner :: items) rest
    | ']' :: rest => some (.mk negated (joinSets pending items), rest)
    | '&' :: '&' :: rest => operator .inter rest
    | '-' :: '-' :: rest => operator .diff rest
    | '~' :: '~' :: rest => operator .symmDiff rest
    | cs => do
      let (item, rest) ← readClassRange ignoring cs
      readClassRest ignoring fuel negated pending (item :: items) rest

/-- A class, after its opening bracket. -/
def readClass (ignoring : Bool) (cs : List Char) : Option (Bracketed × List Char) := do
  let (negated, first, rest) ← readClassStart ignoring cs
  readClassRest ignoring (2 * cs.length + 2) negated none first.reverse rest

/-! ## Groups and counts -/

/-- How a parenthesis opens: it switches flags for what follows, or starts a group. -/
inductive GroupStart where
  | change (c : FlagChange)
  | body (c : FlagChange) (captures : Bool) (name : Option (List Char))

/-- The flag with a letter. -/
def flagOf (c : Char) : Option Flag :=
  match c with
  | 'i' => some .ignoreCase
  | 'm' => some .multiLine
  | 's' => some .dotAll
  | 'U' => some .swapGreed
  | 'u' => some .unicode
  | 'R' => some .crlf
  | 'x' => some .ignoreBlanks
  | _ => none

/-- Flags up to a colon or parenthesis, which is given back with them. Every flag is written
once, a hyphen at most once and not last. -/
def readFlags (enable : Bool) (soFar : FlagChange) (dangling : Bool) :
    List Char → Option (FlagChange × Char × List Char)
  | [] => none
  | c :: rest =>
    if c = ':' || c = ')' then if dangling then none else some (soFar.reverse, c, rest)
    else if c = '-' then if enable then readFlags false soFar true rest else none
    else
      match flagOf c with
      | none => none
      | some f =>
        if soFar.any fun e => e.1 == f then none
        else readFlags enable ((f, enable) :: soFar) false rest

/-- Characters of a group name; the first must be a letter or an underscore. -/
def isNameChar (first : Bool) (c : Char) : Bool :=
  if first then c == '_' || Unicode.isAlphabetic c
  else c == '_' || c == '.' || c == '[' || c == ']' || Unicode.isAlphanumeric c

/-- A group name up to its closing angle. -/
def readGroupName (cs : List Char) : Option (List Char × List Char) :=
  let name := cs.takeWhile (· != '>')
  match name, cs.dropWhile (· != '>') with
  | first :: more, '>' :: rest =>
    if isNameChar true first && more.all (isNameChar false) then some (name, rest) else none
  | _, _ => none

/-- What follows an opening parenthesis. -/
def readGroupStart (ignoring : Bool) (cs : List Char) : Option (GroupStart × List Char) :=
  match skip ignoring cs with
  | '?' :: '=' :: _ => none
  | '?' :: '!' :: _ => none
  | '?' :: '<' :: '=' :: _ => none
  | '?' :: '<' :: '!' :: _ => none
  | '?' :: 'P' :: '<' :: rest =>
    (readGroupName rest).map fun r => (.body [] true (some r.1), r.2)
  | '?' :: '<' :: rest =>
    (readGroupName rest).map fun r => (.body [] true (some r.1), r.2)
  | '?' :: rest => do
    let (change, stop, rest) ← readFlags true [] false rest
    if stop = ':' then some (.body change false none, rest)
    else if change.isEmpty then none
    else some (.change change, rest)
  | rest => some (.body [] true none, rest)

/-- Decimal digits, blanks between them skipped where they are ignored. -/
def readDigits (ignoring : Bool) : Nat → List Char → List Char × List Char
  | 0, cs => ([], cs)
  | fuel + 1, cs =>
    match cs with
    | [] => ([], [])
    | c :: rest =>
      if c.isDigit then
        let (more, rest) := readDigits ignoring fuel (skip ignoring rest)
        (c :: more, rest)
      else ([], cs)

/-- Drop blanks, with comments after them where those are ignored. -/
def dropBlanks (ignoring : Bool) : Nat → List Char → List Char
  | 0, cs => cs
  | _, [] => []
  | fuel + 1, c :: rest =>
    if isBlank c then dropBlanks ignoring fuel (skip ignoring rest) else c :: rest

/-- A bound of a count, with blanks around it: absent, or a number below 2³². -/
def readBound (ignoring : Bool) (cs : List Char) : Option (Option Nat × List Char) :=
  let (digits, rest) := readDigits ignoring (cs.length + 1) (cs.dropWhile isBlank)
  let rest := dropBlanks ignoring (rest.length + 1) rest
  if digits.isEmpty then some (none, rest)
  else
    let n := digits.foldl (fun acc c => acc * 10 + (c.toNat - 48)) 0
    if n < Nat.pow 2 32 then some (some n, rest) else none

/-- A count after its opening brace, up to and with the closing one: `{n}`, `{n,}`, `{n,m}`. -/
def readCount (ignoring : Bool) (cs : List Char) : Option (Nat × Option Nat × List Char) := do
  let (lo, rest) ← readBound ignoring (skip ignoring cs)
  match rest with
  | '}' :: rest => lo.map fun n => (n, some n, rest)
  | ',' :: rest =>
    match skip ignoring rest with
    | '}' :: rest => lo.map fun n => (n, none, rest)
    | rest =>
      let (hi, rest) ← readBound ignoring rest
      match lo, hi, rest with
      | some lo, some hi, '}' :: rest => if lo ≤ hi then some (lo, some hi, rest) else none
      | _, _, _ => none
  | _ => none

/-! ## The whole pattern -/

/-- The reading state. -/
structure Scan where
  rest : List Char
  ignoring : Bool
  names : List (List Char)

/-- Parts one after another. -/
def concat : List Node → Node
  | [] => .empty
  | [n] => n
  | ns => .concat ns

/-- Branches beside each other; both lists hold the latest first. -/
def joinBranches (branches parts : List Node) : Node :=
  match branches with
  | [] => concat parts.reverse
  | _ => .alternation ((concat parts.reverse :: branches).reverse)

/-- Without the question mark that makes a repetition reluctant: it changes which match is
found first, never whether there is one. -/
def dropReluctance : List Char → List Char
  | '?' :: rest => rest
  | cs => cs

/-- Repeat the latest part; there must be one, and it must not be a flag switch. -/
def repeatLast (lo : Nat) (hi : Option Nat) : List Node → Option (List Node)
  | [] => none
  | .flags _ :: _ => none
  | n :: rest => some (.repeated lo hi n :: rest)

/-- The rest of a group or of the pattern, up to its closing parenthesis or the end. -/
def readBody : Nat → Scan → List Node → List Node → Option (Node × Scan)
  | 0, _, _, _ => none
  | fuel + 1, st, branches, parts =>
    let cs := skip st.ignoring st.rest
    let goOn (parts : List Node) (rest : List Char) :=
      readBody fuel { st with rest } branches parts
    match cs with
    | [] => some (joinBranches branches parts, { st with rest := [] })
    | ')' :: _ => some (joinBranches branches parts, { st with rest := cs })
    | '|' :: rest => readBody fuel { st with rest } (concat parts.reverse :: branches) []
    | '(' :: rest => do
      let (start, rest) ← readGroupStart st.ignoring rest
      match start with
      | .change c =>
        let ignoring := (c.setting .ignoreBlanks).getD st.ignoring
        readBody fuel { st with rest, ignoring } branches (.flags c :: parts)
      | .body c captures name =>
        if name.any st.names.contains then none
        let ignoring := (c.setting .ignoreBlanks).getD st.ignoring
        let (body, inner) ← readBody fuel ⟨rest, ignoring, name.toList ++ st.names⟩ [] []
        match inner.rest with
        | ')' :: rest =>
          readBody fuel ⟨rest, st.ignoring, inner.names⟩ branches
            (.group c captures body :: parts)
        | _ => none
    | '[' :: rest => do
      let (b, rest) ← readClass st.ignoring rest
      goOn (.bracketed b :: parts) rest
    | '?' :: rest => do goOn (← repeatLast 0 (some 1) parts) (dropReluctance rest)
    | '*' :: rest => do goOn (← repeatLast 0 none parts) (dropReluctance rest)
    | '+' :: rest => do goOn (← repeatLast 1 none parts) (dropReluctance rest)
    | '{' :: rest => do
      let (lo, hi, rest) ← readCount st.ignoring rest
      goOn (← repeatLast lo hi parts) (dropReluctance (skip st.ignoring rest))
    | '\\' :: rest => do
      let (item, rest) ← readEscape st.ignoring rest
      goOn (item.toNode :: parts) rest
    | '.' :: rest => goOn (.dot :: parts) rest
    | '^' :: rest => goOn (.place .lineStart :: parts) rest
    | '$' :: rest => goOn (.place .lineEnd :: parts) rest
    | c :: rest => goOn (.literal ⟨c, false⟩ :: parts) rest

/-- The syntax tree of a pattern text, if it is one. -/
def read (text : String) : Option Node := do
  let cs := text.toList
  let (node, st) ← readBody (2 * cs.length + 2) ⟨cs, false, []⟩ [] []
  if st.rest.isEmpty && node.depth ≤ depthLimit then some node else none

end ToolGate.Pattern

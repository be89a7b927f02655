/-
Reading TOML.

* `readValue` — a value.
* `readDocument` — the statements of a text, one a line: values under keys, and headers of tables
  and of rows.
* `Toml.read?` — the table that a text describes, if it is well-formed.
-/
import ToolGate.Toml.Scan

namespace ToolGate.Toml

/-- The entries of a table between braces, from its pairs in order. -/
def inlineEntries : Entries → List ((List String × String) × Toml) → Option Entries
  | entries, [] => some entries
  | entries, ((path, key), value) :: rest => do
    let entries ← addValue true path key value .written entries
    inlineEntries entries rest

mutual

/-- A value; `depth` more levels may be opened. -/
def readValue : Nat → Nat → List Char → Option (Toml × List Char)
  | 0, _, _ => none
  | fuel + 1, depth, cs =>
    match cs with
    | [] => none
    | c :: rest =>
      if c = '"' ∨ c = '\'' then (scanString cs).map fun (s, cs) => (.text s, cs)
      else if c = '[' then
        match depth with
        | 0 => none
        | depth + 1 => (readItems fuel depth rest).map fun (xs, cs) => (.list false xs, cs)
      else if c = '\x7b' then
        match depth with
        | 0 => none
        | depth + 1 => do
          let (pairs, cs) ← readPairs fuel depth true rest
          let entries ← inlineEntries [] pairs
          some (.table true .written entries, cs)
      else if c = 't' then
        match rest with
        | 'r' :: 'u' :: 'e' :: cs => some (.boolean true, cs)
        | _ => none
      else if c = 'f' then
        match rest with
        | 'a' :: 'l' :: 's' :: 'e' :: cs => some (.boolean false, cs)
        | _ => none
      else scanMoment cs <|> scanReal cs <|> scanInteger cs

/-- The items of a list up to its end. -/
def readItems : Nat → Nat → List Char → Option (List Toml × List Char)
  | 0, _, _ => none
  | fuel + 1, depth, cs => do
    match ← skipLines (cs.length + 1) cs with
    | ']' :: rest => some ([], rest)
    | cs => do
      let (x, cs) ← readValue fuel depth cs
      match ← skipLines (cs.length + 1) cs with
      | ',' :: rest => do
        let (xs, cs) ← readItems fuel depth rest
        some (x :: xs, cs)
      | ']' :: rest => some ([x], rest)
      | _ => none

/-- The pairs of a table between braces up to its end, all on one line. -/
def readPairs :
    Nat → Nat → Bool → List Char → Option (List ((List String × String) × Toml) × List Char)
  | 0, _, _, _ => none
  | fuel + 1, depth, first, cs =>
    match first, skipBlanks cs with
    | true, '\x7d' :: rest => some ([], rest)
    | _, cs => do
      let (key, cs) ← scanKey cs
      match cs with
      | '=' :: rest => do
        let (value, cs) ← readValue fuel depth (skipBlanks rest)
        match skipBlanks cs with
        | ',' :: rest => do
          let (pairs, cs) ← readPairs fuel depth false rest
          some ((key, value) :: pairs, cs)
        | '\x7d' :: rest => some ([(key, value)], rest)
        | _ => none
      | _ => none

end

/-- Enough steps for reading a text. -/
def stepsFor (cs : List Char) : Nat := 2 * cs.length + 2

/-- What has been read: the entries of the document, and the path of keys to the table that
values are added to. -/
structure Draft where
  entries : Entries
  path : List String

namespace Draft

/-- Add a value to the table that is open. -/
def add (d : Draft) (key : List String × String) (value : Toml) : Option Draft := do
  let entries ← changeAt false false (addValue false key.1 key.2 value) d.path .written d.entries
  some { d with entries }

/-- Open another table by a statement about the table it lies in. -/
def openAt (d : Draft) (key : List String × String)
    (statement : String → Origin → Entries → Option Entries) : Option Draft := do
  let entries ← changeAt false false (statement key.2) key.1 .written d.entries
  some ⟨entries, key.1 ++ [key.2]⟩

end Draft

/-- One statement, with the end of its line. -/
def readStatement (d : Draft) (cs : List Char) : Option (Draft × List Char) :=
  match cs with
  | '[' :: '[' :: rest => do
    let (key, cs) ← scanKey rest
    match cs with
    | ']' :: ']' :: rest => do
      let d ← d.openAt key openRow
      some (d, ← finishLine rest)
    | _ => none
  | '[' :: rest => do
    let (key, cs) ← scanKey rest
    match cs with
    | ']' :: rest => do
      let d ← d.openAt key openTable
      some (d, ← finishLine rest)
    | _ => none
  | cs => do
    let (key, cs) ← scanKey cs
    match cs with
    | '=' :: rest => do
      let (value, cs) ← readValue (stepsFor rest) maxDepth (skipBlanks rest)
      let d ← d.add key value
      some (d, ← finishLine cs)
    | _ => none

/-- The statements of a text, one a line. -/
def readDocument : Nat → Draft → List Char → Option Entries
  | 0, _, _ => none
  | fuel + 1, d, cs =>
    match skipBlanks cs with
    | [] => some d.entries
    | c :: rest =>
      if c = '#' ∨ c = '\n' ∨ c = '\r' then
        match finishLine (c :: rest) with
        | some cs => readDocument fuel d cs
        | none => none
      else
        match readStatement d (c :: rest) with
        | some (d, cs) => readDocument fuel d cs
        | none => none

/-- Without a byte order mark at the start. -/
def dropMark : List Char → List Char
  | c :: cs => if c = '\ufeff' then cs else c :: cs
  | [] => []

/-- The table that a text describes. -/
def read? (text : String) : Option Toml :=
  let cs := dropMark text.toList
  (readDocument (cs.length + 1) ⟨[], []⟩ cs).map fun entries => .table false .written entries

end ToolGate.Toml

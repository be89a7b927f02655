/-
Reading a JSON text.

* `readValue` — any value. Lists and objects may be nested so many levels deep.
* `skipValue` — pass over a value that nobody asked for, however deep.
* `nextItem`, `nextKey`, `closeList`, `afterObjectEnd` — the steps between the items of a list and
  the fields of an object, which other readers share.

Blanks are passed over in front of a token, never behind it. A place inside a text is told by
the characters after it.
-/
import ToolGate.Json.Scan

namespace ToolGate.Json

/-- How many levels of lists and objects may be nested. -/
def maxDepth : Nat := 127

/-! ## Between items and fields -/

/-- Go on to the next item of a list, or past its end. -/
def nextItem (first : Bool) (cs : List Char) : Outcome Bool :=
  match skipBlanks cs with
  | [] => .error (Fault.next .endInList [])
  | c :: rest =>
    if c = ']' then .ok (false, rest)
    else if first then .ok (true, c :: rest)
    else if c = ',' then
      match skipBlanks rest with
      | [] => .error (Fault.next .endInValue [])
      | d :: rest =>
        if d = ']' then .error (Fault.next .trailingComma (d :: rest)) else .ok (true, d :: rest)
    else .error (Fault.next .expectedCommaOrListEnd (c :: rest))

/-- The key that starts at a quote. -/
def keyAt : List Char → Outcome (Option String)
  | [] => .error (Fault.next .endInValue [])
  | c :: rest =>
    if c = '"' then (scanText rest).map fun (s, cs) => (some s, cs)
    else .error (Fault.next .keyNotText (c :: rest))

/-- Go on to the next key of an object, or past its end. -/
def nextKey (first : Bool) (cs : List Char) : Outcome (Option String) :=
  match skipBlanks cs with
  | [] => .error (Fault.next .endInObject [])
  | c :: rest =>
    if c = '\x7d' then .ok (none, rest)
    else if first then keyAt (c :: rest)
    else if c = ',' then
      match skipBlanks rest with
      | d :: rest =>
        if d = '\x7d' then .error (Fault.next .trailingComma (d :: rest)) else keyAt (d :: rest)
      | [] => keyAt []
    else .error (Fault.next .expectedCommaOrObjectEnd (c :: rest))

/-- Pass over the colon between a key and its value. -/
def passColon (cs : List Char) : Outcome Unit :=
  match skipBlanks cs with
  | [] => .error (Fault.next .endInObject [])
  | c :: rest => if c = ':' then .ok ((), rest) else .error (Fault.next .expectedColon (c :: rest))

/-- End a list whose items have all been read. -/
def closeList (cs : List Char) : Outcome Unit :=
  match skipBlanks cs with
  | [] => .error (Fault.next .endInList [])
  | c :: rest =>
    if c = ']' then .ok ((), rest)
    else if c = ',' then
      match skipBlanks rest with
      | d :: rest =>
        .error (Fault.next (if d = ']' then .trailingComma else .trailingCharacters) (d :: rest))
      | [] => .error (Fault.next .trailingCharacters [])
    else .error (Fault.next .trailingCharacters (c :: rest))

/-- What is left when one tries to end an object, whether or not it ends there. -/
def afterObjectEnd (cs : List Char) : List Char :=
  match skipBlanks cs with
  | [] => []
  | c :: rest => if c = '\x7d' then rest else c :: rest

/-- Nothing but blanks is left. -/
def finish (cs : List Char) : Except Fault Unit :=
  match skipBlanks cs with
  | [] => .ok ()
  | rest => .error (Fault.next .trailingCharacters rest)

/-! ## Values -/

mutual

/-- A value; `depth` more levels may be opened. -/
def readValue : Nat → Nat → List Char → Outcome Json
  | 0, _, cs => .error (Fault.next .endInValue cs)
  | fuel + 1, depth, cs =>
    match skipBlanks cs with
    | [] => .error (Fault.next .endInValue [])
    | c :: rest =>
      if c = 'n' then (scanWord ['u', 'l', 'l'] rest).map fun (_, cs) => (.null, cs)
      else if c = 't' then (scanWord ['r', 'u', 'e'] rest).map fun (_, cs) => (.boolean true, cs)
      else if c = 'f' then
        (scanWord ['a', 'l', 's', 'e'] rest).map fun (_, cs) => (.boolean false, cs)
      else if c = '-' then (scanNumber true rest).map fun (n, cs) => (.number n, cs)
      else if c.isDigit then (scanNumber false (c :: rest)).map fun (n, cs) => (.number n, cs)
      else if c = '"' then (scanText rest).map fun (s, cs) => (.text s, cs)
      else if c = '[' then
        match depth with
        | 0 => .error (Fault.next .tooDeep (c :: rest))
        | depth + 1 => (readItems fuel depth true rest).map fun (xs, cs) => (.list xs, cs)
      else if c = '\x7b' then
        match depth with
        | 0 => .error (Fault.next .tooDeep (c :: rest))
        | depth + 1 =>
          (readEntries fuel depth true rest).map fun (es, cs) => (.object (ofEntries es), cs)
      else .error (Fault.next .expectedValue (c :: rest))

/-- The items of a list up to its end. -/
def readItems : Nat → Nat → Bool → List Char → Outcome (List Json)
  | 0, _, _, cs => .error (Fault.next .endInList cs)
  | fuel + 1, depth, first, cs =>
    match nextItem first cs with
    | .error f => .error f
    | .ok (false, cs) => .ok ([], cs)
    | .ok (true, cs) =>
      match readValue fuel depth cs with
      | .error f => .error f
      | .ok (x, cs) => (readItems fuel depth false cs).map fun (xs, cs) => (x :: xs, cs)

/-- The fields of an object up to its end, in the order of the text. -/
def readEntries : Nat → Nat → Bool → List Char → Outcome Fields
  | 0, _, _, cs => .error (Fault.next .endInObject cs)
  | fuel + 1, depth, first, cs =>
    match nextKey first cs with
    | .error f => .error f
    | .ok (none, cs) => .ok ([], cs)
    | .ok (some key, cs) =>
      match passColon cs with
      | .error f => .error f
      | .ok ((), cs) =>
        match readValue fuel depth cs with
        | .error f => .error f
        | .ok (v, cs) => (readEntries fuel depth false cs).map fun (es, cs) => ((key, v) :: es, cs)

end

/-- Enough steps for reading a text. -/
def stepsFor (cs : List Char) : Nat := 2 * cs.length + 2

/-! ## Values nobody asked for -/

mutual

/-- Pass over a value. -/
def skipValue : Nat → List Char → Outcome Unit
  | 0, cs => .error (Fault.next .endInValue cs)
  | fuel + 1, cs =>
    match skipBlanks cs with
    | [] => .error (Fault.next .endInValue [])
    | c :: rest =>
      if c = 'n' then scanWord ['u', 'l', 'l'] rest
      else if c = 't' then scanWord ['r', 'u', 'e'] rest
      else if c = 'f' then scanWord ['a', 'l', 's', 'e'] rest
      else if c = '-' then skipNumber rest
      else if c.isDigit then skipNumber (c :: rest)
      else if c = '"' then skipText (rest.length + 1) rest
      else if c = '[' then skipItems fuel true rest
      else if c = '\x7b' then skipEntries fuel true rest
      else .error (Fault.next .expectedValue (c :: rest))

/-- Pass over the items of a list and its end. -/
def skipItems : Nat → Bool → List Char → Outcome Unit
  | 0, _, cs => .error (Fault.next .endInList cs)
  | fuel + 1, first, cs =>
    match skipBlanks cs with
    | [] => .error (Fault.next .endInList [])
    | c :: rest =>
      if c = ']' then .ok ((), rest)
      else if first ∨ c = ',' then
        match skipValue fuel (if first then c :: rest else rest) with
        | .error f => .error f
        | .ok ((), cs) => skipItems fuel false cs
      else .error (Fault.next .expectedCommaOrListEnd (c :: rest))

/-- Pass over the fields of an object and its end. -/
def skipEntries : Nat → Bool → List Char → Outcome Unit
  | 0, _, cs => .error (Fault.next .endInObject cs)
  | fuel + 1, first, cs =>
    match skipBlanks cs with
    | [] => .error (Fault.next .endInObject [])
    | c :: rest =>
      if c = '\x7d' then .ok ((), rest)
      else if first ∨ c = ',' then
        match skipBlanks (if first then c :: rest else rest) with
        | [] => .error (Fault.next .endInObject [])
        | d :: rest =>
          if d = '"' then
            match skipText (rest.length + 1) rest with
            | .error f => .error f
            | .ok ((), cs) =>
              match passColon cs with
              | .error f => .error f
              | .ok ((), cs) =>
                match skipValue fuel cs with
                | .error f => .error f
                | .ok ((), cs) => skipEntries fuel false cs
          else .error (Fault.next .keyNotText (d :: rest))
      else .error (Fault.next .expectedCommaOrObjectEnd (c :: rest))

end

end ToolGate.Json

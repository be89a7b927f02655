/-
JSON text of a value.

* `render` — on one line, without blanks.
* `pretty` — one item or field a line, indented by two spaces a level; empty lists and objects
  stay closed.
-/
import ToolGate.Json.Error

namespace ToolGate.Json

/-- The digit of a value below sixteen. -/
def hexDigit (n : Nat) : Char := Nat.digitChar n

/-- How a character is written in a JSON text. -/
def escapeChar (c : Char) : List Char :=
  if c = '"' then ['\\', '"']
  else if c = '\\' then ['\\', '\\']
  else if c = '\x08' then ['\\', 'b']
  else if c = '\x0c' then ['\\', 'f']
  else if c = '\n' then ['\\', 'n']
  else if c = '\r' then ['\\', 'r']
  else if c = '\t' then ['\\', 't']
  else if c.toNat < 0x20 then
    ['\\', 'u', '0', '0', hexDigit (c.toNat / 16), hexDigit (c.toNat % 16)]
  else [c]

/-- The characters of a text, each as it is written. -/
def escape : List Char → List Char
  | [] => []
  | c :: cs => escapeChar c ++ escape cs

/-- A text in quotes. -/
def renderText (s : String) : List Char := '"' :: (escape s.toList ++ ['"'])

/-- A number. -/
def renderNumber : Number → List Char
  | .integer n => integerText n
  | .real x => x.render

/-- One of the two truth values. -/
def renderBoolean : Bool → List Char
  | true => ['t', 'r', 'u', 'e']
  | false => ['f', 'a', 'l', 's', 'e']

mutual

/-- The text of a value on one line. -/
def render : Json → List Char
  | .null => ['n', 'u', 'l', 'l']
  | .boolean b => renderBoolean b
  | .number n => renderNumber n
  | .text s => renderText s
  | .list [] => ['[', ']']
  | .list (x :: xs) => '[' :: (render x ++ renderItems xs)
  | .object [] => ['\x7b', '\x7d']
  | .object ((k, v) :: rest) => '\x7b' :: (renderText k ++ ':' :: (render v ++ renderFields rest))

/-- The further items of a list and its end. -/
def renderItems : List Json → List Char
  | [] => [']']
  | x :: xs => ',' :: (render x ++ renderItems xs)

/-- The further fields of an object and its end. -/
def renderFields : Fields → List Char
  | [] => ['\x7d']
  | (k, v) :: rest => ',' :: (renderText k ++ ':' :: (render v ++ renderFields rest))

end

/-- The start of a new line at a level of nesting. -/
def newLine (level : Nat) : List Char := '\n' :: List.replicate (2 * level) ' '

mutual

/-- The text of a value at a level of nesting, one item or field a line. -/
def pretty (level : Nat) : Json → List Char
  | .null => ['n', 'u', 'l', 'l']
  | .boolean b => renderBoolean b
  | .number n => renderNumber n
  | .text s => renderText s
  | .list [] => ['[', ']']
  | .list (x :: xs) =>
    '[' :: (newLine (level + 1) ++ pretty (level + 1) x ++ prettyItems level xs)
  | .object [] => ['\x7b', '\x7d']
  | .object ((k, v) :: rest) =>
    '\x7b' :: (newLine (level + 1) ++ renderText k ++
      ':' :: ' ' :: (pretty (level + 1) v ++ prettyFields level rest))

/-- The further items of a list at a level and its end. -/
def prettyItems (level : Nat) : List Json → List Char
  | [] => newLine level ++ [']']
  | x :: xs => ',' :: (newLine (level + 1) ++ pretty (level + 1) x ++ prettyItems level xs)

/-- The further fields of an object at a level and its end. -/
def prettyFields (level : Nat) : Fields → List Char
  | [] => newLine level ++ ['\x7d']
  | (k, v) :: rest =>
    ',' :: (newLine (level + 1) ++ renderText k ++
      ':' :: ' ' :: (pretty (level + 1) v ++ prettyFields level rest))

end

/-- The text of a value on one line, as a string. -/
def toText (j : Json) : String := String.ofList j.render

/-- The text of a value over several lines, as a string. -/
def toPrettyText (j : Json) : String := String.ofList (j.pretty 0)

end ToolGate.Json

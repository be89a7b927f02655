/-
Text between double quotes, as messages show it.

A double quote, a backslash, the usual control characters, characters without a visible form
and characters that would join the one before them are written as escapes; all others stand for
themselves.
-/
import ToolGate.Unicode.Class

namespace ToolGate.Text

/-- A code point in hexadecimal, in braces. -/
def bracedHex (n : Nat) : List Char := '\x7b' :: (Nat.toDigits 16 n ++ ['\x7d'])

/-- How a character is shown inside double quotes. -/
def quotedChar (c : Char) : List Char :=
  if c = '\x00' then ['\\', '0']
  else if c = '\t' then ['\\', 't']
  else if c = '\r' then ['\\', 'r']
  else if c = '\n' then ['\\', 'n']
  else if c = '"' then ['\\', '"']
  else if c = '\\' then ['\\', '\\']
  else if 0x20 ≤ c.toNat ∧ c.toNat < 0x7F then [c]
  else if Unicode.extendsGrapheme c || !Unicode.isPrintable c then '\\' :: 'u' :: bracedHex c.toNat
  else [c]

/-- A text in double quotes. -/
def quoted (s : String) : String :=
  String.ofList ('"' :: (s.toList.flatMap quotedChar ++ ['"']))

end ToolGate.Text

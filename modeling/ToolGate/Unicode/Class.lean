/-
The character classes that other modules ask about, put together from the property tables.

* `digits`, `blanks`, `wordCharacters` — the classes behind `\d`, `\s` and `\w`.
* `isAlphabetic`, `isAlphanumeric` — letters, and letters with numbers of any kind.
* `isPrintable`, `extendsGrapheme` — whether a character can stand for itself in quoted text.
-/
import ToolGate.Unicode.Category
import ToolGate.Unicode.Property

namespace ToolGate.Unicode

/-- A binary property under one of its names; empty when there is none. -/
def property (name : String) : CodeSet :=
  (findNamed propertyTable name).getD CodeSet.empty

/-- Decimal digits of every script. -/
def digits : CodeSet := unionOf ["nd"]

/-- Characters with the White_Space property. -/
def blanks : CodeSet := property "whitespace"

/-- Letters. -/
def alphabetic : CodeSet := property "alphabetic"

/-- Letters and numbers. -/
def alphanumeric : CodeSet := alphabetic.union (unionOf ["nd", "nl", "no"])

/-- Characters of words: letters, marks, digits, connecting punctuation and joiners. -/
def wordCharacters : CodeSet :=
  (alphabetic.union (unionOf ["mn", "mc", "me", "nd", "pc"])).union (property "joincontrol")

/-- Characters that have no visible form of their own, the ordinary space apart. -/
def unprintable : CodeSet :=
  (unionOf ["cc", "cf", "co", "cn", "zl", "zp", "zs"]).diff (CodeSet.singleton 0x20)

/-- Characters that join the character before them. -/
def graphemeExtenders : CodeSet := property "graphemeextend"

/-- The character is a letter. -/
def isAlphabetic (c : Char) : Bool := alphabetic.mem c

/-- The character is a letter or a number. -/
def isAlphanumeric (c : Char) : Bool := alphanumeric.mem c

/-- The character has a visible form of its own, or is the ordinary space. -/
def isPrintable (c : Char) : Bool := !unprintable.mem c

/-- The character joins the one before it. -/
def extendsGrapheme (c : Char) : Bool := graphemeExtenders.mem c

end ToolGate.Unicode

/-
The accounts of a machine.

A list of accounts has a line for each of them, with fields between colons: name, password,
number, number of the group, remark, home folder, shell.

* `Account.homeIn?` — the home folder of the account with a number.
* `Account.numberIn?` — the number of the account that a running program belongs to.
-/
namespace ToolGate.Account

/-- The lines of a text, each with its fields between separators. -/
def rows (separator : Char) (text : String) : List (List String) :=
  (text.toList.splitOn '\n').map fun line => (line.splitOn separator).map String.ofList

/-- The home folder in the fields of the account with this number. -/
def homeOf? (number : String) : List String → Option String
  | _ :: _ :: n :: _ :: _ :: home :: _ => if n = number then some home else none
  | _ => none

/-- The home folder that a list of accounts gives to the account with this number. The first
account with the number counts; a folder without a name is none. -/
def homeIn? (accounts number : String) : Option String :=
  ((rows ':' accounts).findSome? (homeOf? number)).filter (!·.isEmpty)

/-- The number of the account in a report on a running program, on its line `Uid:`. -/
def numberIn? (report : String) : Option String :=
  (rows '\t' report).findSome? fun
    | "Uid:" :: number :: _ => some number
    | _ => none

end ToolGate.Account

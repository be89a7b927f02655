/-
What a rule does, and what is decided about a call.

* `Action` — what a rule does when it covers a call; also what happens when no rule does.
* `Decision` — the answer about one call.
* `Verdict` — a person's answer to a request for approval.

Each has its name in files and messages, and is read back from that name.
-/
import ToolGate.Json.Decoder
import ToolGate.Text.Blank

namespace ToolGate

/-- What a rule does when it covers a call. -/
inductive Action where
  | block
  | requireApproval
  | allow
  deriving Repr, DecidableEq

/-- The answer about one call. -/
inductive Decision where
  | allow
  | requiresApproval
  | block
  deriving Repr, DecidableEq

/-- A person's answer to a request for approval. -/
inductive Verdict where
  | approve
  | deny
  deriving Repr, DecidableEq

namespace Action

instance : Inhabited Action := ⟨.requireApproval⟩

/-- The name of an action. -/
def name : Action → String
  | .block => "block"
  | .requireApproval => "require_approval"
  | .allow => "allow"

/-- The actions under their names. -/
def options : List (String × Action) :=
  [("block", .block), ("require_approval", .requireApproval), ("allow", .allow)]

/-- A letter of the ASCII alphabet in lower case, any other character as it is. -/
def lowerAscii (c : Char) : Char :=
  if 'A' ≤ c ∧ c ≤ 'Z' then Char.ofNat (c.toNat + 32) else c

/-- The action of a name, in any ASCII case and between blanks. -/
def ofName? (text : String) : Option Action :=
  let name := String.ofList ((Text.trim text.toList).map lowerAscii)
  (options.find? (·.1 == name)).map (·.2)

/-- Actions as JSON texts. -/
def decoder : Json.Decoder Action := .choice options

end Action

namespace Decision

/-- The decision that an action leads to. -/
def ofAction : Action → Decision
  | .block => .block
  | .requireApproval => .requiresApproval
  | .allow => .allow

/-- The name of a decision in answers and log lines. -/
def name : Decision → String
  | .allow => "allow"
  | .requiresApproval => "require_approval"
  | .block => "block"

/-- The name of a decision where it is stored. -/
def storedName : Decision → String
  | .allow => "allow"
  | .requiresApproval => "requires_approval"
  | .block => "block"

/-- Decisions as JSON texts. -/
def decoder : Json.Decoder Decision :=
  .choice [("allow", .allow), ("requires_approval", .requiresApproval), ("block", .block)]

end Decision

namespace Verdict

/-- The word that gives a verdict. -/
def name : Verdict → String
  | .approve => "approve"
  | .deny => "deny"

/-- What a verdict has done to a request. -/
def pastName : Verdict → String
  | .approve => "approved"
  | .deny => "denied"

/-- Verdicts as JSON texts. -/
def decoder : Json.Decoder Verdict := .choice [("approve", .approve), ("deny", .deny)]

end Verdict

end ToolGate

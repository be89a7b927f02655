/-
What an engine says about a call, and why.

* `Ruling` — the check that decided, with what it found.
* `Evaluation` — what the caller is told: the decision, the reason, and the id of the request that
  was raised, if one was.
-/
import ToolGate.Approval.Command
import ToolGate.Approval.Ledger
import ToolGate.Protection
import ToolGate.Rule.Match

namespace ToolGate

/-- What the caller of a tool is told. -/
structure Evaluation where
  decision : Decision
  reason : String
  requestId : Option RequestId
  deriving Repr, DecidableEq

/-- The tool must not be run. -/
def Evaluation.isBlocked (e : Evaluation) : Bool := e.decision ≠ .allow

/-- The check that decided about a call. -/
inductive Ruling where
  /-- The tool is exempt from all checks. -/
  | internalTool
  /-- The tool changes files and the path is protected. -/
  | protectedPath
  /-- The rules block the call. -/
  | blocked (reason : String)
  /-- The rules allow the call. -/
  | allowed (reason : String)
  /-- The rules ask for approval, and there was one, which is now used up. -/
  | approved
  /-- The rules ask for approval, and a request was raised. -/
  | requested (id : RequestId) (reason : String)
  deriving Repr, DecidableEq

namespace Ruling

/-- The reason that is given for a call that was approved. -/
def approvedReason : String := "Approved by user (one-use approval consumed)"

/-- The decision of a ruling. -/
def decision : Ruling → Decision
  | .internalTool => .allow
  | .protectedPath => .block
  | .blocked _ => .block
  | .allowed _ => .allow
  | .approved => .allow
  | .requested _ _ => .requiresApproval

/-- The reason that is given for a ruling about a call. -/
def reason (call : ToolCall) : Ruling → String
  | .internalTool => "internal tool: " ++ call.tool
  | .protectedPath => Protection.reason
  | .blocked reason => reason
  | .allowed reason => reason
  | .approved => approvedReason
  | .requested id reason => Approval.requestMessage reason id

/-- The id of the request that was raised. -/
def requestId : Ruling → Option RequestId
  | .requested id _ => some id
  | _ => none

/-- What the caller is told. -/
def evaluation (call : ToolCall) (r : Ruling) : Evaluation :=
  ⟨r.decision, r.reason call, r.requestId⟩

end Ruling

end ToolGate

/-
The ledger of requests for approval.

A request is raised for a call, settled by a person's verdict, and used up by the next call with
the same fingerprint. The ledger holds the requests by id and, for each fingerprint, the request
that speaks for it.

* `Ledger.create`, `Ledger.resolve`, `Ledger.consume` — the steps of a request's life.
* `Ledger.sweep` — drop requests that have outlived a policy.
* `Ledger.status`, `Ledger.get?`, `Ledger.size` — what is there.

The time and the id of a new request are given from outside.
-/
import ToolGate.Action
import ToolGate.Approval.Fingerprint
import ToolGate.Approval.Table
import ToolGate.RequestId
import ToolGate.Timestamp

namespace ToolGate.Approval

/-- Where a request stands. -/
inductive Status where
  | pending
  | approved
  | denied
  deriving Repr, DecidableEq

/-- The name of a status. -/
def Status.name : Status → String
  | .pending => "pending"
  | .approved => "approved"
  | .denied => "denied"

/-- Where a verdict puts a request. -/
def Status.ofVerdict : Verdict → Status
  | .approve => .approved
  | .deny => .denied

/-- A request for approval of a call. -/
structure Request where
  id : RequestId
  tool : String
  args : Json.Fields
  status : Status
  reason : String
  createdAt : Timestamp
  resolvedAt : Option Timestamp
  /-- The fingerprint of the call. -/
  key : String
  deriving Repr

/-- A request as a JSON record. -/
def Request.toJson (r : Request) : Json :=
  .object [
    ("id", .text r.id.render),
    ("tool_name", .text r.tool),
    ("params", .object r.args),
    ("status", .text r.status.name),
    ("reason", .text r.reason),
    ("created_at", .text r.createdAt.render),
    ("resolved_at", match r.resolvedAt with
      | some t => .text t.render
      | none => .null)]

/-- How long requests live. -/
structure ExpiryPolicy where
  /-- Milliseconds that a request may wait for a verdict. -/
  lifetime : Int
  /-- Settled requests live that long too, from their verdict on. -/
  expireResolved : Bool
  deriving Repr, DecidableEq

instance : Inhabited ExpiryPolicy := ⟨⟨3600000, true⟩⟩

/-- A request has outlived the policy. -/
def ExpiryPolicy.isOver (policy : ExpiryPolicy) (now : Timestamp) (r : Request) : Bool :=
  match r.status, r.resolvedAt with
  | .pending, _ => policy.lifetime < now.since r.createdAt
  | _, some resolved => policy.expireResolved && policy.lifetime < now.since resolved
  | _, none => false

/-- The requests by id, and for each fingerprint the id of the request that speaks for it. -/
structure Ledger where
  requests : Table RequestId Request
  claims : Table String RequestId
  deriving Repr

namespace Ledger

/-- The ledger without requests. -/
def empty : Ledger := ⟨.empty, .empty⟩

instance : Inhabited Ledger := ⟨empty⟩

/-- The request of an id. -/
def get? (l : Ledger) (id : RequestId) : Option Request := l.requests.get? id

/-- How many requests there are. -/
def size (l : Ledger) : Nat := l.requests.size

/-- Where the request of an id stands, if there is one. -/
def status (l : Ledger) (id : RequestId) : Option Status := (l.get? id).map (·.status)

/-- The name of the status of an id, known or not. -/
def statusName (l : Ledger) (id : RequestId) : String :=
  match l.status id with
  | some s => s.name
  | none => "unknown"

/-- The ledger without a request, and without the claim to its fingerprint if that was its. -/
def remove (l : Ledger) (id : RequestId) : Ledger :=
  match l.requests.get? id with
  | none => l
  | some r =>
    ⟨l.requests.erase id,
      if l.claims.get? r.key = some id then l.claims.erase r.key else l.claims⟩

/-- Raise a request for a call. From now on it speaks for the call's fingerprint. -/
def create (l : Ledger) (id : RequestId) (now : Timestamp) (call : ToolCall) (reason : String) :
    Ledger :=
  let key := call.fingerprint
  let request : Request := ⟨id, call.tool, call.args, .pending, reason, now, none, key⟩
  ⟨l.requests.put id request, l.claims.put key id⟩

/-- Settle a pending request. One that is approved takes over its fingerprint. No other request
can be settled. -/
def resolve (l : Ledger) (now : Timestamp) (id : RequestId) (verdict : Verdict) : Bool × Ledger :=
  match l.requests.get? id with
  | none => (false, l)
  | some r =>
    if r.status ≠ .pending then (false, l)
    else
      let settled := { r with status := .ofVerdict verdict, resolvedAt := some now }
      (true,
        ⟨l.requests.put id settled,
          if verdict = .approve then l.claims.put r.key id else l.claims⟩)

/-- Use up the approval of exactly this call, if there is one. -/
def consume (l : Ledger) (call : ToolCall) : Bool × Ledger :=
  match l.claims.get? call.fingerprint with
  | none => (false, l)
  | some id =>
    match l.requests.get? id with
    | none => (false, l)
    | some r => if r.status = .approved then (true, l.remove id) else (false, l)

/-- The ids of the requests that have outlived a policy. -/
def expired (l : Ledger) (policy : ExpiryPolicy) (now : Timestamp) : List RequestId :=
  (l.requests.values.filter (policy.isOver now)).map (·.id)

/-- Drop the requests that have outlived a policy, and count them. -/
def sweep (l : Ledger) (policy : ExpiryPolicy) (now : Timestamp) : Nat × Ledger :=
  let ids := l.expired policy now
  (ids.length, ids.foldl remove l)

end Ledger

end ToolGate.Approval

/-
The ledger of requests stays coherent.

The ledger holds two tables, and several requests may have one fingerprint while only one of them
speaks for it. What keeps the tables in step is written once, as `Ledger.Coherent`, and every step
keeps it: raising a request with an id that is not in use, settling one, using one up, and sweeping.

* `Request.raised`, `Request.settled` — the entries that raising and settling write.
* `approvedFor?` — the approved request that speaks for a fingerprint: what `consume` uses up.
* `get?_create`, `get?_settle`, `get?_remove`, `get?_sweep` — what is found under an id after a
  step; `claims_…` — which request speaks for a fingerprint after it.
* `Op`, `after`, `Reachable` — the ledgers that any steps lead to from the empty one;
  `get?_after_cases` — what one step may do to the request of an id.
* `coherent_of_reachable` and `tables_in_step_of_reachable` — they are all coherent, and what that
  says about the claims.

Removing a request drops the claim to its fingerprint only if the claim is its own. `claims_remove`
says that this is the same as dropping every claim that points at the request; it needs the
invariant, and the sweep, which removes one request after another, is read off it.
-/
import Mathlib
import ToolGate.Approval.Ledger
import ToolGate.Proofs.Approval.Table

namespace ToolGate.Approval

/-! ## Requests -/

/-- The entry that `create` writes. -/
def Request.raised (id : RequestId) (now : Timestamp) (call : ToolCall)
    (reason : String) : Request :=
  ⟨id, call.tool, call.args, .pending, reason, now, none, call.fingerprint⟩

/-- The entry that `resolve` leaves of a pending request. -/
def Request.settled (r : Request) (now : Timestamp) (verdict : Verdict) : Request :=
  { r with status := .ofVerdict verdict, resolvedAt := some now }

@[simp] theorem Status.ofVerdict_ne_pending (verdict : Verdict) :
    Status.ofVerdict verdict ≠ .pending := by
  cases verdict <;> decide

@[simp] theorem Status.ofVerdict_eq_approved {verdict : Verdict} :
    Status.ofVerdict verdict = .approved ↔ verdict = .approve := by
  cases verdict <;> decide

namespace Ledger

variable {l : Ledger}

theorem status_eq_some {id : RequestId} {s : Status} :
    l.status id = some s ↔ ∃ r, l.get? id = some r ∧ r.status = s := by
  simp [status]

@[simp] theorem get?_empty (id : RequestId) : empty.get? id = none := rfl

@[simp] theorem claims_empty (key : String) : empty.claims.get? key = none := rfl

/-! ## What one step writes -/

theorem get?_create (l : Ledger) (id : RequestId) (now : Timestamp) (call : ToolCall)
    (reason : String) (i : RequestId) :
    (l.create id now call reason).get? i =
      if id = i then some (.raised id now call reason) else l.get? i :=
  Table.get?_put ..

theorem claims_create (l : Ledger) (id : RequestId) (now : Timestamp) (call : ToolCall)
    (reason : String) (key : String) :
    (l.create id now call reason).claims.get? key =
      if call.fingerprint = key then some id else l.claims.get? key :=
  Table.get?_put ..

/-- The ledger after a verdict on `r`. An approved request takes over its fingerprint. -/
def settle (l : Ledger) (now : Timestamp) (id : RequestId) (r : Request)
    (verdict : Verdict) : Ledger :=
  ⟨l.requests.put id (r.settled now verdict),
    if verdict = .approve then l.claims.put r.key id else l.claims⟩

theorem get?_settle (l : Ledger) (now : Timestamp) (id : RequestId) (r : Request)
    (verdict : Verdict) (i : RequestId) :
    (l.settle now id r verdict).get? i =
      if id = i then some (r.settled now verdict) else l.get? i :=
  Table.get?_put ..

theorem claims_settle (l : Ledger) (now : Timestamp) (id : RequestId) (r : Request)
    (verdict : Verdict) (key : String) :
    (l.settle now id r verdict).claims.get? key =
      if verdict = .approve ∧ r.key = key then some id else l.claims.get? key := by
  by_cases h : verdict = .approve
  · simp [settle, h, Table.get?_put]
  · simp [settle, h]

/-- A verdict is refused unless the request is pending; then `resolve` is `settle`. -/
theorem resolve_cases (l : Ledger) (now : Timestamp) (id : RequestId) (verdict : Verdict) :
    (l.status id ≠ some .pending ∧ l.resolve now id verdict = (false, l)) ∨
      ∃ r, l.get? id = some r ∧ r.status = .pending ∧
        l.resolve now id verdict = (true, l.settle now id r verdict) := by
  cases hr : l.requests.get? id with
  | none => exact .inl ⟨by simp [status, get?, hr], by simp [resolve, hr]⟩
  | some r =>
    by_cases hs : r.status = .pending
    · exact .inr ⟨r, hr, hs, by simp [resolve, hr, hs, settle, Request.settled]⟩
    · exact .inl ⟨by simp [status, get?, hr, hs], by simp [resolve, hr, hs]⟩

/-- The approved request that `claims` has under a fingerprint. -/
def approvedFor? (l : Ledger) (key : String) : Option RequestId :=
  (l.claims.get? key).filter fun id => l.status id = some .approved

theorem approvedFor?_eq_some {key : String} {id : RequestId} :
    l.approvedFor? key = some id ↔
      l.claims.get? key = some id ∧ l.status id = some .approved := by
  simp [approvedFor?]

/-- An approval makes its request the `approvedFor?` of its own fingerprint. -/
theorem approvedFor?_settle (l : Ledger) (now : Timestamp) (id : RequestId) (r : Request) :
    (l.settle now id r .approve).approvedFor? r.key = some id := by
  refine approvedFor?_eq_some.mpr ⟨?_, status_eq_some.mpr ⟨r.settled now .approve, ?_, rfl⟩⟩
  · rw [claims_settle, if_pos ⟨rfl, rfl⟩]
  · rw [get?_settle, if_pos rfl]

/-- On every ledger, `consume` is `remove` of the `approvedFor?` of the call, if there is one. -/
theorem consume_eq (l : Ledger) (call : ToolCall) :
    l.consume call =
      match l.approvedFor? call.fingerprint with
      | some id => (true, l.remove id)
      | none => (false, l) := by
  unfold consume approvedFor?
  cases l.claims.get? call.fingerprint with
  | none => rfl
  | some id =>
    cases hr : l.requests.get? id with
    | none => simp [status, get?, hr, Option.filter]
    | some r => by_cases hs : r.status = .approved <;> simp [status, get?, hr, hs, Option.filter]

theorem get?_remove (l : Ledger) (id i : RequestId) :
    (l.remove id).get? i = if id = i then none else l.get? i := by
  unfold remove
  cases hr : l.requests.get? id with
  | none =>
    by_cases h : id = i
    · simp [get?, ← h, hr]
    · simp [h]
  | some r => exact Table.get?_erase ..

theorem get?_removeAll (ids : List RequestId) (i : RequestId) :
    ∀ l : Ledger, (ids.foldl remove l).get? i = if i ∈ ids then none else l.get? i := by
  induction ids with
  | nil => intro l; simp
  | cons id rest ih =>
    intro l
    rw [List.foldl_cons, ih, get?_remove]
    by_cases h : i ∈ rest
    · simp [h]
    · by_cases hid : id = i
      · simp [hid]
      · simp [h, hid, Ne.symm hid]

/-! ## The invariant -/

/-- The invariant: `requests` and `claims` are in step. -/
structure Coherent (l : Ledger) : Prop where
  ids_unique : l.requests.HasUniqueKeys
  keys_unique : l.claims.HasUniqueKeys
  /-- A request stands under its own id. -/
  id_eq : ∀ {id r}, l.get? id = some r → r.id = id
  /-- Its `key` is the `fingerprint` of its call. -/
  key_eq : ∀ {id r}, l.get? id = some r → r.key = fingerprint r.tool r.args
  /-- A claim points at a request with that `key`. -/
  claimed : ∀ {key id}, l.claims.get? key = some id → ∃ r, l.get? id = some r ∧ r.key = key
  /-- Only `.pending` requests have no `resolvedAt`. -/
  settled_iff : ∀ {id r}, l.get? id = some r → (r.resolvedAt = none ↔ r.status = .pending)

theorem coherent_empty : Coherent empty where
  ids_unique := Table.hasUniqueKeys_empty
  keys_unique := Table.hasUniqueKeys_empty
  id_eq h := by simp at h
  key_eq h := by simp at h
  claimed h := by simp at h
  settled_iff h := by simp at h

/-- Where a claim points at `r`, it is under `r.key`. -/
theorem Coherent.key_of_claim (h : l.Coherent) {key : String} {id : RequestId} {r : Request}
    (hc : l.claims.get? key = some id) (hr : l.get? id = some r) : r.key = key := by
  obtain ⟨r', hr', hkey⟩ := h.claimed hc
  rw [hr'] at hr
  exact Option.some.inj hr ▸ hkey

theorem claims_remove (h : l.Coherent) (id : RequestId) (key : String) :
    (l.remove id).claims.get? key =
      if l.claims.get? key = some id then none else l.claims.get? key := by
  unfold remove
  cases hr : l.requests.get? id with
  | none =>
    have hnot : l.claims.get? key ≠ some id := by
      intro hc
      obtain ⟨r, hget, _⟩ := h.claimed hc
      exact absurd (hr.symm.trans hget) (by simp)
    simp [hnot]
  | some r =>
    by_cases hown : l.claims.get? r.key = some id
    · simp only [hown, if_true, Table.get?_erase]
      by_cases hkey : r.key = key
      · simp [hkey, hkey ▸ hown]
      · have hnot : l.claims.get? key ≠ some id := fun hc => hkey (h.key_of_claim hc hr)
        simp [hkey, hnot]
    · have hnot : l.claims.get? key ≠ some id := by
        intro hc
        exact hown (h.key_of_claim hc hr ▸ hc)
      simp [hown, hnot]

theorem Coherent.create (h : l.Coherent) {id : RequestId} (hnew : l.get? id = none)
    (now : Timestamp) (call : ToolCall) (reason : String) :
    (l.create id now call reason).Coherent where
  ids_unique := h.ids_unique.put ..
  keys_unique := h.keys_unique.put ..
  id_eq := by
    intro i r hr
    rw [get?_create] at hr
    split at hr
    · rename_i hid
      exact (Option.some.inj hr) ▸ hid
    · exact h.id_eq hr
  key_eq := by
    intro i r hr
    rw [get?_create] at hr
    split at hr
    · exact (Option.some.inj hr) ▸ rfl
    · exact h.key_eq hr
  claimed := by
    intro key i hc
    rw [claims_create] at hc
    rw [get?_create]
    split at hc
    · rename_i hkey
      exact ⟨.raised id now call reason, by simp [Option.some.inj hc], hkey⟩
    · obtain ⟨r, hr, hkey⟩ := h.claimed hc
      have hne : id ≠ i := by
        rintro rfl
        simp [hnew] at hr
      exact ⟨r, by simp [hne, hr], hkey⟩
  settled_iff := by
    intro i r hr
    rw [get?_create] at hr
    split at hr
    · cases hr
      simp [Request.raised]
    · exact h.settled_iff hr

theorem Coherent.settle (h : l.Coherent) {id : RequestId} {r : Request} (hr : l.get? id = some r)
    (now : Timestamp) (verdict : Verdict) : (l.settle now id r verdict).Coherent where
  ids_unique := h.ids_unique.put ..
  keys_unique := by
    unfold Ledger.settle
    split
    · exact h.keys_unique.put ..
    · exact h.keys_unique
  id_eq := by
    intro i r' hr'
    rw [get?_settle] at hr'
    split at hr'
    · rename_i hid
      have hown : r.id = id := h.id_eq hr
      cases hr'
      exact hown.trans hid
    · exact h.id_eq hr'
  key_eq := by
    intro i r' hr'
    have hkey : r.key = fingerprint r.tool r.args := h.key_eq hr
    rw [get?_settle] at hr'
    split at hr'
    · cases hr'
      exact hkey
    · exact h.key_eq hr'
  claimed := by
    intro key i hc
    rw [claims_settle] at hc
    rw [get?_settle]
    by_cases hid : id = i
    · -- the settled request keeps its fingerprint, whether or not the claim is a new one
      have hkey : r.key = key := by
        split at hc
        · rename_i hv
          exact hv.2
        · exact h.key_of_claim hc (hid ▸ hr)
      exact ⟨r.settled now verdict, by simp [hid], hkey⟩
    · split at hc
      · exact absurd (Option.some.inj hc) hid
      · simpa [hid] using h.claimed hc
  settled_iff := by
    intro i r' hr'
    rw [get?_settle] at hr'
    split at hr'
    · cases hr'
      simp [Request.settled]
    · exact h.settled_iff hr'

theorem Coherent.remove (h : l.Coherent) (id : RequestId) : (l.remove id).Coherent := by
  have found : ∀ {i r}, (l.remove id).get? i = some r → l.get? i = some r := by
    intro i r hr
    rw [get?_remove] at hr
    split at hr
    · simp at hr
    · exact hr
  refine ⟨?_, ?_, fun hr => h.id_eq (found hr), fun hr => h.key_eq (found hr), ?_,
    fun hr => h.settled_iff (found hr)⟩
  · unfold Ledger.remove
    split
    · exact h.ids_unique
    · exact h.ids_unique.erase id
  · unfold Ledger.remove
    split
    · exact h.keys_unique
    · split
      · exact h.keys_unique.erase _
      · exact h.keys_unique
  · intro key i hc
    rw [claims_remove h] at hc
    split at hc
    · simp at hc
    · rename_i hne
      obtain ⟨r, hr, hkey⟩ := h.claimed hc
      have hid : id ≠ i := by
        rintro rfl
        exact hne hc
      exact ⟨r, by simp [get?_remove, hid, hr], hkey⟩

theorem Coherent.removeAll (ids : List RequestId) :
    ∀ {l : Ledger}, l.Coherent → (ids.foldl Ledger.remove l).Coherent := by
  induction ids with
  | nil => exact fun h => h
  | cons id rest ih => exact fun h => ih (h.remove id)

theorem claims_removeAll (ids : List RequestId) (key : String) :
    ∀ {l : Ledger}, l.Coherent →
      (ids.foldl remove l).claims.get? key = (l.claims.get? key).filter fun id => id ∉ ids := by
  induction ids with
  | nil =>
    intro l _
    cases hc : l.claims.get? key <;> simp [Option.filter, hc]
  | cons id rest ih =>
    intro l h
    rw [List.foldl_cons, ih (h.remove id), claims_remove h]
    cases hc : l.claims.get? key with
    | none => simp
    | some i =>
      by_cases hi : i = id <;> by_cases hrest : i ∈ rest <;> simp [hi, hrest, Option.filter]

/-! ## Sweeping -/

theorem Coherent.mem_expired (h : l.Coherent) {policy : ExpiryPolicy} {now : Timestamp}
    {id : RequestId} :
    id ∈ l.expired policy now ↔ ∃ r, l.get? id = some r ∧ policy.isOver now r = true := by
  simp only [expired, List.mem_map, List.mem_filter, Table.mem_values h.ids_unique]
  constructor
  · rintro ⟨r, ⟨⟨i, hr⟩, hover⟩, rfl⟩
    have hid : r.id = i := h.id_eq hr
    exact ⟨r, hid ▸ hr, hover⟩
  · rintro ⟨r, hr, hover⟩
    exact ⟨r, ⟨⟨id, hr⟩, hover⟩, h.id_eq hr⟩

/-- A sweep keeps the requests that are not `isOver`, as they are. -/
theorem Coherent.get?_sweep (h : l.Coherent) (policy : ExpiryPolicy) (now : Timestamp)
    (id : RequestId) :
    (l.sweep policy now).2.get? id = (l.get? id).filter fun r => !policy.isOver now r := by
  rw [sweep, get?_removeAll]
  cases hr : l.get? id with
  | none => simp
  | some r =>
    cases hover : policy.isOver now r with
    | true => simp [h.mem_expired, hr, hover, Option.filter]
    | false => simp [h.mem_expired, hr, hover, Option.filter]

/-- A sweep keeps the claims of requests that are not `expired`. -/
theorem Coherent.claims_sweep (h : l.Coherent) (policy : ExpiryPolicy) (now : Timestamp)
    (key : String) :
    (l.sweep policy now).2.claims.get? key =
      (l.claims.get? key).filter fun id => id ∉ l.expired policy now :=
  claims_removeAll _ key h

/-! ## Runs -/

/-- One step on a ledger, with its time and its new id as arguments. -/
inductive Op where
  | create (id : RequestId) (now : Timestamp) (call : ToolCall) (reason : String)
  | resolve (now : Timestamp) (id : RequestId) (verdict : Verdict)
  | consume (call : ToolCall)
  | sweep (policy : ExpiryPolicy) (now : Timestamp)

/-- The ledger after an `Op`. -/
def after (l : Ledger) : Op → Ledger
  | .create id now call reason => l.create id now call reason
  | .resolve now id verdict => (l.resolve now id verdict).2
  | .consume call => (l.consume call).2
  | .sweep policy now => (l.sweep policy now).2

/-- The id of a `create` is not in use. -/
def Op.IsFresh (l : Ledger) : Op → Prop
  | .create id _ _ _ => l.get? id = none
  | _ => True

/-- Ledgers that steps with `IsFresh` ids lead to from `empty`. -/
inductive Reachable : Ledger → Prop where
  | empty : Reachable empty
  | step {l : Ledger} (h : Reachable l) (op : Op) (hnew : op.IsFresh l) : Reachable (l.after op)

/-- What an `Op` can do to the request under `id`: leave it, `create` it, settle it while it is
pending, `consume` it as the `approvedFor?` of the call, or sweep it because it `isOver`. -/
theorem Coherent.get?_after_cases (h : l.Coherent) (op : Op) (id : RequestId) :
    (l.after op).get? id = l.get? id ∨
      (∃ now call reason, op = .create id now call reason ∧
        (l.after op).get? id = some (.raised id now call reason)) ∨
      (∃ now verdict r, op = .resolve now id verdict ∧ l.get? id = some r ∧ r.status = .pending ∧
        (l.after op).get? id = some (r.settled now verdict)) ∨
      (∃ call, op = .consume call ∧ l.approvedFor? call.fingerprint = some id ∧
        (l.after op).get? id = none) ∨
      ∃ policy now r, op = .sweep policy now ∧ l.get? id = some r ∧ policy.isOver now r = true ∧
        (l.after op).get? id = none := by
  cases op with
  | create i now call reason =>
    simp only [Ledger.after, get?_create]
    by_cases hid : i = id
    · exact .inr (.inl ⟨now, call, reason, by rw [hid], by rw [if_pos hid, hid]⟩)
    · exact .inl (if_neg hid)
  | resolve now i verdict =>
    simp only [Ledger.after]
    obtain ⟨-, heq⟩ | ⟨r, hr, hpending, heq⟩ := l.resolve_cases now i verdict
    · exact .inl (by rw [heq])
    · rw [heq, get?_settle]
      by_cases hid : i = id
      · subst hid
        exact .inr (.inr (.inl ⟨now, verdict, r, rfl, hr, hpending, if_pos rfl⟩))
      · exact .inl (if_neg hid)
  | consume call =>
    simp only [Ledger.after, consume_eq]
    cases hfor : l.approvedFor? call.fingerprint with
    | none => exact .inl rfl
    | some i =>
      simp only [get?_remove]
      by_cases hid : i = id
      · exact .inr (.inr (.inr (.inl ⟨call, rfl, by rw [hfor, hid], if_pos hid⟩)))
      · exact .inl (if_neg hid)
  | sweep policy now =>
    simp only [Ledger.after, h.get?_sweep]
    cases hr : l.get? id with
    | none => exact .inl rfl
    | some r =>
      cases hover : policy.isOver now r with
      | true => exact .inr (.inr (.inr (.inr ⟨policy, now, r, rfl, rfl, hover, by simp [hover]⟩)))
      | false => exact .inl (by simp [hover])

/-- Every `Op` with an `IsFresh` id keeps `Coherent`. -/
theorem Coherent.after (h : l.Coherent) {op : Op} (hnew : op.IsFresh l) :
    (l.after op).Coherent := by
  cases op with
  | create id now call reason => exact h.create hnew now call reason
  | resolve now id verdict =>
    simp only [Ledger.after]
    obtain ⟨-, heq⟩ | ⟨r, hr, -, heq⟩ := l.resolve_cases now id verdict
    · rw [heq]; exact h
    · rw [heq]; exact h.settle hr now verdict
  | consume call =>
    simp only [Ledger.after, consume_eq]
    split
    · exact h.remove _
    · exact h
  | sweep policy now => exact h.removeAll _

theorem coherent_of_reachable (h : l.Reachable) : l.Coherent := by
  induction h with
  | empty => exact coherent_empty
  | step _ _ hnew ih => exact ih.after hnew

/-- Every `Reachable` ledger is `Coherent`; no request has two claims, no claim dangles, and no
settled request lacks its `resolvedAt`. -/
theorem tables_in_step_of_reachable (h : l.Reachable) :
    l.Coherent ∧
      (∀ key key' id, l.claims.get? key = some id → l.claims.get? key' = some id → key = key') ∧
      (∀ (call : ToolCall) id, l.claims.get? call.fingerprint = some id → l.get? id ≠ none) ∧
      ∀ r ∈ l.requests.values, r.status ≠ .pending → r.resolvedAt ≠ none := by
  have hl : l.Coherent := coherent_of_reachable h
  refine ⟨hl, ?_, ?_, ?_⟩
  · intro key key' id hc hc'
    obtain ⟨r, hr, hkey⟩ := hl.claimed hc
    exact hkey.symm.trans (hl.key_of_claim hc' hr)
  · intro call id hc
    obtain ⟨r, hr, -⟩ := hl.claimed hc
    simp [hr]
  · intro r hr hsettled hnone
    obtain ⟨id, hget⟩ := (Table.mem_values hl.ids_unique).mp hr
    exact hsettled ((hl.settled_iff hget).mp hnone)

/-- Two requests for one call; approving the older one moves the claim to it. -/
theorem tables_in_step_after_takeover :
    let call : ToolCall := ⟨"exec", []⟩
    let l := (((empty.create ⟨1⟩ ⟨0⟩ call "ask").create ⟨2⟩ ⟨5⟩ call "ask").resolve
      ⟨9⟩ ⟨1⟩ .approve).2
    l.Reachable ∧ l.Coherent ∧ l.claims.get? call.fingerprint = some ⟨1⟩ ∧ l.get? ⟨1⟩ ≠ none := by
  intro call l
  have h : l.Reachable :=
    .step (.step (.step .empty (.create ⟨1⟩ ⟨0⟩ call "ask") rfl) (.create ⟨2⟩ ⟨5⟩ call "ask") rfl)
      (.resolve ⟨9⟩ ⟨1⟩ .approve) trivial
  have hc : l.claims.get? call.fingerprint = some ⟨1⟩ := by
    obtain ⟨hs, -⟩ | ⟨r, hr, -, heq⟩ :=
      ((empty.create ⟨1⟩ ⟨0⟩ call "ask").create ⟨2⟩ ⟨5⟩ call "ask").resolve_cases ⟨9⟩ ⟨1⟩ .approve
    · exact absurd rfl hs
    · cases hr
      simp only [l, heq, claims_settle]
      simp
  have hsound := tables_in_step_of_reachable h
  exact ⟨h, hsound.1, hc, hsound.2.2.1 call ⟨1⟩ hc⟩

end Ledger

end ToolGate.Approval

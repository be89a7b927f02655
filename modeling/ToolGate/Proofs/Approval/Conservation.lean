/-
Every request that is raised is accounted for.

A request is in the ledger from the step that raises it on, until an approval is used up or a sweep
takes it out, and no step takes out a request that another one has taken out.

* `takenBy` — the ids that one step takes out, read off the ledgers before and after it;
  `reported` — how many a step says it took out. `length_takenBy`: the two agree.
* `created`, `removed` — the ids that a run gives out, and those that its steps take out.
* `created_perm` — the books balance: what was created is what was removed and what is there.
* `requests_accounted_for` — what that says of sizes and counts, and of the ids one by one.
-/
import Mathlib
import ToolGate.Proofs.Approval.Run

namespace ToolGate.Approval.Ledger

variable {l : Ledger}

/-! ## One step -/

/-- The ids that are in `l` and no longer after `op`. -/
def takenBy (l : Ledger) (op : Op) : List RequestId :=
  l.requests.keys.filter fun id => (l.after op).get? id = none

/-- A `consume` that succeeds. -/
def usesUp (l : Ledger) : Op → Bool
  | .consume call => (l.consume call).1
  | _ => false

/-- The count that a `sweep` gives back. -/
def sweptBy (l : Ledger) : Op → Nat
  | .sweep policy now => (l.sweep policy now).1
  | _ => 0

/-- How many requests the step says that it took out. -/
def reported (l : Ledger) (op : Op) : Nat := (if l.usesUp op then 1 else 0) + l.sweptBy op

theorem mem_keys {id : RequestId} : id ∈ l.requests.keys ↔ l.get? id ≠ none := Table.mem_keys

theorem mem_takenBy {op : Op} {id : RequestId} :
    id ∈ l.takenBy op ↔ l.get? id ≠ none ∧ (l.after op).get? id = none := by
  simp [takenBy, mem_keys]

theorem Coherent.nodup_takenBy (h : l.Coherent) (op : Op) : (l.takenBy op).Nodup :=
  List.Nodup.filter _ h.ids_unique

/-- Only a `consume` or a `sweep` takes requests out. -/
theorem Coherent.removes_of_taken (h : l.Coherent) {op : Op} {id : RequestId}
    (hmem : id ∈ l.takenBy op) :
    (∃ call, op = .consume call) ∨ ∃ policy now, op = .sweep policy now := by
  obtain ⟨hthere, hgone⟩ := mem_takenBy.mp hmem
  rcases h.get?_after_cases op id with hsame | ⟨now, call, reason, -, hget⟩ |
    ⟨now, verdict, r, -, -, -, hget⟩ | ⟨call, rfl, -⟩ | ⟨policy, now, r, rfl, -⟩
  · exact absurd (hsame ▸ hgone) hthere
  · simp [hget] at hgone
  · simp [hget] at hgone
  · exact .inl ⟨call, rfl⟩
  · exact .inr ⟨policy, now, rfl⟩

/-- A `sweep` takes out what is `expired`. -/
theorem Coherent.takenBy_sweep (h : l.Coherent) (policy : ExpiryPolicy) (now : Timestamp) :
    (l.takenBy (.sweep policy now)).Perm (l.expired policy now) := by
  have hexpired : (l.expired policy now).Nodup := by
    -- the requests stand in the table under their own ids
    have hids : l.requests.values.map (·.id) = l.requests.keys := by
      simp only [Table.values, Table.keys, List.map_map]
      refine List.map_congr_left fun e he => ?_
      exact h.id_eq (Table.find_of_mem h.ids_unique he)
    exact List.Nodup.sublist (List.filter_sublist.map _) (hids ▸ h.ids_unique)
  rw [List.perm_ext_iff_of_nodup (h.nodup_takenBy _) hexpired]
  intro id
  simp only [mem_takenBy, Ledger.after, h.get?_sweep, h.mem_expired]
  cases hr : l.get? id with
  | none => simp
  | some r => simp [Option.filter]

/-- A `consume` takes out the `approvedFor?` of the call. -/
theorem Coherent.takenBy_consume (h : l.Coherent) (call : ToolCall) :
    (l.takenBy (.consume call)).Perm (l.approvedFor? call.fingerprint).toList := by
  have hone : (l.approvedFor? call.fingerprint).toList.Nodup := by
    cases l.approvedFor? call.fingerprint <;> simp
  rw [List.perm_ext_iff_of_nodup (h.nodup_takenBy _) hone]
  intro id
  simp only [mem_takenBy, Ledger.after, consume_eq]
  cases hfor : l.approvedFor? call.fingerprint with
  | none => simp
  | some i =>
    have hthere : l.get? i ≠ none := by
      obtain ⟨r, hr, -⟩ := status_eq_some.mp (approvedFor?_eq_some.mp hfor).2
      simp [hr]
    simp only [get?_remove, Option.toList_some, List.mem_singleton]
    by_cases hid : i = id
    · simp [← hid, hthere]
    · simp [hid, Ne.symm hid]

/-- The step report is right: `takenBy` has `reported` elements. -/
theorem Coherent.length_takenBy (h : l.Coherent) (op : Op) :
    (l.takenBy op).length = l.reported op := by
  have hnone : (∀ call, op ≠ .consume call) → (∀ policy now, op ≠ .sweep policy now) →
      l.takenBy op = [] := by
    intro hconsume hsweep
    refine List.eq_nil_iff_forall_not_mem.mpr fun id hmem => ?_
    obtain ⟨call, rfl⟩ | ⟨policy, now, rfl⟩ := h.removes_of_taken hmem
    · exact hconsume call rfl
    · exact hsweep policy now rfl
  cases op with
  | create id now call reason => simp [hnone, reported, usesUp, sweptBy]
  | resolve now id verdict => simp [hnone, reported, usesUp, sweptBy]
  | consume call =>
    rw [(h.takenBy_consume call).length_eq]
    simp only [reported, usesUp, sweptBy, consume_eq]
    cases l.approvedFor? call.fingerprint <;> simp
  | sweep policy now =>
    rw [(h.takenBy_sweep policy now).length_eq]
    simp [reported, usesUp, sweptBy, sweep]

/-- Step lemma: old ids and `newId?` are `takenBy` and the ids afterwards. -/
theorem Coherent.keys_perm (h : l.Coherent) {op : Op} (hnew : op.IsFresh l) :
    (l.requests.keys ++ op.newId?.toList).Perm (l.takenBy op ++ (l.after op).requests.keys) := by
  have hbefore : (l.requests.keys ++ op.newId?.toList).Nodup := by
    refine List.Nodup.append h.ids_unique (by cases op.newId? <;> simp) ?_
    intro id hmem hid
    cases op with
    | create i now call reason =>
      obtain rfl : id = i := by simpa [Op.newId?] using hid
      exact mem_keys.mp hmem hnew
    | _ => simp [Op.newId?] at hid
  have hafter : (l.takenBy op ++ (l.after op).requests.keys).Nodup := by
    refine List.Nodup.append (h.nodup_takenBy op) (h.after hnew).ids_unique ?_
    intro id htaken hleft
    exact mem_keys.mp hleft (mem_takenBy.mp htaken).2
  rw [List.perm_ext_iff_of_nodup hbefore hafter]
  intro id
  simp only [List.mem_append, mem_takenBy, mem_keys, Option.mem_toList]
  constructor
  · rintro (hthere | hid)
    · by_cases hgone : (l.after op).get? id = none
      · exact .inl ⟨hthere, hgone⟩
      · exact .inr hgone
    · cases op with
      | create i now call reason =>
        right
        cases hid
        simp [Ledger.after, get?_create]
      | _ => cases hid
  · rintro (⟨hthere, -⟩ | hleft)
    · exact .inl hthere
    · rcases h.get?_after_cases op id with hsame | ⟨now, call, reason, rfl, -⟩ |
        ⟨now, verdict, r, -, hr, -⟩ | ⟨call, -, -, hget⟩ | ⟨policy, now, r, -, -, -, hget⟩
      · exact .inl (hsame ▸ hleft)
      · exact .inr rfl
      · exact .inl (by simp [hr])
      · exact absurd hget hleft
      · exact absurd hget hleft

/-- Counted: the sizes differ by `newId?` and by what is `reported`. -/
theorem Coherent.size_after (h : l.Coherent) {op : Op} (hnew : op.IsFresh l) :
    l.size + op.newId?.toList.length = l.reported op + (l.after op).size := by
  have hlength := (h.keys_perm hnew).length_eq
  rw [List.length_append, List.length_append, h.length_takenBy] at hlength
  simpa [size, Table.size, Table.keys] using hlength

/-! ## Runs -/

/-- Every step of a run, with the ledger that it meets. -/
def steps (l : Ledger) : List Op → List (Ledger × Op)
  | [] => []
  | op :: rest => (l, op) :: (l.after op).steps rest

theorem steps_snoc (ops : List Op) (op : Op) :
    ∀ l : Ledger, l.steps (ops ++ [op]) = l.steps ops ++ [(l.run ops, op)] := by
  induction ops with
  | nil => exact fun _ => rfl
  | cons first rest ih => exact fun l => congrArg _ (ih (l.after first))

/-- The `newId?`s of a run. -/
def created (ops : List Op) : List RequestId := ops.filterMap Op.newId?

theorem created_snoc (ops : List Op) (op : Op) :
    created (ops ++ [op]) = created ops ++ op.newId?.toList := by
  unfold created
  cases h : op.newId? <;> simp [h]

/-- What the steps of a run from `empty` have `takenBy` them, in their order. -/
def removed (ops : List Op) : List RequestId := (empty.steps ops).flatMap fun s => s.1.takenBy s.2

theorem removed_snoc (ops : List Op) (op : Op) :
    removed (ops ++ [op]) = removed ops ++ (empty.run ops).takenBy op := by
  simp [removed, steps_snoc]

/-- How many steps of a run from `empty` have `usesUp`. -/
def usedUp (ops : List Op) : Nat := (empty.steps ops).countP fun s => s.1.usesUp s.2

/-- The sum of `sweptBy` over a run from `empty`. -/
def swept (ops : List Op) : Nat := ((empty.steps ops).map fun s => s.1.sweptBy s.2).sum

/-- Run lemma: what was `created` was `removed` or is still there. -/
theorem created_perm {ops : List Op} (hfresh : FreshIds ops) :
    (created ops).Perm (removed ops ++ (empty.run ops).requests.keys) := by
  induction ops using List.reverseRecOn with
  | nil => exact .nil
  | append_singleton ops op ih =>
    have hearlier : FreshIds ops := hfresh.sublist (List.sublist_append_left _ _)
    have hb : Backed ops := backed_run hearlier
    have hstep := hb.coherent.keys_perm (hb.isFresh hfresh)
    rw [created_snoc, removed_snoc, run_snoc, List.append_assoc]
    calc created ops ++ op.newId?.toList
      _ |>.Perm ((removed ops ++ (empty.run ops).requests.keys) ++ op.newId?.toList) :=
          (ih hearlier).append_right _
      _ |>.Perm (removed ops ++ ((empty.run ops).takenBy op ++
            ((empty.run ops).after op).requests.keys)) := by
          rw [List.append_assoc]
          exact hstep.append_left _

/-- The run's `removed` ids number `usedUp + swept`. -/
theorem length_removed {ops : List Op} (hfresh : FreshIds ops) :
    (removed ops).length = usedUp ops + swept ops := by
  induction ops using List.reverseRecOn with
  | nil => rfl
  | append_singleton ops op ih =>
    have hearlier : FreshIds ops := hfresh.sublist (List.sublist_append_left _ _)
    have hstep := (backed_run hearlier).coherent.length_takenBy op
    have hused : usedUp (ops ++ [op]) =
        usedUp ops + if (empty.run ops).usesUp op then 1 else 0 := by
      simp [usedUp, steps_snoc, List.countP_singleton]
    have hswept : swept (ops ++ [op]) = swept ops + (empty.run ops).sweptBy op := by
      simp [swept, steps_snoc]
    rw [removed_snoc, List.length_append, ih hearlier, hstep, hused, hswept, reported]
    omega

/-- After any run from `empty` with `FreshIds`, the `size` is `created − usedUp − swept`. No id is
`removed` twice; only a `consume` or a `sweep` takes one out, and after its `create`; what was not
`removed` is there. -/
theorem requests_accounted_for {ops : List Op} (hfresh : FreshIds ops) :
    ((empty.run ops).size : Int) = (created ops).length - usedUp ops - swept ops ∧
      (removed ops).Nodup ∧
      (∀ before op later, ops = before ++ op :: later → ∀ id ∈ (empty.run before).takenBy op,
        id ∈ created before ∧
          ((∃ call, op = .consume call) ∨ ∃ policy now, op = .sweep policy now)) ∧
      ∀ id, (empty.run ops).get? id ≠ none ↔ id ∈ created ops ∧ id ∉ removed ops := by
  have hperm := created_perm hfresh
  have hnodup : (removed ops ++ (empty.run ops).requests.keys).Nodup := hperm.nodup_iff.mp hfresh
  refine ⟨?_, hnodup.of_append_left, ?_, ?_⟩
  · have hlength := hperm.length_eq
    rw [List.length_append, length_removed hfresh] at hlength
    have hsize : (empty.run ops).size = (empty.run ops).requests.keys.length := by
      simp [size, Table.size, Table.keys]
    omega
  · rintro before op later rfl id hmem
    have hearlier : FreshIds before := hfresh.sublist (List.sublist_append_left _ _)
    refine ⟨?_, (backed_run hearlier).coherent.removes_of_taken hmem⟩
    have hthere := mem_keys.mpr (mem_takenBy.mp hmem).1
    exact (created_perm hearlier).mem_iff.mpr (List.mem_append_right _ hthere)
  · intro id
    rw [← mem_keys, hperm.mem_iff, List.mem_append]
    constructor
    · intro hthere
      exact ⟨.inr hthere, fun hgone => List.disjoint_of_nodup_append hnodup hgone hthere⟩
    · rintro ⟨hgone | hthere, hnot⟩
      · exact absurd hgone hnot
      · exact hthere

/-- Three requests for one call: one used up, one swept, one left. -/
theorem requests_accounted_for_after_takeover :
    let call : ToolCall := ⟨"exec", []⟩
    let ops : List Op := [.create ⟨1⟩ ⟨0⟩ call "ask", .create ⟨2⟩ ⟨5⟩ call "ask",
      .create ⟨3⟩ ⟨8⟩ call "ask", .resolve ⟨9⟩ ⟨1⟩ .approve, .consume call, .sweep ⟨3, true⟩ ⟨10⟩]
    FreshIds ops ∧ usedUp ops = 1 ∧ swept ops = 1 ∧ removed ops = [⟨1⟩, ⟨2⟩] ∧
      (empty.run ops).size = 1 ∧ (empty.run ops).get? ⟨3⟩ ≠ none := by
  intro call ops
  have hfresh : FreshIds ops := by decide
  obtain ⟨hsize, -, -, hthere⟩ := requests_accounted_for hfresh
  have hused : usedUp ops = 1 := by decide +kernel
  have hswept : swept ops = 1 := by decide +kernel
  have hremoved : removed ops = [⟨1⟩, ⟨2⟩] := by decide +kernel
  refine ⟨hfresh, hused, hswept, hremoved, ?_, ?_⟩
  · have hcreated : (created ops).length = 3 := by decide +kernel
    rw [hused, hswept, hcreated] at hsize
    omega
  · rw [hthere, hremoved]
    decide

end ToolGate.Approval.Ledger

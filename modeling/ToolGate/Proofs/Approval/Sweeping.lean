/-
A sweep takes out what is too old, and nothing else.

The requests that have outlived a policy are removed one after another, and each takes the claim to
its fingerprint along if the claim is its own. That comes to one look through both tables, so
neither the order in which they are removed counts nor how the sweeps are spread over time.

* `TooOld` — a request has outlived a policy, said of its times. `isOver_iff`.
* `without` — a ledger less some ids, in both tables at once. `Coherent.removeAll_eq`: so it is left
  when they are removed one after another, in any order.
* `Coherent.mem_expired_sweep` — of those that a later sweep would take, an earlier one leaves the
  ones that it does not take itself.
* `sweep_is_exact` — what a sweep takes, leaves and counts; two in a row are the later one alone.
-/
import Mathlib
import ToolGate.Proofs.Approval.Conservation

namespace ToolGate.Approval

/-! ## Requests that are too old -/

/-- The meaning of `isOver`: pending for longer than `lifetime`, or settled for longer if
`expireResolved` is set. -/
def TooOld (policy : ExpiryPolicy) (now : Timestamp) (r : Request) : Prop :=
  (r.status = .pending ∧ policy.lifetime < now.since r.createdAt) ∨
    (r.status ≠ .pending ∧ policy.expireResolved = true ∧
      ∃ t, r.resolvedAt = some t ∧ policy.lifetime < now.since t)

theorem isOver_iff {policy : ExpiryPolicy} {now : Timestamp} {r : Request} :
    policy.isOver now r = true ↔ TooOld policy now r := by
  cases hs : r.status <;> cases hr : r.resolvedAt <;>
    simp [ExpiryPolicy.isOver, TooOld, hs, hr]

/-- What is `TooOld` stays so. -/
theorem TooOld.later {policy : ExpiryPolicy} {now later : Timestamp}
    (hle : now.millis ≤ later.millis) {r : Request} (h : TooOld policy now r) :
    TooOld policy later r := by
  have hsince : ∀ t : Timestamp, now.since t ≤ later.since t := fun t => Int.sub_le_sub_right hle _
  rcases h with ⟨hpending, hold⟩ | ⟨hsettled, hexpires, t, ht, hold⟩
  · exact .inl ⟨hpending, hold.trans_le (hsince _)⟩
  · exact .inr ⟨hsettled, hexpires, t, ht, hold.trans_le (hsince t)⟩

namespace Ledger

variable {l : Ledger}

/-! ## Taking out many at once -/

/-- Both tables less the entries of `ids`, in one look. -/
def without (l : Ledger) (ids : List RequestId) : Ledger :=
  ⟨⟨l.requests.entries.filter fun e => e.1 ∉ ids⟩, ⟨l.claims.entries.filter fun e => e.2 ∉ ids⟩⟩

theorem without_nil (l : Ledger) : l.without [] = l := by simp [without]

theorem without_append (l : Ledger) (ids ids' : List RequestId) :
    l.without (ids ++ ids') = (l.without ids).without ids' := by
  simp only [without, List.filter_filter, List.mem_append, not_or, Bool.decide_and, Bool.and_comm]

theorem without_congr {ids ids' : List RequestId} (h : ∀ id, id ∈ ids ↔ id ∈ ids') :
    l.without ids = l.without ids' := by
  simp only [without, h]

/-- Each entry of `claims` is the one that `get?` finds. -/
theorem Coherent.get?_of_mem_claims (h : l.Coherent) {e : String × RequestId}
    (he : e ∈ l.claims.entries) : l.claims.get? e.1 = some e.2 :=
  Table.find_of_mem h.keys_unique he

/-- A request without a claim leaves `claims` as they are. -/
theorem Coherent.filter_claims_of_unclaimed (h : l.Coherent) {id : RequestId}
    (hnot : ∀ key, l.claims.get? key ≠ some id) :
    l.claims.entries.filter (fun e => e.2 ∉ [id]) = l.claims.entries := by
  refine List.filter_eq_self.mpr fun e he => ?_
  have hne : e.2 ≠ id := fun heq => hnot e.1 (heq ▸ h.get?_of_mem_claims he)
  simpa using hne

/-- A request with a claim takes one entry of `claims` along. -/
theorem Coherent.erase_claim_eq (h : l.Coherent) {id : RequestId} {r : Request}
    (hr : l.get? id = some r) (hown : l.claims.get? r.key = some id) :
    l.claims.erase r.key = ⟨l.claims.entries.filter fun e => e.2 ∉ [id]⟩ := by
  refine congrArg Table.mk (List.filter_congr fun e he => ?_)
  have hfound := h.get?_of_mem_claims he
  have hiff : e.1 = r.key ↔ e.2 = id := by
    constructor
    · intro hkey
      rw [hkey, hown, Option.some.injEq] at hfound
      exact hfound.symm
    · intro hid
      exact (h.key_of_claim (hid ▸ hfound) hr).symm
  simp [hiff]

/-- On `Coherent` ledgers, `remove` is `without` one id. -/
theorem Coherent.remove_eq (h : l.Coherent) (id : RequestId) : l.remove id = l.without [id] := by
  unfold Ledger.remove without
  cases hr : l.requests.get? id with
  | none =>
    have hrequests : l.requests.entries.filter (fun e => e.1 ∉ [id]) = l.requests.entries := by
      refine List.filter_eq_self.mpr fun e he => ?_
      have hne : e.1 ≠ id := by
        rintro rfl
        simp [Table.find_of_mem h.ids_unique he, Table.get?] at hr
      simpa using hne
    have hnot : ∀ key, l.claims.get? key ≠ some id := by
      intro key hc
      obtain ⟨r, hget, -⟩ := h.claimed hc
      exact absurd (hr.symm.trans hget) (by simp)
    rw [hrequests, h.filter_claims_of_unclaimed hnot]
  | some r =>
    have hrequests : l.requests.erase id =
        ⟨l.requests.entries.filter fun e => e.1 ∉ [id]⟩ := by simp [Table.erase]
    by_cases hown : l.claims.get? r.key = some id
    · simp only [if_pos hown, hrequests, h.erase_claim_eq hr hown]
    · -- another request speaks for the fingerprint, or none does
      have hnot : ∀ key, l.claims.get? key ≠ some id := fun key hc =>
        hown (h.key_of_claim hc hr ▸ hc)
      simp only [if_neg hown, hrequests, h.filter_claims_of_unclaimed hnot]

/-- Any sequence of `remove`s is one `without`; the order is gone. -/
theorem Coherent.removeAll_eq (h : l.Coherent) (ids : List RequestId) :
    ids.foldl Ledger.remove l = l.without ids := by
  induction ids generalizing l with
  | nil => exact (without_nil l).symm
  | cons id rest ih =>
    rw [List.foldl_cons, ih (h.remove id), h.remove_eq, ← without_append, List.singleton_append]

/-! ## Sweeps -/

section

variable {policy : ExpiryPolicy} {now later : Timestamp}

theorem Coherent.sweep_snd (h : l.Coherent) (policy : ExpiryPolicy) (now : Timestamp) :
    (l.sweep policy now).2 = l.without (l.expired policy now) :=
  h.removeAll_eq _

theorem Coherent.sweep (h : l.Coherent) (policy : ExpiryPolicy) (now : Timestamp) :
    (l.sweep policy now).2.Coherent := .removeAll _ h

theorem Coherent.mem_expired_iff (h : l.Coherent) {id : RequestId} :
    id ∈ l.expired policy now ↔ ∃ r, l.get? id = some r ∧ TooOld policy now r := by
  simp only [h.mem_expired, isOver_iff]

theorem Coherent.get?_sweep_eq_some (h : l.Coherent) {id : RequestId} {r : Request} :
    (l.sweep policy now).2.get? id = some r ↔ l.get? id = some r ∧ ¬ TooOld policy now r := by
  rw [h.get?_sweep, Option.filter_eq_some_iff, Bool.not_eq_true', Bool.eq_false_iff,
    ne_eq, isOver_iff]

theorem Coherent.get?_sweep_eq_none (h : l.Coherent) {id : RequestId} {r : Request}
    (hr : l.get? id = some r) :
    (l.sweep policy now).2.get? id = none ↔ TooOld policy now r := by
  rw [h.get?_sweep, hr, ← isOver_iff, Option.filter_some]
  cases policy.isOver now r <;> simp

/-- A claim survives a sweep just if its request does. -/
theorem Coherent.claims_sweep_eq_some (h : l.Coherent) {key : String} {id : RequestId} :
    (l.sweep policy now).2.claims.get? key = some id ↔
      l.claims.get? key = some id ∧ (l.sweep policy now).2.get? id ≠ none := by
  rw [h.claims_sweep, Option.filter_eq_some_iff, decide_eq_true_eq, h.mem_expired_iff]
  refine and_congr_right fun hc => ?_
  obtain ⟨r, hr, -⟩ := h.claimed hc
  simp [Option.ne_none_iff_exists', h.get?_sweep_eq_some, hr]

/-- Of what a later sweep has `expired`, an earlier one leaves it the rest. -/
theorem Coherent.mem_expired_sweep (h : l.Coherent) (hle : now.millis ≤ later.millis)
    {id : RequestId} :
    id ∈ l.expired policy now ++ (l.sweep policy now).2.expired policy later ↔
      id ∈ l.expired policy later := by
  rw [List.mem_append, h.mem_expired_iff, (h.sweep policy now).mem_expired_iff, h.mem_expired_iff]
  simp only [h.get?_sweep_eq_some]
  constructor
  · rintro (⟨r, hr, hold⟩ | ⟨r, ⟨hr, -⟩, hold⟩)
    · exact ⟨r, hr, hold.later hle⟩
    · exact ⟨r, hr, hold⟩
  · rintro ⟨r, hr, hold⟩
    by_cases hnow : TooOld policy now r
    · exact .inl ⟨r, hr, hnow⟩
    · exact .inr ⟨r, ⟨hr, hnow⟩, hold⟩

/-- A sweep before a later `sweep` makes no difference to the ledger. -/
theorem Coherent.sweep_sweep (h : l.Coherent) (policy : ExpiryPolicy)
    (hle : now.millis ≤ later.millis) :
    ((l.sweep policy now).2.sweep policy later).2 = (l.sweep policy later).2 := by
  calc ((l.sweep policy now).2.sweep policy later).2
    _ = (l.sweep policy now).2.without ((l.sweep policy now).2.expired policy later) :=
        (h.sweep policy now).sweep_snd policy later
    _ = l.without (l.expired policy now ++ (l.sweep policy now).2.expired policy later) := by
        rw [without_append, ← h.sweep_snd policy now]
    _ = l.without (l.expired policy later) := without_congr fun id => h.mem_expired_sweep hle
    _ = (l.sweep policy later).2 := (h.sweep_snd policy later).symm

/-- The count of a sweep is the loss in `size`. -/
theorem Coherent.size_sweep (h : l.Coherent) (policy : ExpiryPolicy) (now : Timestamp) :
    (l.sweep policy now).1 + (l.sweep policy now).2.size = l.size := by
  have hnew : (Op.sweep policy now).IsFresh l := trivial
  have hsize := h.size_after hnew
  simpa [reported, usesUp, sweptBy, Op.newId?, Ledger.after] using hsize.symm

/-- The count of a sweep is the number of requests that are `TooOld`. -/
theorem Coherent.sweep_fst (h : l.Coherent) :
    (l.sweep policy now).1 = {id | ∃ r, l.get? id = some r ∧ TooOld policy now r}.ncard := by
  have hset : {id | ∃ r, l.get? id = some r ∧ TooOld policy now r} =
      ((l.expired policy now).toFinset : Set RequestId) := by
    ext id
    simp [h.mem_expired_iff]
  have hnodup : (l.expired policy now).Nodup :=
    (h.takenBy_sweep policy now).nodup_iff.mp (h.nodup_takenBy _)
  rw [hset, Set.ncard_coe_finset, List.toFinset_card_of_nodup hnodup]
  rfl

end

/-- On `Reachable` ledgers, `sweep` removes and counts exactly what is `TooOld`, keeps exactly the
claims of the rest, and does not depend on the order of removal. Two sweeps add up to the later one,
so that `sweep` is idempotent. -/
theorem sweep_is_exact (h : l.Reachable) (policy : ExpiryPolicy) (now : Timestamp) :
    (∀ id r, (l.sweep policy now).2.get? id = some r ↔
      l.get? id = some r ∧ ¬ TooOld policy now r) ∧
    (l.sweep policy now).1 = {id | ∃ r, l.get? id = some r ∧ TooOld policy now r}.ncard ∧
    (∀ key id, (l.sweep policy now).2.claims.get? key = some id ↔
      l.claims.get? key = some id ∧ (l.sweep policy now).2.get? id ≠ none) ∧
    (∀ ids : List RequestId, ids.Perm (l.expired policy now) →
      ids.foldl remove l = (l.sweep policy now).2) ∧
    (∀ later, now.millis ≤ later.millis →
      ((l.sweep policy now).2.sweep policy later).2 = (l.sweep policy later).2 ∧
      (l.sweep policy now).1 + ((l.sweep policy now).2.sweep policy later).1 =
        (l.sweep policy later).1) ∧
    (l.sweep policy now).2.sweep policy now = (0, (l.sweep policy now).2) := by
  have hl : l.Coherent := coherent_of_reachable h
  have hcompose : ∀ later, now.millis ≤ later.millis →
      ((l.sweep policy now).2.sweep policy later).2 = (l.sweep policy later).2 ∧
      (l.sweep policy now).1 + ((l.sweep policy now).2.sweep policy later).1 =
        (l.sweep policy later).1 := by
    intro later hle
    have hstate := hl.sweep_sweep policy hle
    refine ⟨hstate, ?_⟩
    have hfirst := hl.size_sweep policy now
    have hsecond := (hl.sweep policy now).size_sweep policy later
    have hone := hl.size_sweep policy later
    rw [hstate] at hsecond
    omega
  refine ⟨fun _ _ => hl.get?_sweep_eq_some, hl.sweep_fst, fun _ _ => hl.claims_sweep_eq_some,
    fun ids hids => ?_, hcompose, ?_⟩
  · rw [hl.removeAll_eq, hl.sweep_snd]
    exact without_congr fun id => hids.mem_iff
  · obtain ⟨hstate, hcount⟩ := hcompose now le_rfl
    exact Prod.ext (by simpa using hcount) hstate

/-- Two requests for one call and an approval for another: the first sweep leaves the claim to the
newer request, and the second one takes both. -/
theorem sweep_is_exact_of_three :
    let call : ToolCall := ⟨"exec", []⟩
    let l := ((((empty.create ⟨1⟩ ⟨0⟩ call "ask").create ⟨2⟩ ⟨5⟩ call "ask").create ⟨3⟩ ⟨7⟩
      ⟨"read", []⟩ "ask").resolve ⟨8⟩ ⟨3⟩ .approve).2
    let policy : ExpiryPolicy := ⟨4, true⟩
    l.Reachable ∧ (l.sweep policy ⟨6⟩).1 = 1 ∧
      (l.sweep policy ⟨6⟩).2.claims.get? call.fingerprint = some ⟨2⟩ ∧
      (l.sweep policy ⟨6⟩).2.get? ⟨2⟩ ≠ none ∧
      ((l.sweep policy ⟨6⟩).2.sweep policy ⟨11⟩).1 = 1 ∧
      ((l.sweep policy ⟨6⟩).2.sweep policy ⟨11⟩).2 = (l.sweep policy ⟨11⟩).2 ∧
      (l.sweep policy ⟨11⟩).2.claims.get? call.fingerprint = none ∧
      (l.sweep policy ⟨11⟩).2.get? ⟨3⟩ ≠ none := by
  intro call l policy
  have h : l.Reachable :=
    .step (.step (.step (.step .empty
      (.create ⟨1⟩ ⟨0⟩ call "ask") rfl) (.create ⟨2⟩ ⟨5⟩ call "ask") rfl)
      (.create ⟨3⟩ ⟨7⟩ ⟨"read", []⟩ "ask") rfl) (.resolve ⟨8⟩ ⟨3⟩ .approve) trivial
  obtain ⟨-, -, hclaims, -, hcompose, -⟩ := sweep_is_exact h policy ⟨6⟩
  obtain ⟨hstate, hcount⟩ := hcompose ⟨11⟩ (by decide)
  have hfirst : (l.sweep policy ⟨6⟩).1 = 1 := by decide +kernel
  have hboth : (l.sweep policy ⟨11⟩).1 = 2 := by decide +kernel
  have hclaim : (l.sweep policy ⟨6⟩).2.claims.get? call.fingerprint = some ⟨2⟩ := by decide +kernel
  exact ⟨h, hfirst, hclaim, ((hclaims _ _).mp hclaim).2, by omega, hstate, by decide +kernel,
    by decide +kernel⟩

end Ledger

end ToolGate.Approval

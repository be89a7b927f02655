/-
Calls with different fingerprints do not interfere.

All requests lie in one table, and one sweep goes through all of them. Still, what happens to the
requests of one fingerprint can be told from the steps about this fingerprint and the sweeps alone.
A run is laid next to the one that has only those steps, in which the new requests may have other
ids.

* `part` — the requests of a fingerprint; `Answer`, `answer` — what a step tells about them.
* `Mirrors` — a ledger that holds just the requests of one fingerprint of another ledger, under
  other ids.
* `About`, `Apart` — a step about a fingerprint, and one about others. `Mirrors.after`,
  `Mirrors.answer`: the first keeps ledgers mirrored and gets the same answer of both;
  `Mirrors.after_apart`: the second, taken on the whole ledger only, changes nothing that is
  mirrored.
* `other_fingerprints_do_not_interfere` — by induction on the run.
-/
import Mathlib
import ToolGate.Proofs.Approval.Run

namespace ToolGate.Approval

/-- The request with id `ρ id`. -/
def Request.rename (ρ : Equiv.Perm RequestId) (r : Request) : Request := { r with id := ρ r.id }

namespace Ledger

/-! ## The part of a fingerprint -/

/-- The `get?` of an id, restricted to requests with `key`. -/
def part (l : Ledger) (key : String) (id : RequestId) : Option Request :=
  (l.get? id).filter fun r => r.key = key

/-- What an `Op` tells about the requests of one fingerprint. -/
inductive Answer where
  | raised (id : RequestId)
  | settled (applied : Bool)
  | used (allowed : Bool)
  | swept (gone : Set RequestId)

/-- The `Answer` of a step. Of a sweep it is the ids that go from `part key`. -/
def answer (l : Ledger) (key : String) : Op → Answer
  | .create id _ _ _ => .raised id
  | .resolve now id verdict => .settled (l.resolve now id verdict).1
  | .consume call => .used (l.consume call).1
  | .sweep policy now =>
    .swept {id | l.part key id ≠ none ∧ (l.sweep policy now).2.part key id = none}

/-- The `Answer` with ids taken through `ρ`. -/
def Answer.rename (ρ : Equiv.Perm RequestId) : Answer → Answer
  | .raised id => .raised (ρ id)
  | .settled applied => .settled applied
  | .used allowed => .used allowed
  | .swept gone => .swept (ρ '' gone)

/-- The step with ids taken through `ρ`. -/
def Op.rename (ρ : Equiv.Perm RequestId) : Op → Op
  | .create id now call reason => .create (ρ id) now call reason
  | .resolve now id verdict => .resolve now (ρ id) verdict
  | .consume call => .consume call
  | .sweep policy now => .sweep policy now

/-- A step on `key`: its call or its request has that fingerprint, or it is a sweep. -/
def Op.About (l : Ledger) (key : String) : Op → Prop
  | .create _ _ call _ => call.fingerprint = key
  | .resolve _ id _ => ∀ r, l.get? id = some r → r.key = key
  | .consume call => call.fingerprint = key
  | .sweep _ _ => True

/-- A step on another fingerprint than `key`. No sweep is one. -/
def Op.Apart (l : Ledger) (key : String) : Op → Prop
  | .create _ _ call _ => call.fingerprint ≠ key
  | .resolve _ id _ => ∀ r, l.get? id = some r → r.key ≠ key
  | .consume call => call.fingerprint ≠ key
  | .sweep _ _ => False

/-- The ledger `l'` is `part key` of `l`, with ids taken through `ρ`. -/
structure Mirrors (ρ : Equiv.Perm RequestId) (key : String) (l l' : Ledger) : Prop where
  get? : ∀ id, l'.get? (ρ id) = (l.part key id).map (·.rename ρ)
  claim : l'.claims.get? key = (l.claims.get? key).map ρ

section

variable {ρ : Equiv.Perm RequestId} {key : String} {l l' : Ledger} {op : Op}

theorem part_eq_some {id : RequestId} {r : Request} :
    l.part key id = some r ↔ l.get? id = some r ∧ r.key = key := by
  rw [part, Option.filter_eq_some_iff, decide_eq_true_eq]

theorem part_eq_none {id : RequestId} (h : ∀ r, l.get? id = some r → r.key ≠ key) :
    l.part key id = none := by
  rw [Option.eq_none_iff_forall_ne_some]
  intro r hr
  obtain ⟨hget, hkey⟩ := part_eq_some.mp hr
  exact h r hget hkey

/-- Where the request under `id` can only have `key`, `part` is `get?`. -/
theorem part_eq_get? {id : RequestId} (h : ∀ r, l.get? id = some r → r.key = key) :
    l.part key id = l.get? id := by
  cases hr : l.get? id with
  | none => exact part_eq_none (by simp [hr])
  | some r => exact part_eq_some.mpr ⟨hr, h r hr⟩

theorem part_create (l : Ledger) (id : RequestId) (now : Timestamp) {call : ToolCall}
    (hcall : call.fingerprint = key) (reason : String) (i : RequestId) :
    (l.create id now call reason).part key i =
      if id = i then some (.raised id now call reason) else l.part key i := by
  rw [part, get?_create]
  split
  · simp [Option.filter, Request.raised, hcall]
  · rfl

theorem part_settle (l : Ledger) (now : Timestamp) (id : RequestId) {r : Request}
    (hkey : r.key = key) (verdict : Verdict) (i : RequestId) :
    (l.settle now id r verdict).part key i =
      if id = i then some (r.settled now verdict) else l.part key i := by
  rw [part, get?_settle]
  split
  · simp [Option.filter, Request.settled, hkey]
  · rfl

theorem part_remove (l : Ledger) (key : String) (id i : RequestId) :
    (l.remove id).part key i = if id = i then none else l.part key i := by
  rw [part, get?_remove]
  split <;> rfl

theorem Coherent.part_sweep (h : l.Coherent) (policy : ExpiryPolicy) (now : Timestamp)
    (i : RequestId) :
    (l.sweep policy now).2.part key i = (l.part key i).filter fun r => !policy.isOver now r := by
  rw [part, h.get?_sweep, part, Option.filter_filter, Option.filter_filter]
  congr 1
  funext r
  exact Bool.and_comm _ _

/-! ## Ledgers next to each other -/

theorem mirrors_empty (ρ : Equiv.Perm RequestId) (key : String) : Mirrors ρ key empty empty where
  get? id := by simp [part]
  claim := by simp

/-- The mirror holds nothing outside its own `part key`. -/
theorem Mirrors.part_eq (h : Mirrors ρ key l l') (id : RequestId) :
    l'.part key (ρ id) = (l.part key id).map (·.rename ρ) := by
  have hkeys : ∀ r, l'.get? (ρ id) = some r → r.key = key := by
    intro r hr
    rw [h.get?] at hr
    obtain ⟨r', hr', rfl⟩ := Option.map_eq_some_iff.mp hr
    exact (part_eq_some.mp hr').2
  rw [part_eq_get? hkeys, h.get?]

/-- Requests with `key` are found in the mirror under `ρ id`. -/
theorem Mirrors.get?_eq_some (h : Mirrors ρ key l l') {id : RequestId} {r : Request}
    (hr : l.get? id = some r) (hkey : r.key = key) : l'.get? (ρ id) = some (r.rename ρ) := by
  rw [h.get?, part_eq_some.mpr ⟨hr, hkey⟩]
  rfl

/-- The `approvedFor?` of `key` is mirrored. -/
theorem Mirrors.approvedFor?_eq (h : Mirrors ρ key l l') (hl : l.Coherent) :
    l'.approvedFor? key = (l.approvedFor? key).map ρ := by
  unfold approvedFor?
  rw [h.claim]
  cases hclaim : l.claims.get? key with
  | none => rfl
  | some id =>
    obtain ⟨r, hr, hkey⟩ := hl.claimed hclaim
    have hstatus : l'.status (ρ id) = l.status id := by
      rw [status, status, hr, h.get?_eq_some hr hkey]
      rfl
    by_cases happroved : l.status id = some .approved <;> simp [Option.filter, hstatus, happroved]

/-! ## Steps about the fingerprint -/

theorem Mirrors.create (h : Mirrors ρ key l l') (id : RequestId) (now : Timestamp) {call : ToolCall}
    (hcall : call.fingerprint = key) (reason : String) :
    Mirrors ρ key (l.create id now call reason) (l'.create (ρ id) now call reason) where
  get? i := by
    rw [get?_create, part_create l id now hcall, h.get?]
    by_cases hi : id = i
    · simp [hi, Request.raised, Request.rename]
    · rw [if_neg (ρ.injective.ne hi), if_neg hi]
  claim := by
    rw [claims_create, claims_create, if_pos hcall, if_pos hcall]
    rfl

theorem Mirrors.resolve (h : Mirrors ρ key l l') (now : Timestamp) {id : RequestId}
    (hkeys : ∀ r, l.get? id = some r → r.key = key) (verdict : Verdict) :
    (l'.resolve now (ρ id) verdict).1 = (l.resolve now id verdict).1 ∧
      Mirrors ρ key (l.resolve now id verdict).2 (l'.resolve now (ρ id) verdict).2 := by
  have hget : l'.get? (ρ id) = (l.get? id).map (·.rename ρ) := by rw [h.get?, part_eq_get? hkeys]
  have hstatus : l'.status (ρ id) = l.status id := by
    rw [status, status, hget, Option.map_map]
    rfl
  obtain ⟨hnot, heq⟩ | ⟨r, hr, hpending, heq⟩ := l.resolve_cases now id verdict
  · obtain ⟨-, heq'⟩ | ⟨r', hr', hpending', -⟩ := l'.resolve_cases now (ρ id) verdict
    · rw [heq, heq']
      exact ⟨rfl, h⟩
    · exact absurd (hstatus ▸ status_eq_some.mpr ⟨r', hr', hpending'⟩) hnot
  · obtain ⟨hnot', -⟩ | ⟨r', hr', -, heq'⟩ := l'.resolve_cases now (ρ id) verdict
    · exact absurd (hstatus ▸ status_eq_some.mpr ⟨r, hr, hpending⟩) hnot'
    · have hkey : r.key = key := hkeys r hr
      obtain rfl : r' = r.rename ρ := Option.some.inj (hr'.symm.trans (h.get?_eq_some hr hkey))
      rw [heq, heq']
      refine ⟨rfl, fun i => ?_, ?_⟩
      · rw [get?_settle, part_settle l now id hkey, h.get?]
        by_cases hi : id = i
        · simp [hi, Request.settled, Request.rename]
        · rw [if_neg (ρ.injective.ne hi), if_neg hi]
      · have hkey' : (r.rename ρ).key = key := hkey
        rw [claims_settle, claims_settle, hkey, hkey', h.claim]
        split <;> rfl

theorem Mirrors.remove (h : Mirrors ρ key l l') (hl : l.Coherent) (hl' : l'.Coherent)
    (id : RequestId) :
    Mirrors ρ key (l.remove id) (l'.remove (ρ id)) where
  get? i := by
    rw [get?_remove, part_remove, h.get?]
    by_cases hi : id = i
    · simp [hi]
    · rw [if_neg (ρ.injective.ne hi), if_neg hi]
  claim := by
    rw [claims_remove hl', claims_remove hl, h.claim]
    cases l.claims.get? key with
    | none => simp
    | some i => by_cases hi : i = id <;> simp [hi]

theorem Mirrors.consume (h : Mirrors ρ key l l') (hl : l.Coherent) (hl' : l'.Coherent)
    {call : ToolCall} (hcall : call.fingerprint = key) :
    (l'.consume call).1 = (l.consume call).1 ∧
      Mirrors ρ key (l.consume call).2 (l'.consume call).2 := by
  rw [consume_eq, consume_eq, hcall, h.approvedFor?_eq hl]
  cases l.approvedFor? key with
  | none => exact ⟨rfl, h⟩
  | some id => exact ⟨rfl, h.remove hl hl' id⟩

theorem Mirrors.sweep (h : Mirrors ρ key l l') (hl : l.Coherent) (hl' : l'.Coherent)
    (policy : ExpiryPolicy) (now : Timestamp) :
    Mirrors ρ key (l.sweep policy now).2 (l'.sweep policy now).2 where
  get? i := by
    rw [hl'.get?_sweep, h.get?, hl.part_sweep]
    cases l.part key i with
    | none => rfl
    | some r =>
      have hover : policy.isOver now (r.rename ρ) = policy.isOver now r := rfl
      cases hr : policy.isOver now r <;> simp [Option.filter, hover, hr]
  claim := by
    rw [hl'.claims_sweep, hl.claims_sweep, h.claim]
    cases hclaim : l.claims.get? key with
    | none => rfl
    | some id =>
      obtain ⟨r, hr, hkey⟩ := hl.claimed hclaim
      have hexpired : ρ id ∈ l'.expired policy now ↔ id ∈ l.expired policy now := by
        rw [hl'.mem_expired, hl.mem_expired, hr, h.get?_eq_some hr hkey]
        simp only [Option.some.injEq, exists_eq_left']
        rfl
      by_cases hid : id ∈ l.expired policy now <;> simp [Option.filter, hexpired, hid]

/-- Step lemma: an `About` step, taken on both sides, keeps `Mirrors`. -/
theorem Mirrors.after (h : Mirrors ρ key l l') (hl : l.Coherent) (hl' : l'.Coherent)
    (hop : op.About l key) :
    Mirrors ρ key (l.after op) (l'.after (op.rename ρ)) := by
  cases op with
  | create id now call reason => exact h.create id now hop reason
  | resolve now id verdict => exact (h.resolve now hop verdict).2
  | consume call => exact (h.consume hl hl' hop).2
  | sweep policy now => exact h.sweep hl hl' policy now

/-- An `About` step has the same `answer` on both sides. -/
theorem Mirrors.answer (h : Mirrors ρ key l l') (hl : l.Coherent) (hl' : l'.Coherent)
    (hop : op.About l key) :
    l'.answer key (op.rename ρ) = (l.answer key op).rename ρ := by
  cases op with
  | create id now call reason => rfl
  | resolve now id verdict => exact congrArg _ (h.resolve now hop verdict).1
  | consume call => exact congrArg _ (h.consume hl hl' hop).1
  | sweep policy now =>
    have hswept := h.sweep hl hl' policy now
    refine congrArg _ (Set.ext fun i => ?_)
    obtain ⟨id, rfl⟩ := ρ.surjective i
    rw [ρ.injective.mem_set_image]
    simp only [Set.mem_ofPred_eq, h.part_eq, hswept.part_eq, ne_eq, Option.map_eq_none_iff]

/-- Step lemma: an `Apart` step, taken on `l` alone, keeps `Mirrors`. -/
theorem Mirrors.after_apart (h : Mirrors ρ key l l') (hl : l.Coherent) (hnew : op.IsFresh l)
    (hop : op.Apart l key) : Mirrors ρ key (l.after op) l' := by
  have hsame : ∀ {l₁ : Ledger}, (∀ i, l₁.part key i = l.part key i) →
      l₁.claims.get? key = l.claims.get? key → Mirrors ρ key l₁ l' :=
    fun hpart hclaim => ⟨fun i => by rw [hpart, h.get?], by rw [hclaim, h.claim]⟩
  cases op with
  | create id now call reason =>
    refine hsame (fun i => ?_) ?_
    · by_cases hi : id = i
      · subst hi
        have hbefore : l.part key id = none :=
          part_eq_none (by simp [show l.get? id = none from hnew])
        rw [hbefore, part_eq_none]
        intro r hr
        rw [Ledger.after, get?_create, if_pos rfl] at hr
        cases hr
        exact hop
      · rw [part, part, Ledger.after, get?_create, if_neg hi]
    · rw [Ledger.after, claims_create, if_neg hop]
  | resolve now id verdict =>
    obtain ⟨-, heq⟩ | ⟨r, hr, -, heq⟩ := l.resolve_cases now id verdict
    · rw [Ledger.after, heq]
      exact h
    · have hkey : r.key ≠ key := hop r hr
      rw [Ledger.after, heq]
      refine hsame (fun i => ?_) ?_
      · by_cases hi : id = i
        · subst hi
          rw [part_eq_none hop, part_eq_none]
          intro r' hr'
          rw [get?_settle, if_pos rfl] at hr'
          cases hr'
          exact hkey
        · rw [part, part, get?_settle, if_neg hi]
      · rw [claims_settle, if_neg (fun hboth => hkey hboth.2)]
  | consume call =>
    rw [Ledger.after, consume_eq]
    cases hfor : l.approvedFor? call.fingerprint with
    | none => exact h
    | some id =>
      have hclaim := (approvedFor?_eq_some.mp hfor).1
      have hkeys : ∀ r, l.get? id = some r → r.key ≠ key := fun r hr hkey =>
        hop ((hl.key_of_claim hclaim hr).symm.trans hkey)
      refine hsame (fun i => ?_) ?_
      · rw [part_remove]
        split
        · rename_i hi
          rw [← hi, part_eq_none hkeys]
        · rfl
      · rw [claims_remove hl, if_neg]
        intro hown
        obtain ⟨r, hr, hkey⟩ := hl.claimed hown
        exact hkeys r hr hkey
  | sweep policy now => exact absurd hop id

end

/-! ## Runs -/

/-- The step is a sweep, is for a call with `key`, or settles a request that `ops` raise for `key`.
Unlike `About`, this is read off the run and not off a ledger. -/
def Op.Concerns (ops : List Op) (key : String) : Op → Prop
  | .create _ _ call _ => call.fingerprint = key
  | .resolve _ id _ => ∃ op ∈ ops, op.Raises id key
  | .consume call => call.fingerprint = key
  | .sweep _ _ => True

instance (ops : List Op) (key : String) : DecidablePred (Op.Concerns ops key)
  | .create _ _ call _ => inferInstanceAs (Decidable (call.fingerprint = key))
  | .resolve _ id _ => inferInstanceAs (Decidable (∃ op ∈ ops, op.Raises id key))
  | .consume call => inferInstanceAs (Decidable (call.fingerprint = key))
  | .sweep _ _ => inferInstanceAs (Decidable True)

/-- The steps of `past` that are `Concerns`, with ids taken through `ρ`. -/
def concerning (ρ : Equiv.Perm RequestId) (ops : List Op) (key : String)
    (past : List Op) : List Op :=
  (past.filter fun op => op.Concerns ops key).map (·.rename ρ)

section

variable {ρ : Equiv.Perm RequestId} {key : String} {ops past : List Op} {op : Op}

theorem newId?_rename (ρ : Equiv.Perm RequestId) (op : Op) :
    (op.rename ρ).newId? = op.newId?.map ρ := by
  cases op <;> rfl

/-- Leaving steps out and renaming keep `FreshIds`. -/
theorem FreshIds.concerning (h : FreshIds past) : FreshIds (concerning ρ ops key past) := by
  have hmap : ∀ l : List Op,
      (l.map (·.rename ρ)).filterMap Op.newId? = (l.filterMap Op.newId?).map ρ := by
    intro l
    rw [List.filterMap_map, List.map_filterMap]
    congr 1
    funext op
    exact newId?_rename ρ op
  rw [FreshIds, Ledger.concerning, hmap]
  exact (h.sublist List.filter_sublist).map ρ.injective

/-- After a `Backed` run, `Concerns` implies `About`. -/
theorem Backed.about (h : Backed past) (hfresh : FreshIds ops) (hpast : ∀ op' ∈ past, op' ∈ ops)
    (hop : op.Concerns ops key) : op.About (empty.run past) key := by
  cases op with
  | resolve now id verdict =>
    intro r hr
    obtain ⟨op', hmem, hraises⟩ := h.raised hr
    obtain ⟨op'', hmem', hraises'⟩ := hop
    exact hfresh.raises_unique (hpast op' hmem) hmem' hraises hraises'
  | _ => exact hop

/-- After a `Backed` run, a step without `Concerns` is `Apart`. -/
theorem Backed.apart (h : Backed past) (hpast : ∀ op' ∈ past, op' ∈ ops)
    (hop : ¬ op.Concerns ops key) :
    op.Apart (empty.run past) key := by
  cases op with
  | resolve now id verdict =>
    intro r hr hkey
    obtain ⟨op', hmem, hraises⟩ := h.raised hr
    exact hop ⟨op', hpast op' hmem, hkey ▸ hraises⟩
  | sweep policy now => exact hop trivial
  | _ => exact hop

/-- Run lemma: the `concerning` steps of any past lead to what `Mirrors` the ledger. -/
theorem mirrors_run (ρ : Equiv.Perm RequestId) (key : String) (hfresh : FreshIds ops)
    (past : List Op) :
    ∀ rest, ops = past ++ rest →
      Mirrors ρ key (empty.run past) (empty.run (concerning ρ ops key past)) := by
  -- one step after another; a step that does not concern the fingerprint is taken in the whole run
  -- only
  induction past using List.reverseRecOn with
  | nil => exact fun _ _ => mirrors_empty ρ key
  | append_singleton past op ih =>
    intro rest heq
    have heq' : ops = past ++ op :: rest := by simpa using heq
    have hpast : ∀ op' ∈ past, op' ∈ ops := fun op' hmem => heq' ▸ List.mem_append_left _ hmem
    have hsnoc : FreshIds (past ++ [op]) := hfresh.sublist (heq ▸ List.sublist_append_left _ _)
    have hbefore : FreshIds past := hsnoc.sublist (List.sublist_append_left _ _)
    have hbacked := backed_run hbefore
    have hmirrors := ih _ heq'
    by_cases hop : op.Concerns ops key
    · have hkept :
          concerning ρ ops key (past ++ [op]) = concerning ρ ops key past ++ [op.rename ρ] := by
        simp [concerning, hop]
      rw [hkept, run_snoc, run_snoc]
      exact hmirrors.after hbacked.coherent (backed_run hbefore.concerning).coherent
        (hbacked.about hfresh hpast hop)
    · have hdropped : concerning ρ ops key (past ++ [op]) = concerning ρ ops key past := by
        simp [concerning, hop]
      rw [hdropped, run_snoc]
      exact hmirrors.after_apart hbacked.coherent (hbacked.isFresh hsnoc) (hbacked.apart hpast hop)

end

/-- At every point of a run with `FreshIds`, running the `concerning` steps alone gives a ledger
that `Mirrors` the real one, and every step that `Concerns` the fingerprint gets the same `answer`
in both. -/
theorem other_fingerprints_do_not_interfere {ops : List Op} (hfresh : FreshIds ops) (key : String)
    (ρ : Equiv.Perm RequestId) :
    (∀ past rest, ops = past ++ rest →
      Mirrors ρ key (empty.run past) (empty.run (concerning ρ ops key past))) ∧
    ∀ past op rest, ops = past ++ op :: rest → op.Concerns ops key →
      (empty.run (concerning ρ ops key past)).answer key (op.rename ρ) =
        ((empty.run past).answer key op).rename ρ := by
  refine ⟨mirrors_run ρ key hfresh, fun past op rest heq hop => ?_⟩
  have hbefore : FreshIds past := hfresh.sublist (heq ▸ List.sublist_append_left _ _)
  have hbacked := backed_run hbefore
  have hpast : ∀ op' ∈ past, op' ∈ ops := fun op' hmem => heq ▸ List.mem_append_left _ hmem
  exact (mirrors_run ρ key hfresh past _ heq).answer hbacked.coherent
    (backed_run hbefore.concerning).coherent (hbacked.about hfresh hpast hop)

/-- Two calls, interleaved, and a sweep: `consume` succeeds without the other call as with it. -/
theorem other_fingerprints_do_not_interfere_of_two_calls :
    let call : ToolCall := ⟨"exec", []⟩
    let other : ToolCall := ⟨"read", []⟩
    let past : List Op := [.create ⟨1⟩ ⟨0⟩ call "ask", .create ⟨2⟩ ⟨0⟩ other "ask",
      .resolve ⟨1⟩ ⟨2⟩ .approve, .create ⟨3⟩ ⟨0⟩ other "ask", .resolve ⟨1⟩ ⟨1⟩ .approve,
      .sweep ⟨5, false⟩ ⟨9⟩, .consume other]
    let ops := past ++ [.consume call]
    let ρ := Equiv.swap (⟨1⟩ : RequestId) ⟨3⟩
    FreshIds ops ∧
      (empty.run (concerning ρ ops call.fingerprint past)).answer call.fingerprint (.consume call) =
        .used true := by
  intro call other past ops ρ
  have hfresh : FreshIds ops := by decide
  have hanswer := (other_fingerprints_do_not_interfere hfresh call.fingerprint ρ).2 past
    (.consume call) [] rfl rfl
  have hused : ((empty.run past).consume call).1 = true := by decide +kernel
  refine ⟨hfresh, hanswer.trans ?_⟩
  rw [answer, hused]
  rfl

end Ledger

end ToolGate.Approval

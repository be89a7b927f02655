/-
Runs of the ledger.

* `run` — the ledger after steps, one after another.
* `FreshIds` — no id is given to two requests of a run.
* `Backed` — what a run from the empty ledger leaves: a coherent ledger, in which every request was
  raised by a step of the run. `backed_run`: every run with fresh ids does.
-/
import Mathlib
import ToolGate.Proofs.Approval.Coherence

namespace ToolGate.Approval.Ledger

/-- The ledger after `ops`, first to last. -/
def run (l : Ledger) (ops : List Op) : Ledger := ops.foldl after l

@[simp] theorem run_nil (l : Ledger) : l.run [] = l := rfl

theorem run_snoc (l : Ledger) (ops : List Op) (op : Op) :
    l.run (ops ++ [op]) = (l.run ops).after op :=
  List.foldl_append

/-- The id that a `create` gives out. -/
def Op.newId? : Op → Option RequestId
  | .create id _ _ _ => some id
  | _ => none

/-- No `newId?` is given out twice. -/
def FreshIds (ops : List Op) : Prop := (ops.filterMap Op.newId?).Nodup

instance (ops : List Op) : Decidable (FreshIds ops) :=
  inferInstanceAs (Decidable (ops.filterMap Op.newId?).Nodup)

theorem FreshIds.sublist {ops ops' : List Op} (h : FreshIds ops) (hsub : ops'.Sublist ops) :
    FreshIds ops' :=
  List.Nodup.sublist (hsub.filterMap Op.newId?) h

/-- The `create` of request `id`, for a call with fingerprint `key`. -/
def Op.Raises (id : RequestId) (key : String) : Op → Prop
  | .create i _ call _ => i = id ∧ call.fingerprint = key
  | _ => False

instance (id : RequestId) (key : String) : DecidablePred (Op.Raises id key)
  | .create i _ call _ => inferInstanceAs (Decidable (i = id ∧ call.fingerprint = key))
  | .resolve _ _ _ => inferInstanceAs (Decidable False)
  | .consume _ => inferInstanceAs (Decidable False)
  | .sweep _ _ => inferInstanceAs (Decidable False)

theorem Op.newId?_of_raises {id : RequestId} {key : String} {op : Op} (h : op.Raises id key) :
    op.newId? = some id := by
  cases op with
  | create i now call reason => exact congrArg some h.1
  | _ => exact absurd h not_false

/-- With `FreshIds`, no id is raised for two fingerprints. -/
theorem FreshIds.raises_unique {ops : List Op} (h : FreshIds ops) {id : RequestId}
    {key key' : String} {op op' : Op} (hop : op ∈ ops) (hop' : op' ∈ ops)
    (hraises : op.Raises id key) (hraises' : op'.Raises id key') : key = key' := by
  have hid := Op.newId?_of_raises hraises
  have hid' := Op.newId?_of_raises hraises'
  obtain ⟨before, later, rfl⟩ := List.append_of_mem hop
  have honce : id ∉ (before ++ later).filterMap Op.newId? := by
    rw [FreshIds, List.filterMap_append, List.filterMap_cons_some hid] at h
    rw [List.filterMap_append]
    exact (List.nodup_cons.mp (List.nodup_middle.mp h)).1
  have hsame : op' = op := by
    by_contra hne
    refine honce (List.mem_filterMap.mpr ⟨op', ?_, hid'⟩)
    simpa [hne] using hop'
  rw [hsame] at hraises'
  cases op with
  | create i now call reason => exact hraises.2.symm.trans hraises'.2
  | _ => exact absurd hraises not_false

/-- What is left by a run from `empty`. -/
structure Backed (ops : List Op) : Prop where
  coherent : (empty.run ops).Coherent
  /-- Some step of the run `Raises` each request that is still there. -/
  raised : ∀ {id r}, (empty.run ops).get? id = some r → ∃ op ∈ ops, op.Raises id r.key

/-- With `FreshIds`, the next `create` is `IsFresh` after a `Backed` run. -/
theorem Backed.isFresh {ops : List Op} {op : Op} (h : Backed ops)
    (hfresh : FreshIds (ops ++ [op])) :
    op.IsFresh (empty.run ops) := by
  cases op with
  | create id now call reason =>
    by_contra hget
    obtain ⟨r, hr⟩ := Option.ne_none_iff_exists'.mp hget
    obtain ⟨op', hmem, hraises⟩ := h.raised hr
    rw [FreshIds, List.filterMap_append, List.nodup_append] at hfresh
    exact hfresh.2.2 id (List.mem_filterMap.mpr ⟨op', hmem, Op.newId?_of_raises hraises⟩) id
      (by simp [Op.newId?]) rfl
  | _ => trivial

/-- The step case of `backed_run`. -/
theorem Backed.snoc {ops : List Op} {op : Op} (h : Backed ops) (hfresh : FreshIds (ops ++ [op])) :
    Backed (ops ++ [op]) where
  coherent := by
    rw [run_snoc]
    exact h.coherent.after (h.isFresh hfresh)
  raised := by
    intro id r hr
    rw [run_snoc] at hr
    have hearlier : ∀ r', (empty.run ops).get? id = some r' → r'.key = r.key →
        ∃ op' ∈ ops ++ [op], op'.Raises id r.key := by
      intro r' hr' hkey
      obtain ⟨op', hmem, hraises⟩ := h.raised hr'
      exact ⟨op', List.mem_append_left _ hmem, hkey ▸ hraises⟩
    rcases h.coherent.get?_after_cases op id with hsame | ⟨now, call, reason, rfl, hget⟩ |
      ⟨now, verdict, r', rfl, hr', -, hget⟩ | ⟨call, rfl, -, hget⟩ |
      ⟨policy, now, r', rfl, -, -, hget⟩
    · exact hearlier r (hsame ▸ hr) rfl
    · rw [hget] at hr
      cases hr
      exact ⟨.create id now call reason, by simp, rfl, rfl⟩
    · rw [hget] at hr
      cases hr
      exact hearlier r' hr' rfl
    · simp [hget] at hr
    · simp [hget] at hr

/-- Every run with `FreshIds` is `Backed`. -/
theorem backed_run {ops : List Op} (hfresh : FreshIds ops) : Backed ops := by
  induction ops using List.reverseRecOn with
  | nil => exact ⟨coherent_empty, fun hr => by simp at hr⟩
  | append_singleton ops op ih =>
    exact (ih (hfresh.sublist (List.sublist_append_left _ _))).snoc hfresh

end ToolGate.Approval.Ledger

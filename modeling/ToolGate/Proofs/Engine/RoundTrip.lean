/-
A request that is raised, approved in a message, and used up by the next try.

* `awaits_of_run` — a request waits for its verdict until it gets one or is swept, whatever else
  happens, newer requests for the same call included.
* `exists_approvedFor?_of_spares` — once a call has an approval it keeps one while other calls are
  decided about and messages come in, even if it is another request's: a request that is approved
  later takes the call over, but never leaves it without.
* `asksApproval_again` — rules that have just been looked at say the same once more.
* `approval_round_trip` — from the request over the message to the one call that it allows.
-/
import Mathlib
import ToolGate.Proofs.Approval.Command
import ToolGate.Proofs.Approval.Fingerprint
import ToolGate.Proofs.Engine.History

namespace ToolGate.Approval.Ledger

variable {l : Ledger}

/-- Steps after which `key` still has an approval: verdicts, and steps on other fingerprints. -/
def Op.Spares (key : String) : Op → Prop
  | .create _ _ call _ => call.fingerprint ≠ key
  | .resolve _ _ _ => True
  | .consume call => call.fingerprint ≠ key
  | .sweep _ _ => False

/-- Step lemma: a step that `Spares` the key leaves it some `approvedFor?`. -/
theorem Coherent.exists_approvedFor?_after (h : l.Coherent) {key : String}
    {id : RequestId} {op : Op} (hnew : op.IsFresh l) (hop : op.Spares key)
    (hfor : l.approvedFor? key = some id) :
    ∃ id', (l.after op).approvedFor? key = some id' := by
  obtain ⟨hclaim, hstatus⟩ := approvedFor?_eq_some.mp hfor
  obtain ⟨r, hr, happroved⟩ := status_eq_some.mp hstatus
  cases op with
  | create i now call reason =>
    have hi : i ≠ id := by
      rintro rfl
      simp [Op.IsFresh, hr] at hnew
    refine ⟨id, approvedFor?_eq_some.mpr ⟨?_, status_eq_some.mpr ⟨r, ?_, happroved⟩⟩⟩
    · rw [Ledger.after, claims_create, if_neg hop, hclaim]
    · rw [Ledger.after, get?_create, if_neg hi, hr]
  | resolve now i verdict =>
    obtain ⟨-, heq⟩ | ⟨r', hr', hpending, heq⟩ := l.resolve_cases now i verdict
    · exact ⟨id, by rw [Ledger.after, heq, hfor]⟩
    · have hi : i ≠ id := by
        rintro rfl
        rw [hr, Option.some.injEq] at hr'
        rw [← hr', happroved] at hpending
        exact absurd hpending (by decide)
      rw [Ledger.after, heq]
      by_cases htakes : verdict = .approve ∧ r'.key = key
      · -- the request that is approved now takes the fingerprint over
        obtain ⟨rfl, rfl⟩ := htakes
        exact ⟨i, approvedFor?_settle ..⟩
      · refine ⟨id, approvedFor?_eq_some.mpr ⟨?_, status_eq_some.mpr ⟨r, ?_, happroved⟩⟩⟩
        · rw [claims_settle, if_neg htakes, hclaim]
        · rw [get?_settle, if_neg hi, hr]
  | consume call =>
    rw [Ledger.after, consume_eq]
    cases hcall : l.approvedFor? call.fingerprint with
    | none => exact ⟨id, hfor⟩
    | some i =>
      have hi : i ≠ id := by
        rintro rfl
        obtain ⟨hclaim', -⟩ := approvedFor?_eq_some.mp hcall
        exact hop ((h.key_of_claim hclaim' hr).symm.trans (h.key_of_claim hclaim hr))
      refine ⟨id, approvedFor?_eq_some.mpr ⟨?_, status_eq_some.mpr ⟨r, ?_, happroved⟩⟩⟩
      · rw [claims_remove h, hclaim, if_neg (by simpa using Ne.symm hi)]
      · rw [get?_remove, if_neg hi, hr]
  | sweep policy now => exact hop.elim

/-- Removing the `approvedFor?` of a key leaves it none. -/
theorem Coherent.approvedFor?_remove (h : l.Coherent) {key : String} {id : RequestId}
    (hfor : l.approvedFor? key = some id) : (l.remove id).approvedFor? key = none := by
  have hclaim := (approvedFor?_eq_some.mp hfor).1
  rw [approvedFor?, claims_remove h, hclaim, if_pos rfl]
  rfl

end ToolGate.Approval.Ledger

namespace ToolGate.Engine

open Approval Json

/-! ## Waiting for a verdict -/

/-- The event `Settles` the request, in either way. -/
def Resolves (e : Engine) (ev : Event) (id : RequestId) : Prop := ∃ verdict, e.Settles verdict ev id

/-- The request has fingerprint `key` and is pending. -/
def Awaits (e : Engine) (key : String) (id : RequestId) : Prop :=
  ∃ r, e.ledger.get? id = some r ∧ r.status = .pending ∧ r.key = key

/-- Step lemma: a request `Awaits` until an event resolves or sweeps it. -/
theorem Awaits.after {e : Engine} {key : String} {id : RequestId} {ev : Event} (h : e.Awaits key id)
    (hcoherent : e.ledger.Coherent) (hfresh : ¬ e.Mints ev id) (hresolves : ¬ e.Resolves ev id)
    (hsweeps : ¬ e.Sweeps ev id) : (e.after ev).Awaits key id := by
  obtain ⟨r, hr, hpending, hkey⟩ := h
  rcases request_cases hcoherent ev id with hsame | ⟨hmints, -⟩ | ⟨now, verdict, r', hsettles, -⟩ |
    ⟨-, call, -, hfor⟩ | hswept
  · exact ⟨r, hsame ▸ hr, hpending, hkey⟩
  · exact absurd hmints hfresh
  · exact absurd ⟨verdict, hsettles⟩ hresolves
  · obtain ⟨r', hr', happroved⟩ := Ledger.status_eq_some.mp (Ledger.approvedFor?_eq_some.mp hfor).2
    rw [hr, Option.some.injEq] at hr'
    rw [← hr', hpending] at happroved
    exact absurd happroved (by decide)
  · exact absurd hswept hsweeps

/-- Run lemma: a minted request `Awaits` until some event has resolved or swept it. -/
theorem awaits_of_run {e : Engine} (hempty : e.ledger = .empty)
    {past later : List Event} {ev : Event} {key : String} {id : RequestId}
    (hfresh : FreshIds e (past ++ ev :: later)) (hmints : (e.run past).Mints ev id)
    (h : ((e.run past).after ev).Awaits key id)
    (hresolves : ¬ Happened Resolves ((e.run past).after ev) later id)
    (hsweeps : ¬ Happened Sweeps ((e.run past).after ev) later id) :
    (e.run (past ++ ev :: later)).Awaits key id := by
  induction later using List.reverseRecOn with
  | nil => rwa [run_snoc]
  | append_singleton later ev' ih =>
    have hstate : e.run (past ++ ev :: later) = ((e.run past).after ev).run later := by
      rw [run_append, run_cons]
    rw [happened_snoc, not_or, ← hstate] at hresolves hsweeps
    have hsplit : past ++ ev :: (later ++ [ev']) = past ++ ev :: later ++ [ev'] := by simp
    rw [hsplit] at hfresh ⊢
    have hwaits := ih hfresh.prefix hresolves.1 hsweeps.1
    have hnot : ¬ (e.run (past ++ ev :: later)).Mints ev' id := fun hagain =>
      hfresh _ ev' [] rfl id hagain ⟨past, ev, later, rfl, hmints⟩
    rw [run_snoc]
    exact hwaits.after (traced_run hempty hfresh.prefix).coherent hnot hresolves.2 hsweeps.2

/-! ## Waiting for the next try -/

/-- Decisions about other fingerprints, and messages. -/
def Event.Spares (key : String) : Event → Prop
  | .evaluate _ call _ => call.fingerprint ≠ key
  | .guard _ call _ _ => call.fingerprint ≠ key
  | .message _ _ => True
  | _ => False

theorem spares_of_ledgerOp? {e : Engine} {key : String} {ev : Event} (h : ev.Spares key)
    {op : Ledger.Op} (hop : e.ledgerOp? ev = some op) : op.Spares key := by
  have hruling : ∀ (m : Moment) (call : ToolCall) (r : Ruling), call.fingerprint ≠ key →
      rulingOp? m call r = some op → op.Spares key := by
    intro m call r hkey hr
    obtain ⟨-, rfl⟩ | ⟨id, reason, -, rfl⟩ := rulingOp?_eq_some.mp hr <;> exact hkey
  cases ev with
  | evaluate m call intent => exact hruling m call _ h hop
  | guard m call intent _ => exact hruling m call _ h hop
  | message now text =>
    obtain ⟨c, -, rfl⟩ := Option.map_eq_some_iff.mp hop
    trivial
  | _ => exact h.elim

/-- Run lemma: events that `Spares` the key leave it some `approvedFor?`. -/
theorem exists_approvedFor?_of_spares {e : Engine} (hempty : e.ledger = .empty)
    {past later : List Event} {key : String} (hfresh : FreshIds e (past ++ later))
    (hlater : ∀ ev ∈ later, ev.Spares key)
    (h : ∃ id, (e.run past).ledger.approvedFor? key = some id) :
    ∃ id, (e.run (past ++ later)).ledger.approvedFor? key = some id := by
  induction later using List.reverseRecOn with
  | nil => rwa [List.append_nil]
  | append_singleton later ev ih =>
    rw [← List.append_assoc] at hfresh ⊢
    obtain ⟨id, hfor⟩ := ih hfresh.prefix fun ev' hmem => hlater ev' (List.mem_append_left _ hmem)
    have htraced := traced_run hempty hfresh.prefix
    have hnew := htraced.isFresh fun i hmints => hfresh _ ev [] rfl i hmints
    rw [run_snoc, ledger_after]
    cases hop : (e.run (past ++ later)).ledgerOp? ev with
    | none => exact ⟨id, hfor⟩
    | some op =>
      exact htraced.coherent.exists_approvedFor?_after (hnew op hop)
        (spares_of_ledgerOp? (hlater ev (by simp)) hop) hfor

/-! ## Looking at the rules once more -/

/-- A second `load` of the same snapshot gives the same rules. -/
theorem load_again (source : RuleSource) (seen : Option Snapshot) :
    ((source.load seen).2.load seen).1 = (source.load seen).1 := by
  cases source with
  | given rules => rfl
  | file f =>
    cases seen with
    | none => rfl
    | some s =>
      simp only [RuleSource.load, RuleFile.load]
      cases hknown : f.known? s.stamp with
      | some rules => simp [hknown]
      | none =>
        -- what is remembered now is what would be read again
        by_cases htime : s.stamp.modified.isSome <;> simp [RuleFile.known?, htime]

/-- A call that `AsksApproval` still does after the look at the rules. -/
theorem asksApproval_again {e : Engine} {m m' : Moment} {call : ToolCall} {intent : Intent}
    (h : e.AsksApproval m call intent) (hfile : m'.rulesFile = m.rulesFile) (ledger : Ledger) :
    ({ e.refreshed m with ledger } : Engine).AsksApproval m' call intent where
  exempts := h.exempts
  forbids := h.forbids
  found := by
    have hfound := h.found
    simp only [Engine.found, refreshed, hfile, load_again] at hfound ⊢
    exact hfound

/-! ## The round trip -/

/-- The request that `evaluate` names `Awaits`. -/
theorem awaits_of_evaluate {e : Engine} {m : Moment} {call : ToolCall} {intent : Intent}
    {id : RequestId} (h : (e.evaluate m call intent).1.requestId = some id) :
    (e.after (.evaluate m call intent)).Awaits call.fingerprint id := by
  have hcases := judge_cases e m call intent
  simp only [evaluate, after, Ruling.evaluation] at h ⊢
  generalize e.judge m call intent = outcome at h hcases ⊢
  obtain ⟨r, e'⟩ := outcome
  cases hcases <;> simp only [Ruling.requestId, reduceCtorEq, Option.some.injEq] at h
  subst h
  exact ⟨_, by rw [Ledger.get?_create, if_pos rfl], rfl, rfl⟩

/-- An approval of a request that `Awaits` is applied, and the request becomes the
`approvedFor?`. -/
theorem Awaits.approve {e : Engine} {key : String} {id : RequestId} (h : e.Awaits key id)
    (now : Timestamp) {text : String} (htext : Command.parse? text = some ⟨id, .approve⟩) :
    (e.onMessage now text).1 = some ⟨⟨id, .approve⟩, true⟩ ∧
      (e.after (.message now text)).ledger.approvedFor? key = some id := by
  obtain ⟨r, hr, hpending, hkey⟩ := h
  have hresolve : e.ledger.resolve now id .approve = (true, e.ledger.settle now id r .approve) := by
    obtain ⟨hnot, -⟩ | ⟨r', hr', -, heq⟩ := e.ledger.resolve_cases now id .approve
    · exact absurd (Ledger.status_eq_some.mpr ⟨r, hr, hpending⟩) hnot
    · rw [hr, Option.some.injEq] at hr'
      rw [heq, hr']
  simp only [Engine.after, onMessage, htext, hresolve, true_and, ← hkey]
  exact Ledger.approvedFor?_settle ..

/-- With an `approvedFor?`, a call that `AsksApproval` is allowed, and the next one raises a
request. -/
theorem allowed_once {e : Engine} (hcoherent : e.ledger.Coherent) {m m' : Moment} {call : ToolCall}
    {intent : Intent} {id : RequestId} (hfor : e.ledger.approvedFor? call.fingerprint = some id)
    (h : e.AsksApproval m call intent) (hfile : m'.rulesFile = m.rulesFile) :
    (e.evaluate m call intent).1.decision = .allow ∧
      ((e.after (.evaluate m call intent)).evaluate m' call intent).1.decision = .requiresApproval ∧
      ((e.after (.evaluate m call intent)).evaluate m' call intent).1.requestId =
        some m'.freshId := by
  have hjudge := judge_of_approvedFor? h hfor
  have hafter : e.after (.evaluate m call intent) =
      { e.refreshed m with ledger := e.ledger.remove id } := by
    rw [after, evaluate, hjudge]
  have hagain := judge_of_approvedFor?_eq_none (asksApproval_again h hfile (e.ledger.remove id))
    (hcoherent.approvedFor?_remove hfor)
  refine ⟨by rw [evaluate, hjudge]; rfl, ?_, ?_⟩
  · rw [hafter, evaluate, hagain]
    rfl
  · rw [hafter, evaluate, hagain]
    rfl

/-- Let `evaluate` have asked for `id`, and nothing have resolved or swept it. Any message in the
grammar of `parse?_approve` is applied to it. After events that only `Spares` the call, its first
retry that `AsksApproval` is allowed, with its keys in any order, and the next one gets a new
`requestId`. -/
theorem approval_round_trip {e : Engine} (hempty : e.ledger = .empty)
    {past later asked : List Event} {m : Moment} {call : ToolCall} {intent : Intent}
    {reason : String} {id : RequestId} (hasked : asked = past ++ .evaluate m call intent :: later)
    (hfresh : FreshIds e asked) (hcall : WellFormed (.object call.args))
    (hevaluated : ((e.run past).evaluate m call intent).1 = ⟨.requiresApproval, reason, some id⟩)
    (hresolves : ¬ Happened Resolves ((e.run past).after (.evaluate m call intent)) later id)
    (hsweeps : ¬ Happened Sweeps ((e.run past).after (.evaluate m call intent)) later id) :
    (∀ pre phrase blanks idText suffix : List Char, pre = [] ∨ EndsInBlank pre →
      findCommand .approve pre = none → Phrase Verdict.approve.name.toList phrase → Blanks blanks →
      InAnyCase id.toChars idText →
      Command.parse? (String.ofList (pre ++ phrase ++ blanks ++ idText ++ suffix)) =
        some ⟨id, .approve⟩) ∧
    ∀ (now : Timestamp) (text : String), Command.parse? text = some ⟨id, .approve⟩ →
      ((e.run asked).onMessage now text).1 = some ⟨⟨id, .approve⟩, true⟩ ∧
      ∀ (between told : List Event) (m₁ m₂ : Moment) (retry : ToolCall) (intent' : Intent),
        told = asked ++ .message now text :: between →
        FreshIds e (told ++ [.evaluate m₁ retry intent', .evaluate m₂ retry intent']) →
        (∀ ev ∈ between, ev.Spares call.fingerprint) →
        retry.tool = call.tool → WellFormed (.object retry.args) →
        Same (.object retry.args) (.object call.args) →
        (e.run told).AsksApproval m₁ retry intent' → m₂.rulesFile = m₁.rulesFile →
        ((e.run told).evaluate m₁ retry intent').1.decision = .allow ∧
        ((e.run (told ++ [.evaluate m₁ retry intent'])).evaluate m₂ retry intent').1.decision =
          .requiresApproval ∧
        ∃ id',
          ((e.run (told ++ [.evaluate m₁ retry intent'])).evaluate m₂ retry intent').1.requestId =
            some id' ∧
          ¬ Happened Mints e (told ++ [.evaluate m₁ retry intent']) id' ∧ id' ≠ id := by
  subst hasked
  refine ⟨fun pre phrase blanks idText suffix hpre hnone hphrase hblanks hidText =>
    parse?_approve suffix hpre hnone hphrase hblanks hidText, fun now text htext => ?_⟩
  have hid : ((e.run past).evaluate m call intent).1.requestId = some id := by rw [hevaluated]
  have hmints : (e.run past).Mints (.evaluate m call intent) id := hid
  have hwaits := awaits_of_run hempty hfresh hmints (awaits_of_evaluate hid) hresolves hsweeps
  obtain ⟨happlied, hfor⟩ := hwaits.approve now htext
  refine ⟨happlied, ?_⟩
  intro between told m₁ m₂ retry intent' htold hfresh' hbetween htool hretry hsame hask hfile
  have htoldFresh : FreshIds e told := hfresh'.prefix
  have hkey : retry.fingerprint = call.fingerprint := by
    rw [ToolCall.fingerprint, ToolCall.fingerprint, htool]
    exact fingerprint_congr call.tool hretry hcall hsame
  have hkept : ∃ i, (e.run told).ledger.approvedFor? retry.fingerprint = some i := by
    have hsplit :
        told = past ++ .evaluate m call intent :: later ++ [.message now text] ++ between := by
      rw [htold]
      simp
    rw [hsplit] at htoldFresh ⊢
    rw [hkey]
    exact exists_approvedFor?_of_spares hempty htoldFresh hbetween ⟨id, by rw [run_snoc, hfor]⟩
  obtain ⟨i, hi⟩ := hkept
  obtain ⟨hallow, hagain, hnew⟩ :=
    allowed_once (traced_run hempty htoldFresh).coherent hi hask hfile
  rw [← run_snoc] at hagain hnew
  refine ⟨hallow, hagain, m₂.freshId, hnew, ?_⟩
  have hlast : ¬ Happened Mints e (told ++ [.evaluate m₁ retry intent']) m₂.freshId :=
    hfresh' _ (.evaluate m₂ retry intent') [] (by simp) _ hnew
  refine ⟨hlast, ?_⟩
  rintro heq
  rw [heq] at hlast
  exact hlast ⟨past, .evaluate m call intent,
    later ++ .message now text :: between ++ [.evaluate m₁ retry intent'], by rw [htold]; simp,
    hmints⟩

/-- A request that a newer one took over, approved in a wordy message; the retry has its keys in
another order. -/
theorem approval_round_trip_of_superseded :
    let call : ToolCall := ⟨"exec", [("a", .null), ("b", .null)]⟩
    let retry : ToolCall := ⟨"exec", [("b", .null), ("a", .null)]⟩
    let e : Engine := ⟨⟨.requireApproval, none, []⟩, .given [], .empty⟩
    let text := String.ofList ("ok, ".toList ++ "/approve Approve".toList ++ "  ".toList ++
      "00000000-0000-0000-0000-00000000000A".toList ++ " please".toList)
    let asked : List Event := [.evaluate ⟨⟨0⟩, ⟨10⟩, none⟩ call ⟨""⟩,
      .evaluate ⟨⟨1⟩, ⟨11⟩, none⟩ call ⟨""⟩]
    let told : List Event := asked ++ [.message ⟨2⟩ text, .message ⟨3⟩ "thanks"]
    ((e.run asked).onMessage ⟨2⟩ text).1 = some ⟨⟨⟨10⟩, .approve⟩, true⟩ ∧
      ((e.run told).evaluate ⟨⟨4⟩, ⟨12⟩, none⟩ retry ⟨""⟩).1.decision = .allow ∧
      ((e.run (told ++ [.evaluate ⟨⟨4⟩, ⟨12⟩, none⟩ retry ⟨""⟩])).evaluate ⟨⟨5⟩, ⟨13⟩, none⟩
        retry ⟨""⟩).1.decision = .requiresApproval := by
  intro call retry e text asked told
  have hcall : WellFormed (.object call.args) := by
    refine .object (by decide) fun k v hmem => ?_
    simp only [call, List.mem_cons, Prod.mk.injEq, List.not_mem_nil, or_false] at hmem
    rcases hmem with ⟨-, rfl⟩ | ⟨-, rfl⟩ <;> exact .null
  have hretry : WellFormed (.object retry.args) := by
    refine .object (by decide) fun k v hmem => ?_
    simp only [retry, List.mem_cons, Prod.mk.injEq, List.not_mem_nil, or_false] at hmem
    rcases hmem with ⟨-, rfl⟩ | ⟨-, rfl⟩ <;> exact .null
  have hresolves : ¬ Happened Resolves ((e.run []).after (.evaluate ⟨⟨0⟩, ⟨10⟩, none⟩ call ⟨""⟩))
      ([] ++ [.evaluate ⟨⟨1⟩, ⟨11⟩, none⟩ call ⟨""⟩]) ⟨10⟩ := by
    rw [happened_snoc]
    rintro (hbefore | ⟨verdict, hsettles⟩)
    · exact not_happened_nil hbefore
    · exact hsettles
  have hsweeps : ¬ Happened Sweeps ((e.run []).after (.evaluate ⟨⟨0⟩, ⟨10⟩, none⟩ call ⟨""⟩))
      ([] ++ [.evaluate ⟨⟨1⟩, ⟨11⟩, none⟩ call ⟨""⟩]) ⟨10⟩ := by
    rw [happened_snoc]
    rintro (hbefore | ⟨hsweep, -⟩)
    · exact not_happened_nil hbefore
    · simp [Event.isSweep] at hsweep
  have hasked : asked = [] ++ .evaluate ⟨⟨0⟩, ⟨10⟩, none⟩ call ⟨""⟩ ::
      ([] ++ [.evaluate ⟨⟨1⟩, ⟨11⟩, none⟩ call ⟨""⟩]) := rfl
  obtain ⟨hreads, hround⟩ := approval_round_trip (rfl : e.ledger = .empty) hasked
    (freshIds_of_nodup (by decide)) hcall rfl hresolves hsweeps
  have hword : InAnyCase Verdict.approve.name.toList "approve".toList := rfl
  have hword' : InAnyCase Verdict.approve.name.toList "Approve".toList := rfl
  have hbetween : Blanks " ".toList := ⟨by simp, by simp [Text.isBlank]⟩
  have htext : Command.parse? text = some ⟨⟨10⟩, .approve⟩ :=
    hreads _ _ _ _ _ (.inr ⟨' ', rfl, rfl⟩) (by decide +kernel) (.twice hword hbetween hword')
      ⟨by simp, by simp [Text.isBlank]⟩ rfl
  obtain ⟨happlied, hlater⟩ := hround ⟨2⟩ text htext
  have hsettings : (e.run told).policy = e.policy ∧ (e.run told).source = .given [] :=
    settings_run (by simp [told, asked]) rfl
  have hasks : (e.run told).AsksApproval ⟨⟨4⟩, ⟨12⟩, none⟩ retry ⟨""⟩ := by
    refine ⟨?_, ?_, ?_⟩ <;> simp only [found, hsettings.1, hsettings.2] <;> rfl
  obtain ⟨hallow, hagain, -⟩ := hlater [.message ⟨3⟩ "thanks"] told
    ⟨⟨4⟩, ⟨12⟩, none⟩ ⟨⟨5⟩, ⟨13⟩, none⟩ retry ⟨""⟩ rfl (freshIds_of_nodup (by decide))
    (by simp [Event.Spares]) rfl hretry
    (same_of_perm hretry (List.Perm.swap _ _ [])) hasks rfl
  exact ⟨happlied, hallow, hagain⟩

end ToolGate.Engine

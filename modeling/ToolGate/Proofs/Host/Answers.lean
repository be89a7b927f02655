/-
What the gate answers to one line agrees with what it does.

* `OneLine` — characters without a control character among them. `oneLine_render`: the text of a
  JSON value is such a line, whatever texts are in it.
* `value?` — what an answer has under a key.
* `Refuses`, `TellsDecision`, `TellsSettling` — what the answers to a line that is no event, to a
  call and to a message have to say of the engines before and after it.
* `answer_message` — the answer to a message, by what the engine does on it.
* `Agrees` — a line is answered that way, on one line; `agrees`: every line is, for every engine.
-/
import Mathlib
import ToolGate.Host.Response
import ToolGate.Proofs.Engine.Run
import ToolGate.Proofs.Json.Readability

namespace ToolGate

/-! ## Answers on one line -/

namespace Json

/-- No control characters, and so no line feed. -/
def OneLine (cs : List Char) : Prop := ∀ c ∈ cs, 0x20 ≤ c.toNat

@[simp] theorem oneLine_nil : OneLine [] := nofun

@[simp] theorem oneLine_cons {c : Char} {cs : List Char} :
    OneLine (c :: cs) ↔ 0x20 ≤ c.toNat ∧ OneLine cs := List.forall_mem_cons

@[simp] theorem oneLine_append {cs ds : List Char} : OneLine (cs ++ ds) ↔ OneLine cs ∧ OneLine ds :=
  List.forall_mem_append

theorem OneLine.not_newLine {cs : List Char} (h : OneLine cs) : '\n' ∉ cs := by
  intro hmem
  have hle := h _ hmem
  simp at hle

theorem oneLine_escapeChar (c : Char) : OneLine (escapeChar c) := by
  have hhex : ∀ n < 16, 0x20 ≤ (hexDigit n).toNat := by decide
  unfold escapeChar
  split_ifs with hquote hbackslash hb hf hn hr ht hcontrol
  iterate 7 simp
  · simp [hhex (c.toNat / 16) (by omega), hhex (c.toNat % 16) (by omega)]
  · simpa using hcontrol

theorem oneLine_renderText (s : String) : OneLine (renderText s) := by
  have hescape : ∀ cs, OneLine (escape cs) := by
    intro cs
    induction cs with
    | nil => simp [escape]
    | cons c cs ih => simp [escape, oneLine_escapeChar, ih]
  simp [renderText, hescape]

theorem oneLine_renderNumber (n : Number) : OneLine (renderNumber n) := by
  intro c hc
  have hnumeral := List.all_eq_true.mp (renderNumber_all n) c hc
  by_contra hlow
  have hcontrol : ∀ k < 0x20, Decimal.isNumeralChar (Char.ofNat k) = false := by decide
  have hnot := hcontrol c.toNat (by omega)
  rw [Char.ofNat_toNat, hnumeral] at hnot
  cases hnot

theorem oneLine_renderBoolean (b : Bool) : OneLine (renderBoolean b) := by
  cases b <;> simp [renderBoolean]

mutual

/-- Every `render` is `OneLine`. -/
theorem oneLine_render : ∀ j : Json, OneLine j.render
  | .null => by simp [render]
  | .boolean b => by rw [render]; exact oneLine_renderBoolean b
  | .number n => by rw [render]; exact oneLine_renderNumber n
  | .text s => by rw [render]; exact oneLine_renderText s
  | .list [] => by simp [render]
  | .list (x :: xs) => by simp [render, oneLine_render x, oneLine_renderItems xs]
  | .object [] => by simp [render]
  | .object ((k, v) :: rest) => by
    simp [render, oneLine_renderText, oneLine_render v, oneLine_renderFields rest]

theorem oneLine_renderItems : ∀ xs : List Json, OneLine (renderItems xs)
  | [] => by simp [renderItems]
  | x :: xs => by simp [renderItems, oneLine_render x, oneLine_renderItems xs]

theorem oneLine_renderFields : ∀ fs : Fields, OneLine (renderFields fs)
  | [] => by simp [renderFields]
  | (k, v) :: rest => by
    simp [renderFields, oneLine_renderText, oneLine_render v, oneLine_renderFields rest]

end

/-- The field of an `.object`, by key. -/
def value? (key : String) (j : Json) : Option Json := j.asObject?.bind (field? key)

end Json

namespace Host

open Approval

/-! ## What answers say -/

/-- An answer that holds an `error` alone, with the engine unchanged. -/
structure Refuses (before after : Engine) (answer : Json) : Prop where
  only_error : ∃ message, answer = .object [("error", .text message)]
  unchanged : after = before

/-- The answer to a call, against `Engine.evaluate` and the ledger after it. -/
structure TellsDecision (e : Engine) (m : Moment) (call : ToolCall) (intent : Intent)
    (after : Engine) (answer : Json) : Prop where
  /-- The decision is that of `evaluate`. -/
  decision : answer.value? "decision" =
    some (.text (e.evaluate m call intent).1.decision.name)
  /-- The engine takes the step of `evaluate`. -/
  step : after = (e.evaluate m call intent).2
  block_iff : answer.value? "block" = some (.boolean false) ↔
    answer.value? "decision" = some (.text "allow")
  reason_iff : answer.value? "decision" = some (.text "allow") ↔
    answer.value? "blockReason" = some .null
  /-- A request is named just if the decision is `require_approval`. -/
  request_iff : answer.value? "requestId" ≠ some .null ↔
    answer.value? "decision" = some (.text "require_approval")
  /-- The request that is named is the new one: pending, for this call, and named in the reason
  too. -/
  pending : answer.value? "requestId" ≠ some .null →
    answer.value? "requestId" = some (.text m.freshId.render) ∧
      (∃ r, after.ledger.get? m.freshId = some r ∧ r.status = .pending ∧ r.tool = call.tool ∧
        r.args = call.args) ∧
      ∃ reason, answer.value? "blockReason" = some (.text reason) ∧
        m.freshId.render.toList <:+: reason.toList

/-- From `l` to `l'`, pending `id` became `Request.settled`, and nothing else changed. -/
def Settles (l l' : Ledger) (now : Timestamp) (id : RequestId) (verdict : Verdict) : Prop :=
  ∃ r, l.get? id = some r ∧ r.status = .pending ∧ l'.get? id = some (r.settled now verdict) ∧
    ∀ i, i ≠ id → l'.get? i = l.get? i

/-- The answer to a message, against `Engine.onMessage` and the ledgers around it. -/
structure TellsSettling (now : Timestamp) (text : String) (before after : Engine)
    (answer : Json) : Prop where
  /-- What `handled` says is whether a command in the text was applied. -/
  handled : answer.value? "handled" =
    some (.boolean ((before.onMessage now text).1.any (·.applied)))
  /-- The engine takes the step of `onMessage`. -/
  step : after = (before.onMessage now text).2
  /-- It is true just if the ledger `Settles` the request that is named, by the verdict that is
  named. -/
  handled_iff : answer.value? "handled" = some (.boolean true) ↔
    ∃ id verdict, answer.value? "requestId" = some (.text id.render) ∧
      answer.value? "command" = some (.text verdict.name) ∧
      Settles before.ledger after.ledger now id verdict
  unchanged : answer.value? "handled" ≠ some (.boolean true) →
    answer.value? "handled" = some (.boolean false) ∧ after = before

/-- The answer is `OneLine`, and tells what `respond` did: `Refuses`, `TellsDecision` or
`TellsSettling`. -/
def Agrees (e : Engine) (m : Moment) (line : String) : Prop :=
  let (response, _, after) := respond e m line
  Json.OneLine response.render.toList ∧
    match Event.read line with
    | .error _ => Refuses e after response.toJson
    | .ok (.beforeCall call intent) => TellsDecision e m call intent after response.toJson
    | .ok (.message text) => TellsSettling m.now text e after response.toJson

theorem oneLine_response (r : Response) : Json.OneLine r.render.toList := by
  rw [Response.render, Json.toText, String.toList_ofList]
  exact Json.oneLine_render _

/-! ## What is answered -/

section

variable (ev : Evaluation)

@[simp] theorem value?_block :
    (Response.decided ev).toJson.value? "block" = some (.boolean ev.isBlocked) := by
  simp [Response.toJson, Json.value?, Json.asObject?, Json.field?]

@[simp] theorem value?_blockReason :
    (Response.decided ev).toJson.value? "blockReason" =
      some (if ev.isBlocked then .text ev.reason else .null) := by
  simp [Response.toJson, Json.value?, Json.asObject?, Json.field?]

@[simp] theorem value?_decision :
    (Response.decided ev).toJson.value? "decision" = some (.text ev.decision.name) := by
  simp [Response.toJson, Json.value?, Json.asObject?, Json.field?]

@[simp] theorem value?_requestId :
    (Response.decided ev).toJson.value? "requestId" =
      some (Response.orNull (fun id => .text id.render) ev.requestId) := by
  simp [Response.toJson, Json.value?, Json.asObject?, Json.field?]

end

section

variable (r : Resolution)

@[simp] theorem value?_handled :
    (Response.settled r).toJson.value? "handled" = some (.boolean r.applied) := by
  simp [Response.toJson, Json.value?, Json.asObject?, Json.field?]

@[simp] theorem value?_command :
    (Response.settled r).toJson.value? "command" = some (.text r.command.verdict.name) := by
  simp [Response.toJson, Json.value?, Json.asObject?, Json.field?]

@[simp] theorem value?_settledId :
    (Response.settled r).toJson.value? "requestId" = some (.text r.command.id.render) := by
  simp [Response.toJson, Json.value?, Json.asObject?, Json.field?]

end

@[simp] theorem value?_handled_unhandled :
    Response.unhandled.toJson.value? "handled" = some (.boolean false) := by
  simp [Response.toJson, Json.value?, Json.asObject?, Json.field?]

/-- A `requestMessage` names its request. -/
theorem render_infix_requestMessage (reason : String) (id : RequestId) :
    id.render.toList <:+: (requestMessage reason id).toList := by
  unfold requestMessage
  generalize id.render = written
  rw [String.toList_append, String.toList_append]
  exact List.infix_append _ _ _

theorem tellsDecision (e : Engine) (m : Moment) (call : ToolCall) (intent : Intent) :
    TellsDecision e m call intent (answer e m (.beforeCall call intent)).2.2
      (answer e m (.beforeCall call intent)).1.toJson := by
  have hjudged := e.judge_cases m call intent
  have hdecision : (e.evaluate m call intent).1.decision = (e.judge m call intent).1.decision := rfl
  have hstep : (e.evaluate m call intent).2 = (e.judge m call intent).2 := rfl
  simp only [answer]
  generalize (e.judge m call intent).1 = ruling at hjudged hdecision ⊢
  generalize (e.judge m call intent).2 = after at hjudged hstep ⊢
  refine ⟨by rw [hdecision]; exact value?_decision _, hstep.symm, ?_, ?_, ?_, ?_⟩
  · cases ruling <;> simp [Ruling.evaluation, Ruling.decision, Evaluation.isBlocked, Decision.name]
  · cases ruling <;> simp [Ruling.evaluation, Ruling.decision, Evaluation.isBlocked, Decision.name]
  · cases ruling <;>
      simp [Ruling.evaluation, Ruling.decision, Ruling.requestId, Decision.name, Response.orNull]
  · intro hnamed
    cases hjudged with
    | requested _ _ _ _ =>
      have hthere := (Ledger.get?_create e.ledger m.freshId m.now call
        (e.found m call intent).reason m.freshId).trans (if_pos rfl)
      refine ⟨?_, ⟨_, hthere, rfl, rfl, rfl⟩,
        requestMessage (e.found m call intent).reason m.freshId, ?_,
        render_infix_requestMessage _ _⟩
      · simp [Ruling.evaluation, Ruling.requestId, Response.orNull]
      · simp [Ruling.evaluation, Ruling.decision, Ruling.reason, Evaluation.isBlocked]
    | _ => simp [Ruling.evaluation, Ruling.requestId, Response.orNull] at hnamed

/-- The answer to a message tells what `onMessage` found, if that is a command. -/
theorem answer_message (e : Engine) (m : Moment) (text : String) :
    (answer e m (.message text)).1 =
        ((e.onMessage m.now text).1.map Response.settled).getD .unhandled ∧
      (answer e m (.message text)).2.2 = (e.onMessage m.now text).2 := by
  simp only [answer]
  rcases e.onMessage m.now text with ⟨_ | resolution, after⟩ <;> exact ⟨rfl, rfl⟩

theorem tellsSettling (e : Engine) (m : Moment) (text : String) :
    TellsSettling m.now text e (answer e m (.message text)).2.2
      (answer e m (.message text)).1.toJson := by
  obtain ⟨hanswer, hstep⟩ := answer_message e m text
  have hhandled : (answer e m (.message text)).1.toJson.value? "handled" =
      some (.boolean ((e.onMessage m.now text).1.any (·.applied))) := by
    rw [hanswer]
    cases (e.onMessage m.now text).1 <;> simp
  obtain ⟨hnot, hsame⟩ | ⟨command, r, happlied, hr, hpending, hafter⟩ :=
    e.onMessage_cases m.now text
  · rw [hnot] at hhandled
    refine ⟨by rw [hhandled, hnot], hstep, ?_, fun _ => ⟨hhandled, hstep.trans hsame⟩⟩
    rw [hhandled, hstep, hsame]
    -- nothing was settled, as the ledger is the same
    constructor
    · simp
    · rintro ⟨id, verdict, -, -, r, hr, hpending, hsettled, -⟩
      rw [hr] at hsettled
      have hstatus := congrArg Request.status (Option.some.inj hsettled)
      rw [hpending] at hstatus
      exact absurd hstatus.symm (Status.ofVerdict_ne_pending verdict)
  · rw [happlied] at hanswer
    rw [happlied, Option.any_some] at hhandled
    refine ⟨by rw [hhandled, happlied, Option.any_some], hstep, ?_,
      fun hnot => absurd hhandled hnot⟩
    refine ⟨fun _ => ⟨command.id, command.verdict, ?_, ?_, r, hr, hpending, ?_, ?_⟩,
      fun _ => hhandled⟩
    · rw [hanswer]
      exact value?_settledId _
    · rw [hanswer]
      exact value?_command _
    · rw [hstep, hafter]
      exact (Ledger.get?_settle ..).trans (if_pos rfl)
    · intro i hi
      rw [hstep, hafter]
      exact (Ledger.get?_settle ..).trans (if_neg (Ne.symm hi))

theorem respond_of_error {line : String} {err : Json.Error}
    (h : Event.read line = .error err) (e : Engine) (m : Moment) :
    respond e m line = (.refused err, [], e) := by
  rw [respond, h]

theorem respond_of_event {line : String} {event : Event}
    (h : Event.read line = .ok event) (e : Engine) (m : Moment) :
    respond e m line = answer e m event := by
  rw [respond, h]

/-- Every engine `Agrees` with its answer, at every moment and on every line. -/
theorem agrees (e : Engine) (m : Moment) (line : String) : Agrees e m line := by
  refine ⟨oneLine_response _, ?_⟩
  cases hread : Event.read line with
  | error err => exact ⟨⟨_, rfl⟩, rfl⟩
  | ok event =>
    cases event with
    | beforeCall call intent => exact tellsDecision e m call intent
    | message text => exact tellsSettling e m text

/-! ## Requests that are named -/

/-- The answer to a message names the id of its command, and tells no `decision`. -/
theorem named_of_message (e : Engine) (m : Moment) (text : String) :
    (answer e m (.message text)).1.toJson.value? "requestId" =
        (Command.parse? text).map (fun command => .text command.id.render) ∧
      (answer e m (.message text)).1.toJson.value? "decision" = none := by
  rw [(answer_message e m text).1, Engine.onMessage]
  cases Command.parse? text with
  | none => simp [Response.toJson, Json.value?, Json.asObject?, Json.field?]
  | some command => simp [Response.toJson, Json.value?, Json.asObject?, Json.field?]

/-- A `.refused` line names no request and tells no `decision`. -/
theorem named_of_refused (err : Json.Error) :
    (Response.refused err).toJson.value? "requestId" = none ∧
      (Response.refused err).toJson.value? "decision" = none := by
  simp [Response.toJson, Json.value?, Json.asObject?, Json.field?]

end Host

end ToolGate

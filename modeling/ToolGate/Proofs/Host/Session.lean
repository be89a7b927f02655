/-
A session answers every line.

* `Arrival`, `World` — the lines that come in, with what the machine gives for each, and the machine
  around a session: its files, the lines to come, and what the host has been told. Its output stays
  open.
* `Serves` — turns one after another until the program ends.
* `Exchange`, `Session.exchanges` — the lines that are answered, each with the engine that it meets
  and the moment it comes in.
* `turn_of_blank`, `turn_of_line` — what one turn does.
* `exists_serves` — the answers that are written are those of the exchanges, in their order.
* `NewIds` — the id for a new request has not been met before. `requestId_ne_of_newIds`: then no
  request is named as an earlier one.
* `every_line_is_answered` — the result.
-/
import Mathlib
import ToolGate.Host.Session
import ToolGate.Proofs.Approval.Command
import ToolGate.Proofs.Host.Answers
import ToolGate.Storage.FileTree

namespace ToolGate.Host

open Approval

/-! ## The machine around a session -/

/-- A line that comes in. -/
structure Arrival where
  /-- The line with its end, and so not empty. -/
  raw : String
  raw_ne : raw ≠ ""
  now : Timestamp
  freshId : RequestId
  /-- What others do to the files before it comes in. -/
  others : FileTree → FileTree

/-- The line without its end, by `lineText`. -/
def Arrival.line (a : Arrival) : String := String.ofList (lineText a.raw.toList)

/-- The machine around a `Session`. -/
structure World where
  files : FileTree
  /-- The lines to come. -/
  arrivals : List Arrival
  now : Timestamp
  freshId : RequestId
  /-- What the host has been told. -/
  written : List Char
  complaints : List String

namespace World

/-- The machine before its first `Arrival`. -/
def start (files : FileTree) (arrivals : List Arrival) : World :=
  ⟨files, arrivals, ⟨0⟩, ⟨0⟩, [], []⟩

/-- The machine after an `Arrival` has come in. -/
def taking (w : World) (a : Arrival) (rest : List Arrival) : World :=
  { w with files := a.others w.files, arrivals := rest, now := a.now, freshId := a.freshId }

/-- The machine after a `Response`, with the journal written to `files`. -/
def told (w : World) (files : FileTree) (r : Response) : World :=
  { w with files, written := w.written ++ (r.render.toList ++ ['\n']) }

/-- An action on the files of a `World`. -/
def onFiles {α : Type} (action : StateM FileTree α) : StateM World α := fun w =>
  let (a, files) := action w.files
  (a, { w with files })

instance : Storage (StateM World) where
  pathExists path := onFiles (Storage.pathExists path)
  createFolders path := onFiles (Storage.createFolders path)
  readText path := onFiles (Storage.readText path)
  writeText path text := onFiles (Storage.writeText path text)
  appendText path more := onFiles (Storage.appendText path more)
  snapshot path := onFiles (Storage.snapshot path)

instance : Console (StateM World) where
  nextLine := fun w =>
    match w.arrivals with
    | [] => (.empty, w)
    | a :: rest => (a.raw.toUTF8, w.taking a rest)
  now := fun w => (w.now, w)
  freshId := fun w => (w.freshId, w)
  write text := fun w => (true, { w with written := w.written ++ text.toList })
  complain text := fun w => ((), { w with complaints := w.complaints ++ [text] })

end World

/-- The program's `Session.turn`, in this `World`. -/
def World.turn (w : World) (s : Session) : Turn × World := (s.turn : StateM World Turn) w

/-- Turns of a session until it stops with a code. -/
inductive Serves : Session → World → UInt32 → World → Prop where
  | stop {s : Session} {w w' : World} {code : UInt32} (h : w.turn s = (.stop code, w')) :
      Serves s w code w'
  | goOn {s s' : Session} {w w' w'' : World} {code : UInt32} (h : w.turn s = (.goOn s', w'))
      (hrest : Serves s' w' code w'') : Serves s w code w''

/-- A session `Serves` in one way only. -/
theorem Serves.unique {s : Session} {w w₁ w₂ : World} {code₁ code₂ : UInt32}
    (h₁ : Serves s w code₁ w₁) (h₂ : Serves s w code₂ w₂) : code₁ = code₂ ∧ w₁ = w₂ := by
  induction h₁ with
  | stop h =>
    cases h₂ with
    | stop h' =>
      rw [h] at h'
      cases h'
      exact ⟨rfl, rfl⟩
    | goOn h' _ =>
      rw [h] at h'
      cases h'
  | goOn h _ ih =>
    cases h₂ with
    | stop h' =>
      rw [h] at h'
      cases h'
    | goOn h' hrest' =>
      rw [h] at h'
      cases h'
      exact ih hrest'

/-! ## Exchanges -/

/-- A line that is answered, with the engine that it meets and its moment. -/
structure Exchange where
  engine : Engine
  moment : Moment
  line : String

namespace Exchange

/-- What `respond` gives for the line. -/
def outcome (x : Exchange) : Response × List Notice × Engine := respond x.engine x.moment x.line

/-- The answer as JSON. -/
def answer (x : Exchange) : Json := x.outcome.1.toJson

end Exchange

namespace Session

/-- The `Exchange` about a line, after sweeps that have fallen due. -/
def exchange (s : Session) (files : FileTree) (now : Timestamp) (freshId : RequestId)
    (line : String) : Exchange :=
  let engine := (s.catchUp now).engine
  ⟨engine, ⟨now, freshId, engine.source.path?.bind files.snapshot⟩, line⟩

/-- The session after an `Exchange`. -/
def past (s : Session) (x : Exchange) : Session :=
  { s.catchUp x.moment.now with engine := x.outcome.2.2 }

/-- The files after the journal entries of an `Exchange`. -/
def noted (s : Session) (x : Exchange) (files : FileTree) : FileTree :=
  ((note (s.catchUp x.moment.now).journal x.moment.now x.outcome.2.1 :
    StateM FileTree Unit) files).2

/-- Every `Exchange` of a session, given its arrivals. -/
def exchanges (s : Session) (files : FileTree) : List Arrival → List Exchange
  | [] => []
  | a :: rest =>
    let files := a.others files
    if isBlankLine a.line then s.exchanges files rest
    else
      let x := s.exchange files a.now a.freshId a.line
      x :: (s.past x).exchanges (s.noted x files) rest

end Session

/-! ## One turn -/

theorem run_bind {α β : Type} (action : StateM World α) (f : α → StateM World β) (w : World) :
    (action >>= f) w = f (action w).1 (action w).2 := rfl

/-- In a `World`, `Session.note` acts by `onFiles`. -/
theorem note_eq (journal : Option String) (now : Timestamp) (notices : List Notice) :
    (Session.note journal now notices : StateM World Unit) =
      World.onFiles (Session.note journal now notices) := by
  cases journal with
  | none => rfl
  | some path =>
    unfold Session.note
    induction notices with
    | nil => rfl
    | cons n rest ih =>
      funext w
      simp only [List.forIn_cons] at ih ⊢
      let next : StateM FileTree (Except StorageError Unit) :=
        Storage.appendText path (now.render ++ " " ++ n.render ++ "\n")
      exact congrFun ih { w with files := (next w.files).2 }

theorem now_eq (w : World) : (Console.now : StateM World Timestamp) w = (w.now, w) := rfl

theorem freshId_eq (w : World) :
    (Console.freshId : StateM World RequestId) w = (w.freshId, w) := rfl

theorem write_eq (text : String) (w : World) :
    (Console.write text : StateM World Bool) w =
      (true, { w with written := w.written ++ text.toList }) := rfl

theorem look_eq (s : Session) (now : Timestamp) (freshId : RequestId) (w : World) :
    (s.look now freshId : StateM World Moment) w =
      (⟨now, freshId, s.engine.source.path?.bind w.files.snapshot⟩, w) := by
  unfold Session.look
  cases s.engine.source.path? with
  | none => rfl
  | some path => rfl

theorem receive_of_blank {s : Session} {line : String} (h : isBlankLine line = true)
    (now : Timestamp) (freshId : RequestId) (w : World) :
    (s.receive now freshId line : StateM World (Option Response × Session)) w = ((none, s), w) := by
  simp only [Session.receive, h, if_true]
  rfl

theorem receive_of_line {s : Session} {line : String} (h : isBlankLine line = false)
    (now : Timestamp) (freshId : RequestId) (w : World) :
    let x := s.exchange w.files now freshId line
    (s.receive now freshId line : StateM World (Option Response × Session)) w =
      ((some x.outcome.1, s.past x), { w with files := s.noted x w.files }) := by
  intro x
  simp only [Session.receive, h, Bool.false_eq_true, if_false]
  rw [run_bind, look_eq, run_bind, note_eq]
  rfl

/-- Without arrivals, `turn` stops with code 0. -/
theorem turn_of_end {w : World} (h : w.arrivals = []) (s : Session) : w.turn s = (.stop 0, w) := by
  have hnext : (Console.nextLine : StateM World ByteArray) w = (.empty, w) := by
    simp only [Console.nextLine, h]
  simp only [World.turn, Session.turn]
  rw [run_bind, hnext]
  rfl

theorem fromUTF8?_toUTF8 (s : String) : String.fromUTF8? s.toUTF8 = some s := by
  have hvalid : s.toUTF8.IsValidUTF8 := s.isValidUTF8
  rw [String.fromUTF8?, dif_pos hvalid]
  rfl

/-- With an arrival, `turn` is `receive` of its `line`. -/
theorem turn_of_arrival {w : World} {a : Arrival} {rest : List Arrival} (h : w.arrivals = a :: rest)
    (s : Session) :
    w.turn s =
      ((s.receive a.now a.freshId a.line : StateM World (Option Response × Session)) >>=
        fun answered =>
        match answered.1 with
        | none => pure (.goOn answered.2)
        | some r => do
          if ← Console.write (r.render ++ "\n") then pure (.goOn answered.2) else pure (.stop 0))
        (w.taking a rest) := by
  have hnext : (Console.nextLine : StateM World ByteArray) w = (a.raw.toUTF8, w.taking a rest) := by
    simp only [Console.nextLine, h]
  have hnonempty : a.raw.toUTF8.isEmpty = false := by
    have hsize : a.raw.utf8ByteSize ≠ 0 := by simpa using a.raw_ne
    simpa [ByteArray.isEmpty] using hsize
  simp only [World.turn, Session.turn]
  rw [run_bind, hnext]
  simp only [hnonempty, fromUTF8?_toUTF8, Bool.false_eq_true, if_false]
  rw [run_bind, now_eq, run_bind, freshId_eq]
  rfl

/-- A blank line is passed over. -/
theorem turn_of_blank {w : World} {a : Arrival} {rest : List Arrival} (h : w.arrivals = a :: rest)
    (hblank : isBlankLine a.line = true) (s : Session) : w.turn s = (.goOn s, w.taking a rest) := by
  rw [turn_of_arrival h, run_bind, receive_of_blank hblank]
  rfl

/-- Any other line has its `exchange`, and one line is written. -/
theorem turn_of_line {w : World} {a : Arrival} {rest : List Arrival} (h : w.arrivals = a :: rest)
    (hline : isBlankLine a.line = false) (s : Session) :
    let files := a.others w.files
    let x := s.exchange files a.now a.freshId a.line
    w.turn s = (.goOn (s.past x), (w.taking a rest).told (s.noted x files) x.outcome.1) := by
  intro files x
  rw [turn_of_arrival h, run_bind, receive_of_line hline]
  show (Console.write (x.outcome.1.render ++ "\n") >>= _ : StateM World Turn) _ = _
  rw [run_bind, write_eq, String.toList_append]
  rfl

/-! ## All turns -/

/-- Every session `Serves` all its arrivals and stops with code 0, having written the answers of its
`exchanges`. -/
theorem exists_serves :
    ∀ {arrivals : List Arrival} {w : World}, w.arrivals = arrivals → ∀ s : Session,
    ∃ w', Serves s w 0 w' ∧
      w'.written = w.written ++
        (s.exchanges w.files arrivals).flatMap fun x => x.outcome.1.render.toList ++ ['\n'] := by
  intro arrivals
  induction arrivals with
  | nil =>
    intro w h s
    exact ⟨w, .stop (turn_of_end h s), by simp [Session.exchanges]⟩
  | cons a rest ih =>
    intro w h s
    cases hblank : isBlankLine a.line with
    | true =>
      obtain ⟨w', hserves, hwritten⟩ := ih (w := w.taking a rest) rfl s
      refine ⟨w', .goOn (turn_of_blank h hblank s) hserves, ?_⟩
      rw [hwritten]
      simp [Session.exchanges, hblank, World.taking]
    | false =>
      let files := a.others w.files
      let x := s.exchange files a.now a.freshId a.line
      obtain ⟨w', hserves, hwritten⟩ :=
        ih (w := (w.taking a rest).told (s.noted x files) x.outcome.1) rfl (s.past x)
      refine ⟨w', .goOn (turn_of_line h hblank s) hserves, ?_⟩
      rw [hwritten]
      simp [Session.exchanges, hblank, World.told, World.taking, files, x]

/-- There is one of the `exchanges` for each line that is not blank, in order, with the id that came
with it. -/
theorem map_exchanges (arrivals : List Arrival) : ∀ (s : Session) (files : FileTree),
    (s.exchanges files arrivals).map (fun x => (x.line, x.moment.freshId)) =
      (arrivals.filter fun a => !isBlankLine a.line).map fun a => (a.line, a.freshId) := by
  induction arrivals with
  | nil => intro s files; rfl
  | cons a rest ih =>
    intro s files
    cases hblank : isBlankLine a.line <;> simp [Session.exchanges, Session.exchange, hblank, ih]

/-- Lines without line feeds are found again by `splitOn`. -/
theorem splitOn_lines {lines : List (List Char)} (h : ∀ l ∈ lines, '\n' ∉ l) :
    (lines.flatMap fun l => l ++ ['\n']).splitOn '\n' = lines ++ [[]] := by
  induction lines with
  | nil => rfl
  | cons l rest ih =>
    have hrest := ih fun l' hl' => h l' (List.mem_cons_of_mem l hl')
    rw [List.flatMap_cons, List.append_assoc, List.singleton_append,
      List.splitOn_append_cons_self_of_not_mem (h l List.mem_cons_self), hrest, List.cons_append]

/-! ## Ids -/

/-- Ids are written by an injective `render`. -/
theorem render_inj {id id' : RequestId} (h : id.render = id'.render) : id = id' := by
  have hscan := RequestId.scan_toChars (Approval.inAnyCase_toChars id) []
  have hscan' := RequestId.scan_toChars (Approval.inAnyCase_toChars id') []
  rw [String.ofList_inj.mp h, hscan'] at hscan
  cases hscan
  rfl

/-- What ids the gate meets with a line: the fresh one, and one that a command names. -/
def idsWith (line : String) (freshId : RequestId) : List RequestId :=
  freshId ::
    match Event.read line with
    | .ok (.message text) => ((Command.parse? text).map (·.id)).toList
    | _ => []

/-- No fresh id is among the `idsWith` an earlier line. -/
def NewIds (arrivals : List Arrival) : Prop :=
  arrivals.Pairwise fun a b => b.freshId ∉ idsWith a.line a.freshId

instance (arrivals : List Arrival) : Decidable (NewIds arrivals) :=
  inferInstanceAs (Decidable (arrivals.Pairwise fun a b => b.freshId ∉ idsWith a.line a.freshId))

/-- The id that an answer names is among `idsWith` its line. -/
theorem mem_idsWith_of_named {x : Exchange} {name : String}
    (h : x.answer.value? "requestId" = some (.text name)) :
    ∃ id ∈ idsWith x.line x.moment.freshId, id.render = name := by
  unfold Exchange.answer Exchange.outcome at h
  cases hread : Event.read x.line with
  | error err =>
    rw [respond_of_error hread, (named_of_refused err).1] at h
    cases h
  | ok event =>
    rw [respond_of_event hread] at h
    cases event with
    | beforeCall call intent =>
      have htells := tellsDecision x.engine x.moment call intent
      have hnamed := (htells.pending (by rw [h]; simp)).1
      rw [h] at hnamed
      exact ⟨_, List.mem_cons_self, (Json.text.inj (Option.some.inj hnamed)).symm⟩
    | message text =>
      rw [(named_of_message x.engine x.moment text).1] at h
      obtain ⟨command, hparse, hname⟩ := Option.map_eq_some_iff.mp h
      exact ⟨command.id, by simp [idsWith, hread, hparse], Json.text.inj hname⟩

/-- An answer with `require_approval` names the fresh id. -/
theorem named_of_asks {x : Exchange}
    (h : x.answer.value? "decision" = some (.text "require_approval")) :
    x.answer.value? "requestId" = some (.text x.moment.freshId.render) := by
  unfold Exchange.answer Exchange.outcome at h ⊢
  cases hread : Event.read x.line with
  | error err =>
    rw [respond_of_error hread, (named_of_refused err).2] at h
    cases h
  | ok event =>
    rw [respond_of_event hread] at h ⊢
    cases event with
    | beforeCall call intent =>
      have htells := tellsDecision x.engine x.moment call intent
      exact (htells.pending (htells.request_iff.mpr h)).1
    | message text =>
      rw [(named_of_message x.engine x.moment text).2] at h
      cases h

/-- With `NewIds`, an answer with `require_approval` names no id that an earlier one named. -/
theorem requestId_ne_of_newIds {arrivals : List Arrival} (hnew : NewIds arrivals) (s : Session)
    (files : FileTree) :
    (s.exchanges files arrivals).Pairwise fun x y =>
      y.answer.value? "decision" = some (.text "require_approval") →
        y.answer.value? "requestId" ≠ x.answer.value? "requestId" := by
  have hpairs : ((s.exchanges files arrivals).map fun x => (x.line, x.moment.freshId)).Pairwise
      fun p q => q.2 ∉ idsWith p.1 p.2 := by
    rw [map_exchanges, List.pairwise_map]
    exact List.Pairwise.filter _ hnew
  refine (List.pairwise_map.mp hpairs).imp ?_
  intro x y hfresh hasks hsame
  rw [named_of_asks hasks] at hsame
  obtain ⟨id, hmem, hname⟩ := mem_idsWith_of_named hsame.symm
  rw [render_inj hname] at hmem
  exact hfresh hmem

/-- Every engine `Agrees` with its answers. With `NewIds`, and whatever others do to the files, a
session `Serves` in exactly one way and stops with code 0; cut at line feeds, what it wrote are the
answers to the lines that are not blank, in order, and no two that ask for approval name one
request. -/
theorem every_line_is_answered (s : Session) (files : FileTree) {arrivals : List Arrival}
    (hnew : NewIds arrivals) :
    (∀ e m line, Agrees e m line) ∧
      ∃ w, Serves s (.start files arrivals) 0 w ∧
        (∀ code w', Serves s (.start files arrivals) code w' → code = 0 ∧ w' = w) ∧
        ∃ exchanges, exchanges = s.exchanges files arrivals ∧
          exchanges.map (·.line) = (arrivals.map (·.line)).filter (!isBlankLine ·) ∧
          w.written.splitOn '\n' = exchanges.map (·.answer.render) ++ [[]] ∧
          exchanges.Pairwise fun x y =>
            y.answer.value? "decision" = some (.text "require_approval") →
              y.answer.value? "requestId" ≠ x.answer.value? "requestId" := by
  refine ⟨agrees, ?_⟩
  obtain ⟨w, hserves, hwritten⟩ := exists_serves (w := .start files arrivals) rfl s
  refine ⟨w, hserves, ?_, _, rfl, ?_, ?_, requestId_ne_of_newIds hnew s files⟩
  · intro code w' hserves'
    obtain ⟨hcode, hw⟩ := hserves.unique hserves'
    exact ⟨hcode.symm, hw.symm⟩
  · have hlines := congrArg (List.map Prod.fst) (map_exchanges arrivals s files)
    simpa [List.filter_map, Function.comp_def] using hlines
  · have hrender : ∀ x : Exchange, x.outcome.1.render.toList = x.answer.render := by
      intro x
      rw [Response.render, Json.toText, String.toList_ofList]
      rfl
    rw [hwritten]
    simp only [hrender]
    show (List.flatMap _ (s.exchanges files arrivals)).splitOn '\n' = _
    rw [← splitOn_lines, List.flatMap_map]
    intro l hl
    obtain ⟨x, -, rfl⟩ := List.mem_map.mp hl
    exact (Json.oneLine_render _).not_newLine

/-- A call, a blank line and a message have two answers. -/
theorem every_line_is_answered_of_three :
    let s : Session := .ofSettings ⟨[("HOME", "/home/user")], none⟩ .usual ⟨0⟩ none
    let arrivals : List Arrival := [
      ⟨"\x7b\"event\":\"before_tool_call\",\"toolName\":\"exec\"\x7d\n", by decide, ⟨1⟩, ⟨1⟩, id⟩,
      ⟨" \r\n", by decide, ⟨2⟩, ⟨2⟩, id⟩,
      ⟨"\x7b\"event\":\"message_received\",\"content\":\"deny\"\x7d\n", by decide, ⟨3⟩, ⟨3⟩, id⟩]
    NewIds arrivals ∧
      ∃ w, Serves s (.start .empty arrivals) 0 w ∧ (w.written.splitOn '\n').length = 3 := by
  intro s arrivals
  have hnew : NewIds arrivals := by decide +kernel
  obtain ⟨-, w, hserves, -, exchanges, -, hlines, hwritten, -⟩ :=
    every_line_is_answered s .empty hnew
  have hcount : ((arrivals.map (·.line)).filter (!isBlankLine ·)).length = 2 := by decide +kernel
  have hlength : exchanges.length = 2 := by
    rw [← hcount, ← hlines, List.length_map]
  refine ⟨hnew, w, hserves, ?_⟩
  rw [hwritten, List.length_append, List.length_map, hlength]
  rfl

end ToolGate.Host

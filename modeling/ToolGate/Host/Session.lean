/-
A session with a host: events come in one a line, and each is answered.

* `Session.start` — read the user's settings and open the journal.
* `Session.receive` — answer one line. Sweeps that have fallen due since the last line come first.
* `Session.turn` — take the next line and answer it.
* `lineText` — a line without its end.

Files are used through `Storage` and streams through `Console`, which gives the time and fresh ids
as well.
-/
import ToolGate.Host.CommandLine
import ToolGate.Host.Console
import ToolGate.Host.Response
import ToolGate.Settings.Places
import ToolGate.Storage.Basic

namespace ToolGate.Host

/-- A session with a host. -/
structure Session where
  engine : Engine
  /-- How long requests live. -/
  expiry : Approval.ExpiryPolicy
  /-- The milliseconds between sweeps. -/
  sweepPeriod : Int
  /-- When the last sweep fell due, or the session started. -/
  sweptAt : Timestamp
  /-- The file of the journal, if there is one that can be written. -/
  journal : Option String

/-- What to do after a turn. -/
inductive Turn where
  | goOn (s : Session)
  /-- End the program with a code. -/
  | stop (code : UInt32)

/-- A line without its end. -/
def lineText (line : List Char) : List Char :=
  match line.reverse with
  | '\n' :: '\r' :: cs => cs.reverse
  | '\n' :: cs => cs.reverse
  | _ => line

/-- There is nothing on the line. -/
def isBlankLine (line : String) : Bool := (Text.trim line.toList).isEmpty

namespace Session

/-- A session before its first line. -/
def ofSettings (env : Environment) (s : Settings) (now : Timestamp) (journal : Option String) :
    Session where
  engine := s.engine env
  expiry := s.expiry
  sweepPeriod := s.sweepPeriod * 1000
  sweptAt := now
  journal

/-- The entry that a session starts with. -/
def readyNotice (env : Environment) (s : Settings) : Notice :=
  ⟨.info, "ready: rules=" ++ s.rulesFile env ++ " default=" ++ s.fallback.name⟩

/-- The session with the sweep that has last fallen due. -/
def catchUp (s : Session) (now : Timestamp) : Session :=
  let due := now.since s.sweptAt / s.sweepPeriod
  if 0 < due then
    let sweptAt := s.sweptAt.plus (due * s.sweepPeriod)
    { s with engine := (s.engine.sweep s.expiry sweptAt).2, sweptAt }
  else s

section

variable {m : Type → Type} [Monad m] [Storage m]

/-- The file of the journal, if it can be written. -/
def openJournal (env : Environment) : m (Option String) := do
  match Settings.journalFile? env with
  | none => pure none
  | some path =>
    if let some folder := Storage.parent? path then
      let _ ← Storage.createFolders folder
    match ← Storage.appendText path "" with
    | .ok () => pure (some path)
    | .error _ => pure none

/-- What the user's file says. -/
def readUserFile (env : Environment) : m Settings.UserFile := do
  match Settings.userFile? env with
  | none => pure .absent
  | some path =>
    let text ← Storage.readText path
    pure (.ofText? text.toOption)

/-- Write entries to the journal. What cannot be written is lost. -/
def note (journal : Option String) (now : Timestamp) (notices : List Notice) : m Unit :=
  match journal with
  | none => pure ()
  | some path => do
    for n in notices do
      let _ ← Storage.appendText path (now.render ++ " " ++ n.render ++ "\n")

/-- Start a session, and tell what the user's file says. -/
def start (env : Environment) (flags : Flags) (now : Timestamp) :
    m (Session × Settings.UserFile) := do
  let journal ← openJournal env
  let userFile ← readUserFile env
  let settings := flags.apply (.withUserFile userFile)
  note journal now [readyNotice env settings]
  pure (ofSettings env settings now journal, userFile)

/-- What the outside gives when a line comes in. -/
def look (s : Session) (now : Timestamp) (freshId : RequestId) : m Moment := do
  match s.engine.source.path? with
  | none => pure ⟨now, freshId, none⟩
  | some path =>
    let seen ← Storage.snapshot path
    pure ⟨now, freshId, seen⟩

/-- Answer a line; one with nothing on it needs no answer. -/
def receive (s : Session) (now : Timestamp) (freshId : RequestId) (line : String) :
    m (Option Response × Session) := do
  if isBlankLine line then pure (none, s)
  else
    let s := s.catchUp now
    let moment ← s.look now freshId
    let (response, notices, engine) := respond s.engine moment line
    note s.journal now notices
    pure (some response, { s with engine })

variable [Console m]

/-- Take the next line and answer it. The program ends when there are no more lines, when one is no
text, and when nobody reads the answers. -/
def turn (s : Session) : m Turn := do
  let bytes ← Console.nextLine
  if bytes.isEmpty then pure (.stop 0)
  else
    match String.fromUTF8? bytes with
    | none =>
      Console.complain ("failed to read stdin: " ++ StorageError.notText.message)
      pure (.stop 1)
    | some line =>
      let now ← Console.now
      let freshId ← Console.freshId
      let (response, s) ← s.receive now freshId (String.ofList (lineText line.toList))
      match response with
      | none => pure (.goOn s)
      | some r => if ← Console.write (r.render ++ "\n") then pure (.goOn s) else pure (.stop 0)

end

end Session

end ToolGate.Host

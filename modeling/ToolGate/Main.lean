/-
The program: a gate between a host and its tools.

Everything that is decided is decided elsewhere; here are the files, the clock, the random bytes
and the streams of the machine.
-/
import Std.Time.DateTime.Timestamp
import ToolGate.Account
import ToolGate.Host.Session

namespace ToolGate

/-- A failure of the machine as a failure of an operation on files. -/
def storageErrorOf : IO.Error → StorageError
  | .noFileOrDirectory _ _ _ => .notFound
  | .noSuchThing _ _ _ => .notFound
  | .alreadyExists _ _ _ => .alreadyExists
  | .inappropriateType _ code detail =>
    if code = 21 then .isAFolder else if code = 20 then .notAFolder else .other detail
  | e => .other (toString e)

/-- An operation on files with its failure as a value. -/
def trying {α : Type} (action : IO α) : IO (Except StorageError α) := do
  match ← action.toBaseIO with
  | .ok a => pure (.ok a)
  | .error e => pure (.error (storageErrorOf e))

/-- What stands at a path of the machine. -/
def snapshotOf (path : String) : IO Snapshot := do
  let place ← IO.FS.realPath path
  let about ← place.metadata
  let modified := about.modified.sec * 1000000000 + about.modified.nsec.toNat
  let text ← match ← (IO.FS.readBinFile path).toBaseIO with
    | .ok bytes => pure (String.fromUTF8? bytes)
    | .error _ => pure none
  pure ⟨⟨some modified, about.byteSize.toNat⟩, text⟩

instance : Storage IO where
  pathExists path := do return (← trying (IO.FS.realPath path)).toOption.isSome
  createFolders path := trying (IO.FS.createDirAll path)
  readText path := do
    match ← trying (IO.FS.readBinFile path) with
    | .error e => pure (.error e)
    | .ok bytes =>
      match String.fromUTF8? bytes with
      | some text => pure (.ok text)
      | none => pure (.error .notText)
  writeText path text := trying (IO.FS.writeFile path text)
  appendText path text := trying do
    let handle ← IO.FS.Handle.mk path .append
    handle.putStr text
  snapshot path := do return (← trying (snapshotOf path)).toOption

/-- The time of the machine's clock. -/
def currentTime : IO Timestamp := do
  let t ← Std.Time.Timestamp.now
  pure ⟨t.toMillisecondsSinceUnixEpoch.val⟩

/-- An id that no request has had, as far as chance can tell. -/
def freshRequestId : IO RequestId := do
  let bytes ← IO.getRandomBytes 16
  let n := bytes.toList.foldl (fun n b => n * 256 + b.toNat) 0
  pure (.random (BitVec.ofNat 128 n))

/-- The home folder of the account that the program runs as, if the machine has a list of accounts
that can be read. -/
def accountHome? : IO (Option String) := do
  match ← Storage.readText "/proc/self/status", ← Storage.readText "/etc/passwd" with
  | .ok report, .ok accounts => pure ((Account.numberIn? report).bind (Account.homeIn? accounts))
  | _, _ => pure none

/-- The variables that the settings can refer to, with their values. -/
def readEnvironment (names : List String) : IO Environment := do
  let mut bindings := []
  for name in names do
    if let some value ← IO.getEnv name then
      bindings := (name, value) :: bindings
  pure ⟨bindings, ← accountHome?⟩

/-- The bytes of the next line with its end, after some that were read. -/
partial def readLine (stream : IO.FS.Stream) (read : ByteArray) : IO ByteArray := do
  let more ← stream.read 1
  if more.isEmpty then pure read
  else if more.toList = [10] then pure (read ++ more)
  else readLine stream (read ++ more)

/-- Write a text at once; false if nobody reads it. -/
def writeOut (stream : IO.FS.Stream) (text : String) : IO Bool := do
  let written ← EIO.toBaseIO do
    stream.putStr text
    stream.flush
  match written with
  | .ok () => pure true
  | .error _ => pure false

instance : Host.Console IO where
  nextLine := do readLine (← IO.getStdin) .empty
  now := currentTime
  freshId := freshRequestId
  write text := do writeOut (← IO.getStdout) text
  complain := IO.eprintln

/-- One turn after another; the result is the code to end with. -/
partial def serve (s : Host.Session) : IO UInt32 := do
  match ← s.turn with
  | .goOn s => serve s
  | .stop code => pure code

/-- The names of the variables on which the settings depend. -/
def variableNames (flags : Host.Flags) (file : Settings.UserFile) : List String :=
  let s := flags.apply (.withUserFile file)
  Environment.homeVariable :: (Text.Template.ofText s.rulesPath.toList).names

/-- Serve a host with the settings of the command line and of the user's file. -/
def runSession (flags : Host.Flags) : IO UInt32 := do
  let home ← readEnvironment [Environment.homeVariable]
  let env ← readEnvironment (variableNames flags (← Host.Session.readUserFile home))
  let (s, file) ← Host.Session.start env flags (← currentTime)
  if file = .unreadable then
    IO.eprintln (Host.programName ++ ": config parse error")
  serve s

end ToolGate

/-- The program. -/
def main (words : List String) : IO UInt32 :=
  match ToolGate.Host.Invocation.ofWords words with
  | .help => do
    IO.println ToolGate.Host.usage
    pure 0
  | .misuse m => do
    IO.eprintln m.message
    pure 2
  | .serve flags => ToolGate.runSession flags

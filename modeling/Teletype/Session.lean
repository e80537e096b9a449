import Teletype.KeyInput
import Teletype.Session.Exit

/-!
# Running a session

The first size starts the child. Bytes of the child go through the emulator, its
replies go back to the child, and then the host is told: once for each event, in
order, and at last that the text has changed. When the child has ended, what it
still printed comes first.
-/

namespace Teletype

/-- Why a host's request was refused. -/
inductive SessionError where
  | invalidCodePoint (cause : InvalidCodePoint)
  | pty (cause : PtyError)
  deriving Repr, DecidableEq

/-- How the error is told. -/
def SessionError.message : SessionError → String
  | .invalidCodePoint cause => cause.message
  | .pty cause => "PTY error: " ++ cause.message

namespace Session

/-! ## To the child -/

/-- Stores bytes for the child as far as there is room. -/
def send (s : Session) (w : ByteQueue.Writing) : Session :=
  match s.toChild.writeTurn w with
  | (toChild, .waiting rest) => { s with toChild, unsent := some rest }
  | (toChild, _) => { s with toChild, unsent := none }

/-- Goes on with what waited for room. -/
def resume (s : Session) : Session :=
  match s.unsent with
  | some w => s.send w
  | none => s

/-- Sends bytes to the child; where there is none they are lost. -/
def write (s : Session) (bytes : List UInt8) : Session :=
  if s.isRunning && !bytes.isEmpty then s.send { rest := bytes } else s

/-- Sends a key to the child. -/
def writeKey (s : Session) (escape : Bool) (codePoint : Nat) : Except SessionError Session :=
  match KeyInput.encode escape codePoint with
  | .ok bytes => .ok (s.write bytes)
  | .error e => .error (.invalidCodePoint e)

/-! ## From the child -/

/-- Takes in all that has come from the child. Where there is nothing, nothing
happens. -/
def processInput (s : Session) : Step :=
  match s.emulator, s.fromChild.drain chunkSize with
  | some e, (fromChild, chunk :: chunks) =>
    let (replies, e) := ((chunk :: chunks).foldl Emulator.append e).takeReplies
    let s := { s with emulator := some e, fromChild }.write replies
    s.dispatchEvents.andThen (·.notify .textChanged)
  | _, _ => (s, [])

/-- Handles a message. Once the session is no longer running, messages that come
late mean nothing. -/
def handle (s : Session) (message : Message) : Step :=
  if s.isRunning then
    match message with
    | .newInput => s.processInput
    | .processExited code => s.processInput.andThen (·.finish code (exitDescription code))
  else (s, [])

/-! ## Sizes and resets -/

/-- Begins at a size, with the child that was spawned or the failure to spawn
one. -/
def start (s : Session) (size : WindowSize) (spawned : Except PtyError Nat) : Step :=
  let s := { s with
    emulator := some (.initial size.cols.toNat size.rows.toNat s.config.transcriptRows) }
  match spawned with
  | .ok pid => ({ s with state := .running pid }, [])
  | .error e =>
    s.finish spawnFailureCode
      ("Failed to start " ++ s.config.executable ++ ": " ++ e.message
        ++ exitDescription spawnFailureCode)

/-- Gives the screen a new size. -/
def resize (s : Session) (size : WindowSize) : Session :=
  { s with emulator := s.emulator.map (·.resize size.cols.toNat size.rows.toNat) }

/-- Resets the screen. -/
def reset (s : Session) : Step :=
  ({ s with emulator := s.emulator.map Emulator.reset }.dispatchEvents).andThen
    (·.notify .textChanged)

end Session

end Teletype

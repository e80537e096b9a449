import Teletype.Proofs.Emulator.Run
import Teletype.Session

/-!
# A session and its workers

Three workers serve a session whose child runs: a reader that moves what the child
prints into a queue, a writer that moves what is sent out of the other queue, and a
waiter that reports the child's end. They and the session itself each go their own
way. What one of them does without being seen by the others is a step here: a turn
at a queue, a message, a look at a flag. Who goes next is left open: a run is any
list of moves.

A session handles one message at a time, in steps: it reads the queue until it finds
nothing there, answers the child, and tells its host. The end of the child takes
more: the session reads the queue again and again until the reader is gone, or until
it loses its patience with a reader that does not get on.

Beside the state there is a record of what went by: the bytes that were printed, read
and handed on, all that reached the emulator, and all that the host was told.
-/

namespace Teletype

/-- Why a session reads its queue. -/
inductive Traffic.Purpose where
  /-- There was a message about new bytes. -/
  | message
  /-- The child has ended. The flag says whether the reader was gone before the queue
  was read. -/
  | exit (code : Int) (readerGone : Bool)
  deriving Repr, DecidableEq

/-- Where a session stands with the message that it handles. -/
inductive Traffic.Task where
  | idle
  /-- It reads the queue. The flag says whether it found anything so far. -/
  | taking (found : Bool) (purpose : Traffic.Purpose)
  /-- It has answered the child, and the host is still to be told. -/
  | telling (purpose : Traffic.Purpose)
  /-- The child has ended, and the session is about to see whether the reader is
  gone. -/
  | draining (code : Int)
  /-- It has read the queue once more since. -/
  | drained (code : Int) (readerGone : Bool)
  deriving Repr, DecidableEq

/-- Where the reader stands. -/
inductive Traffic.Reader where
  | reading
  /-- It has these bytes, which are to be stored. -/
  | storing (rest : List UInt8)
  /-- It has stored a chunk, and the session is still to be told. -/
  | telling
  /-- There is no more to read. -/
  | leaving
  /-- The flag that it is gone is set. -/
  | gone
  deriving Repr, DecidableEq

/-- Where the writer stands. -/
inductive Traffic.Writer where
  | waiting
  /-- It has these bytes, which the child is to get. -/
  | delivering (bytes : List UInt8)
  | gone
  deriving Repr, DecidableEq

/-- Where the waiter stands. -/
inductive Traffic.Waiter where
  | waiting
  /-- The child has ended, which is still to be reported. -/
  | reporting (code : Int)
  | gone
  deriving Repr, DecidableEq

/-- A session, its workers, and a record of what went by. -/
structure Traffic where
  session : Session
  task : Traffic.Task := .idle
  reader : Traffic.Reader := .reading
  writer : Traffic.Writer := .waiting
  waiter : Traffic.Waiter := .waiting
  /-- What was printed that the reader has not read. -/
  unread : List UInt8 := []
  /-- Whether nobody is left who could print. -/
  hungUp : Bool := false
  /-- Whether the device failed a read, with something left to read or to print. -/
  readFailed : Bool := false
  /-- All that was ever printed. -/
  printed : List UInt8 := []
  /-- All that the reader has read. -/
  read : List UInt8 := []
  /-- All that the writer has handed to the child. -/
  delivered : List UInt8 := []
  /-- All that has reached the emulator since it began. -/
  fed : List Emulator.Input := []
  /-- All that the host was told. -/
  notices : List Notice := []
  deriving DecidableEq

namespace Traffic

/-- The bytes that the reader has read and not stored yet. -/
def Reader.unqueued : Reader → List UInt8
  | .storing rest => rest
  | _ => []

/-- The bytes among what reached an emulator. -/
def appended (inputs : List Emulator.Input) : List UInt8 :=
  inputs.flatMap fun
    | .append bytes => bytes
    | _ => []

/-- A session whose child has just been started, at a size. -/
def start (config : Config) (size : WindowSize) (pid : Nat) : Traffic :=
  { session := ((Session.initial config).start size (.ok pid)).1 }

/-! ## The workers -/

/-- The reader reads up to so many bytes, if there are any. -/
def readChunk (t : Traffic) (count : Nat) : Traffic :=
  let count := min count Session.chunkSize
  match t.reader, t.unread.take count with
  | .reading, byte :: bytes =>
    { t with
      reader := .storing (byte :: bytes)
      unread := t.unread.drop count
      read := t.read ++ byte :: bytes }
  | _, _ => t

/-- The reader goes on with what it has read, or leaves. -/
def readerTurn (t : Traffic) : Traffic :=
  match t.reader with
  | .storing rest =>
    match t.session.fromChild.writeTurn { rest } with
    | (fromChild, .done _) => { t with session := { t.session with fromChild }, reader := .telling }
    | (_, .closed) => { t with reader := .leaving }
    | (fromChild, .waiting w) =>
      { t with session := { t.session with fromChild }, reader := .storing w.rest }
  | .telling => { t with session := t.session.post .newInput, reader := .reading }
  | .leaving => { t with reader := .gone }
  | _ => t

/-- The writer takes what is to be sent, or hands it to the child. -/
def writerTurn (t : Traffic) : Traffic :=
  match t.writer with
  | .waiting =>
    match t.session.toChild.readTurn { limit := Session.chunkSize, block := true } with
    | (toChild, .done bytes) =>
      { t with session := { t.session with toChild }, writer := .delivering bytes }
    | (_, .closed) => { t with writer := .gone }
    | (_, .waiting _) => t
  | .delivering bytes => { t with writer := .waiting, delivered := t.delivered ++ bytes }
  | .gone => t

/-! ## The session -/

/-- What is next when the queue was read and the host was told. -/
def Purpose.next : Purpose → Task
  | .message => .idle
  | .exit code readerGone => .drained code readerGone

/-- Goes on to what is next. -/
def goOn (t : Traffic) (purpose : Purpose) : Traffic :=
  { t with task := purpose.next }

/-- Begins with the next message. Once the session is no longer running, messages
mean nothing. -/
def beginMessage (t : Traffic) : Traffic :=
  match t.session.inbox with
  | [] => t
  | message :: inbox =>
    let t := { t with session := { t.session with inbox } }
    if t.session.isRunning then
      match message with
      | .newInput => { t with task := .taking false .message }
      | .processExited code => { t with task := .draining code }
    else t

/-- Sends the replies of the emulator to the child. -/
def answer (t : Traffic) (purpose : Purpose) : Traffic :=
  match t.session.emulator with
  | none => t.goOn purpose
  | some e =>
    let (replies, e) := e.takeReplies
    { t with
      session := { t.session with emulator := some e }.write replies
      task := .telling purpose
      fed := t.fed ++ [.takeReplies] }

/-- Reads the queue. When it finds nothing it is done, and what it found before is
answered. -/
def take (t : Traffic) (found : Bool) (purpose : Purpose) : Traffic :=
  match t.session.emulator, t.session.fromChild.readTurn { limit := Session.chunkSize } with
  | some e, (fromChild, .done (byte :: bytes)) =>
    let chunk := byte :: bytes
    { t with
      session := { t.session with fromChild, emulator := some (e.append chunk) }
      task := .taking true purpose
      fed := t.fed ++ [.append chunk] }
  | _, _ => if found then t.answer purpose else t.goOn purpose

/-- Tells the host what the emulator has to say, and that the text has changed. -/
def tell (t : Traffic) : Traffic :=
  let (session, notices) := t.session.dispatchEvents.andThen (·.notify .textChanged)
  { t with session, notices := t.notices ++ notices, fed := t.fed ++ [.takeEvents] }

/-- Ends the session. -/
def finish (t : Traffic) (code : Int) : Traffic :=
  let text := exitDescription code
  let (session, notices) := t.session.finish code text
  { t with
    session
    task := .idle
    notices := t.notices ++ notices
    fed := t.fed ++ [.append (Text.Utf8.encode text), .takeReplies, .takeEvents] }

/-- The session goes on with what it does. While anything waits for room in the queue
to the child, it does nothing else. -/
def sessionTurn (t : Traffic) : Traffic :=
  if t.session.unsent.isSome then { t with session := t.session.resume }
  else
    match t.task with
    | .idle => t.beginMessage
    | .taking found purpose => t.take found purpose
    | .telling purpose => t.tell.goOn purpose
    -- the flag is looked at before the queue, so that nothing comes behind both
    | .draining code => { t with task := .taking false (.exit code (t.reader = .gone)) }
    | .drained code readerGone =>
      if readerGone then t.finish code else { t with task := .draining code }

/-! ## Moves -/

/-- What can happen next. -/
inductive Move where
  /-- The child, or another that has its terminal, prints. -/
  | print (bytes : List UInt8)
  /-- The last that could print is gone. -/
  | hangUp
  /-- The child ends. -/
  | exit (code : Int)
  /-- The reader reads up to so many bytes. -/
  | read (count : Nat)
  /-- The reader finds that there will be no more. -/
  | endOfOutput
  | failRead
  | readerTurn
  | writerTurn
  /-- The child cannot be given any more. -/
  | failWrite
  /-- The waiter reports the end of the child. -/
  | report
  | sessionTurn
  /-- The session has waited long enough for the reader. -/
  | giveUp
  /-- The host sends bytes to the child. -/
  | write (bytes : List UInt8)
  /-- The host gives the window a size, which the device takes. -/
  | resize (size : WindowSize)
  /-- The host resets the screen. -/
  | reset
  deriving Repr, DecidableEq

/-- Whether the session can do something for its host: it is not busy with a message,
and nothing waits for room. -/
def isFree (t : Traffic) : Bool :=
  t.task = .idle && t.session.unsent.isNone

/-- Makes a move. One that is not possible now does nothing. -/
def move (t : Traffic) : Move → Traffic
  | .print bytes =>
    if t.hungUp then t
    else { t with unread := t.unread ++ bytes, printed := t.printed ++ bytes }
  | .hangUp => { t with hungUp := true }
  | .exit code =>
    match t.waiter with
    | .waiting => { t with waiter := .reporting code }
    | _ => t
  | .read count => t.readChunk count
  | .endOfOutput =>
    if t.reader = .reading && t.hungUp && t.unread.isEmpty then { t with reader := .leaving } else t
  | .failRead =>
    if t.reader = .reading then { t with reader := .leaving, readFailed := true } else t
  | .readerTurn => t.readerTurn
  | .writerTurn => t.writerTurn
  | .failWrite =>
    match t.writer with
    | .delivering _ => { t with writer := .gone }
    | _ => t
  | .report =>
    match t.waiter with
    | .reporting code => { t with session := t.session.post (.processExited code), waiter := .gone }
    | _ => t
  | .sessionTurn => t.sessionTurn
  | .giveUp =>
    match t.task with
    | .drained code false => t.finish code
    | _ => t
  | .write bytes => if t.isFree then { t with session := t.session.write bytes } else t
  | .resize size =>
    if t.isFree then
      { t with
        session := t.session.resize size
        fed := t.fed ++ [.resize size.cols.toNat size.rows.toNat] }
    else t
  | .reset =>
    if t.isFree then
      let (session, notices) := t.session.reset
      { t with session, notices := t.notices ++ notices, fed := t.fed ++ [.reset, .takeEvents] }
    else t

/-- Makes moves in order. -/
def run (t : Traffic) (moves : List Move) : Traffic :=
  moves.foldl move t

end Traffic

end Teletype

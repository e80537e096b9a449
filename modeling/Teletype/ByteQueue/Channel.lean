import Teletype.ByteQueue

/-!
# A queue between two sides

One side writes to a queue and another reads from it, each at its own pace. A lock
lets one of them at the queue at a time, for a turn; an operation takes as many
turns as it needs. A side that cannot go on sleeps, outside the lock. Whoever
changes the queue wakes the sleepers, who then want the lock like everybody else;
they may also wake without any reason. The queue may be closed at any moment, by
whomever.

Who moves when is left open: a run is any list of moves.
-/

namespace Teletype

/-- Where a side stands with its operation. -/
inductive Side (α : Type) where
  | idle
  /-- It wants the lock for its next turn. -/
  | ready (operation : α)
  /-- It sleeps until the queue changes. -/
  | asleep (operation : α)
  deriving Repr, DecidableEq

namespace Side

variable {α : Type}

/-- Ends the sleep of a sleeper. -/
def wake : Side α → Side α
  | .asleep operation => .ready operation
  | side => side

/-- The operation under way. -/
def operation? : Side α → Option α
  | .idle => none
  | .ready operation | .asleep operation => some operation

end Side

namespace Channel

/-- A write that has begun. -/
structure Sending where
  /-- All that is to be written. -/
  data : List UInt8
  progress : ByteQueue.Writing
  deriving Repr, DecidableEq

/-- What it has stored. -/
def Sending.bytes (s : Sending) : List UInt8 :=
  s.data.take s.progress.stored

/-- A write that has ended. -/
structure Sent where
  data : List UInt8
  allowPartial : Bool
  /-- How many bytes were stored, unless the queue was closed. -/
  count? : Option Nat
  deriving Repr, DecidableEq

/-- What it has stored. -/
def Sent.bytes (s : Sent) : List UInt8 :=
  s.data.take (s.count?.getD 0)

/-- A read that has ended. -/
structure Received where
  request : ByteQueue.Reading
  /-- The bytes that were taken, unless the queue was closed. -/
  bytes? : Option (List UInt8)
  deriving Repr, DecidableEq

/-- What it has taken. -/
def Received.bytes (r : Received) : List UInt8 :=
  r.bytes?.getD []

end Channel

/-- A queue and its two sides. -/
structure Channel where
  queue : ByteQueue
  writer : Side Channel.Sending := .idle
  reader : Side ByteQueue.Reading := .idle
  /-- The writes that have ended, the oldest first. -/
  sent : List Channel.Sent := []
  /-- The reads that have ended, the oldest first. -/
  received : List Channel.Received := []
  deriving Repr, DecidableEq

namespace Channel

/-- A channel through an empty queue. -/
def initial (capacity : Nat) : Channel :=
  { queue := .initial capacity }

/-- All that was stored: of the writes that have ended, and of the one under way. -/
def stored (c : Channel) : List UInt8 :=
  c.sent.flatMap Sent.bytes ++ c.writer.operation?.toList.flatMap Sending.bytes

/-- All that was read. -/
def taken (c : Channel) : List UInt8 :=
  c.received.flatMap Received.bytes

/-! ## Turns -/

/-- A turn of the writer. It wakes the reader if it stored anything. -/
def writerTurn (c : Channel) : Channel :=
  match c.writer with
  | .ready s =>
    let (queue, turn) := c.queue.writeTurn s.progress
    let reader := if queue.length = c.queue.length then c.reader else c.reader.wake
    let ended (count? : Option Nat) : Channel :=
      { c with
        queue, reader
        writer := .idle
        sent := c.sent ++ [{ data := s.data, allowPartial := s.progress.allowPartial, count? }] }
    match turn with
    | .done count => ended (some count)
    | .closed => ended none
    | .waiting progress => { c with queue, reader, writer := .asleep { s with progress } }
  | _ => c

/-- A turn of the reader. It wakes the writer if it took anything. -/
def readerTurn (c : Channel) : Channel :=
  match c.reader with
  | .ready r =>
    let (queue, turn) := c.queue.readTurn r
    let writer := if queue.length = c.queue.length then c.writer else c.writer.wake
    let ended (bytes? : Option (List UInt8)) : Channel :=
      { c with
        queue, writer
        reader := .idle
        received := c.received ++ [{ request := r, bytes? }] }
    match turn with
    | .done bytes => ended (some bytes)
    | .closed => ended none
    | .waiting request => { c with queue, writer, reader := .asleep request }
  | _ => c

/-! ## Moves -/

/-- What can happen next. -/
inductive Move where
  /-- The writer begins to write. -/
  | write (data : List UInt8) (allowPartial : Bool)
  | writerTurn
  /-- The writer wakes without a reason. -/
  | wakeWriter
  /-- The reader begins to read. -/
  | read (limit : Nat) (block : Bool)
  | readerTurn
  /-- The reader wakes without a reason. -/
  | wakeReader
  | close
  deriving Repr, DecidableEq

/-- Makes a move. One that is not possible now does nothing. -/
def move (c : Channel) : Move → Channel
  | .write data allowPartial =>
    match c.writer with
    | .idle => { c with writer := .ready { data, progress := { rest := data, allowPartial } } }
    | _ => c
  | .writerTurn => c.writerTurn
  | .wakeWriter => { c with writer := c.writer.wake }
  | .read limit block =>
    match c.reader with
    | .idle => { c with reader := .ready { limit, block } }
    | _ => c
  | .readerTurn => c.readerTurn
  | .wakeReader => { c with reader := c.reader.wake }
  | .close => { c with queue := c.queue.close, writer := c.writer.wake, reader := c.reader.wake }

/-- Makes moves in order. -/
def run (c : Channel) (moves : List Move) : Channel :=
  moves.foldl move c

end Channel

end Teletype

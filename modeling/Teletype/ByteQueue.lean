import Teletype.ByteQueue.Ring

/-!
# Byte queues

A bounded queue of bytes between one side that writes and one that reads. Each
side acts in turns, during which the other does nothing. A side that cannot go
on waits: a writer for room, a reader for bytes. Closing the queue throws away
what is stored and ends every operation that is or will be under way; only
writing nothing still succeeds.
-/

namespace Teletype

/-- A bounded queue of bytes. -/
structure ByteQueue where
  ring : Ring
  isOpen : Bool := true
  deriving Repr, DecidableEq

namespace ByteQueue

/-- The room of a queue that was given none. -/
def standardCapacity : Nat := 4096

/-- An empty queue with room for at least one byte. -/
def initial (capacity : Nat) : ByteQueue :=
  { ring := .empty (max capacity 1) }

/-- How many bytes there is room for in all. -/
def capacity (q : ByteQueue) : Nat :=
  q.ring.capacity

/-- How many bytes are stored. -/
def length (q : ByteQueue) : Nat :=
  q.ring.count

/-- Throws away what is stored and ends all operations. -/
def close (q : ByteQueue) : ByteQueue :=
  { ring := q.ring.clear, isOpen := false }

/-- How a turn ends. -/
inductive Turn (α β : Type) where
  /-- The operation is complete. -/
  | done (result : α)
  /-- The queue is closed. -/
  | closed
  /-- The operation waits, with this still to do. -/
  | waiting (rest : β)
  deriving Repr, DecidableEq

/-! ## Writing -/

/-- A write under way. -/
structure Writing where
  rest : List UInt8
  /-- Whether it is complete as soon as anything was stored. -/
  allowPartial : Bool := false
  /-- How many bytes were stored. -/
  stored : Nat := 0
  deriving Repr, DecidableEq

/-- A turn of a writer: it stores what there is room for. -/
def writeTurn (q : ByteQueue) (w : Writing) : ByteQueue × Turn Nat Writing :=
  if w.rest.isEmpty then (q, .done w.stored)
  else if !q.isOpen then (q, .closed)
  else if q.ring.free = 0 then (q, .waiting w)
  else
    let (ring, count) := q.ring.push w.rest
    let w := { w with rest := w.rest.drop count, stored := w.stored + count }
    ({ q with ring }, if w.allowPartial || w.rest.isEmpty then .done w.stored else .waiting w)

/-! ## Reading -/

/-- A read under way. -/
structure Reading where
  /-- The most bytes to take. -/
  limit : Nat
  /-- Whether to wait for bytes. -/
  block : Bool := false
  deriving Repr, DecidableEq

/-- A turn of a reader: it takes what is stored. -/
def readTurn (q : ByteQueue) (r : Reading) : ByteQueue × Turn (List UInt8) Reading :=
  if !q.isOpen then (q, .closed)
  else if q.ring.count = 0 then (q, if r.block then .waiting r else .done [])
  else
    let (ring, bytes) := q.ring.pop r.limit
    ({ q with ring }, .done bytes)

/-- Everything that is stored, in the pieces that reads of at most `limit` bytes
find it in. -/
def drain (q : ByteQueue) (limit : Nat) : ByteQueue × List (List UInt8) :=
  if _h : q.isOpen ∧ 0 < q.ring.count ∧ 0 < limit then
    let popped := q.ring.pop limit
    let (q, pieces) := drain { q with ring := popped.1 } limit
    (q, popped.2 :: pieces)
  else (q, [])
termination_by q.ring.count
decreasing_by
  show (q.ring.pop limit).1.count < q.ring.count
  rw [Ring.count_pop]
  omega

/-! ## Both sides at once -/

/-- A write while the other side reads `limit` bytes at a time until there are no
more: the queue afterwards, how the write ends, and what was read. -/
def transfer (q : ByteQueue) (w : Writing) (limit : Nat) :
    ByteQueue × Turn Nat Writing × List UInt8 :=
  let (q, before) := q.drain limit
  match q.writeTurn w with
  | (q, .waiting rest) =>
    if _h : rest.rest.length < w.rest.length then
      let (q, turn, behind) := transfer q rest limit
      (q, turn, before.flatten ++ behind)
    else (q, .waiting rest, before.flatten)
  | (q, turn) =>
    let (q, behind) := q.drain limit
    (q, turn, before.flatten ++ behind.flatten)
termination_by w.rest.length

end ByteQueue

end Teletype

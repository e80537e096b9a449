/-!
# Rings

A bounded store of bytes in an array of fixed size. The bytes begin at `head`
and run on past the end of the array at its start, so putting bytes in and
taking them out copies at most two stretches. What is stored is read off as the
list `contents`.
-/

namespace Teletype

/-- A bounded store of bytes. -/
structure Ring where
  buffer : Array UInt8
  /-- Where the oldest byte is. -/
  head : Nat := 0
  /-- How many bytes are stored. -/
  count : Nat := 0
  deriving Repr, DecidableEq

namespace Ring

/-- An empty ring with room for `capacity` bytes. -/
def empty (capacity : Nat) : Ring :=
  { buffer := Array.replicate capacity 0 }

/-- How many bytes there is room for in all. -/
def capacity (r : Ring) : Nat :=
  r.buffer.size

/-- How many more bytes there is room for. -/
def free (r : Ring) : Nat :=
  r.capacity - r.count

/-- The bytes stored, the oldest first. -/
def contents (r : Ring) : List UInt8 :=
  (List.range r.count).map fun i => r.buffer.getD ((r.head + i) % r.capacity) 0

/-- Copies bytes into the array from a place on. -/
def copyAt (start : Nat) (bytes : List UInt8) (buffer : Array UInt8) : Array UInt8 :=
  (bytes.foldl (fun (buffer, i) byte => (buffer.setIfInBounds i byte, i + 1)) (buffer, start)).1

/-- Stores as many of the bytes as there is room for, and says how many. -/
def push (r : Ring) (bytes : List UInt8) : Ring × Nat :=
  let count := min bytes.length r.free
  let tail := (r.head + r.count) % r.capacity
  let first := min count (r.capacity - tail)
  let stored := bytes.take count
  let buffer := copyAt 0 (stored.drop first) (copyAt tail (stored.take first) r.buffer)
  ({ r with buffer, count := r.count + count }, count)

/-- Takes out up to `limit` bytes. -/
def pop (r : Ring) (limit : Nat) : Ring × List UInt8 :=
  let count := min limit r.count
  let first := min count (r.capacity - r.head)
  let taken := r.buffer.extract r.head (r.head + first) ++ r.buffer.extract 0 (count - first)
  ({ r with head := (r.head + count) % r.capacity, count := r.count - count }, taken.toList)

/-- Forgets the bytes stored. -/
def clear (r : Ring) : Ring :=
  { r with count := 0 }

theorem size_copyAt (start : Nat) (bytes : List UInt8) (buffer : Array UInt8) :
    (copyAt start bytes buffer).size = buffer.size := by
  unfold copyAt
  induction bytes generalizing start buffer with
  | nil => rfl
  | cons byte rest ih =>
    simp only [List.foldl_cons]
    rw [ih]
    simp

@[simp] theorem capacity_push (r : Ring) (bytes : List UInt8) :
    (r.push bytes).1.capacity = r.capacity := by
  simp [push, capacity, size_copyAt]

@[simp] theorem capacity_pop (r : Ring) (limit : Nat) : (r.pop limit).1.capacity = r.capacity := rfl

@[simp] theorem count_push (r : Ring) (bytes : List UInt8) :
    (r.push bytes).1.count = r.count + min bytes.length r.free := rfl

@[simp] theorem count_pop (r : Ring) (limit : Nat) :
    (r.pop limit).1.count = r.count - min limit r.count := rfl

end Ring

end Teletype

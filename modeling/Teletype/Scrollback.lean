import Teletype.Line

/-!
# Scrollback

The transcript of rows that have left the top of the primary grid. It holds a
bounded number of rows, and each row past the bound pushes out the oldest one.
-/

namespace Teletype

/-- The rows above the screen, the oldest first. -/
structure Scrollback where
  lines : List Line := []
  capacity : Nat
  deriving Repr, DecidableEq

namespace Scrollback

/-- The newest rows, as many as the capacity allows. -/
def newest (capacity : Nat) (lines : List Line) : List Line :=
  lines.drop (lines.length - capacity)

/-- Adds a row at the end. -/
def push (s : Scrollback) (line : Line) : Scrollback :=
  { s with lines := newest s.capacity (s.lines ++ [line]) }

/-- Adds rows, the oldest first. -/
def pushAll (s : Scrollback) (lines : List Line) : Scrollback :=
  lines.foldl push s

/-- Forgets every row. -/
def clear (s : Scrollback) : Scrollback :=
  { s with lines := [] }

theorem length_newest_le (capacity : Nat) (lines : List Line) :
    (newest capacity lines).length ≤ capacity := by
  simp only [newest, List.length_drop]
  omega

/-- **The bound holds after every push.** -/
theorem length_push_le (s : Scrollback) (line : Line) : (s.push line).lines.length ≤ s.capacity :=
  length_newest_le _ _

@[simp] theorem capacity_push (s : Scrollback) (line : Line) :
    (s.push line).capacity = s.capacity :=
  rfl

@[simp] theorem capacity_pushAll (s : Scrollback) (lines : List Line) :
    (s.pushAll lines).capacity = s.capacity := by
  induction lines generalizing s with
  | nil => rfl
  | cons line rest ih => exact ih (s.push line)

/-- Keeping the newest rows twice is keeping them once. -/
theorem newest_append_newest (capacity : Nat) (xs ys : List Line) :
    newest capacity (newest capacity xs ++ ys) = newest capacity (xs ++ ys) := by
  simp only [newest, List.length_append, List.length_drop]
  rcases Nat.le_total xs.length capacity with h | h
  · rw [Nat.sub_eq_zero_of_le h]
    simp
  · have split : xs.length + ys.length - capacity
        = (xs.length - capacity) + (xs.length - (xs.length - capacity) + ys.length - capacity) := by
      omega
    rw [split, ← List.drop_drop]
    congr 1
    rw [List.drop_append_of_le_length (by omega)]

/-- **Pushing rows one by one keeps the newest of all of them.** -/
theorem lines_pushAll (s : Scrollback) (lines : List Line) :
    (s.pushAll lines).lines =
      if lines.isEmpty then s.lines else newest s.capacity (s.lines ++ lines) := by
  induction lines generalizing s with
  | nil => rfl
  | cons line rest ih =>
    have h := ih (s.push line)
    simp only [pushAll, List.foldl_cons] at h ⊢
    rw [h]
    cases rest with
    | nil => simp [push]
    | cons next others =>
      simp only [List.isEmpty_cons, Bool.false_eq_true, if_false, push]
      rw [newest_append_newest, List.append_assoc]
      rfl

/-- Where there is room nothing is pushed out. -/
theorem lines_pushAll_of_le {s : Scrollback} {lines : List Line}
    (h : s.lines.length + lines.length ≤ s.capacity) :
    (s.pushAll lines).lines = s.lines ++ lines := by
  rw [lines_pushAll]
  split
  · next hnone => rw [List.isEmpty_iff.mp hnone, List.append_nil]
  · rw [newest, List.length_append, Nat.sub_eq_zero_of_le h, List.drop_zero]

end Scrollback

end Teletype

/-!
# Accesses that can fail

Differences of natural numbers, slices of lists and rotations of slices that
have a result only where nothing is out of range. An operation written with
them has a result exactly where each of its accesses is in range.

The lemmas say what the usual pairs of such steps come to, a rotation together
with overwriting what it brought round.
-/

namespace Teletype.Access

variable {α : Type}

/-- The difference, unless it is below zero. -/
def sub? (a b : Nat) : Option Nat :=
  if b ≤ a then some (a - b) else none

/-- The elements from `first` up to but not including `last`. -/
def slice? (first last : Nat) (xs : List α) : Option (List α) :=
  if first ≤ last ∧ last ≤ xs.length then some ((xs.take last).drop first) else none

/-- Changes the elements from `first` up to but not including `last`. -/
def within? (first last : Nat) (f : List α → Option (List α)) (xs : List α) :
    Option (List α) := do
  let inside ← slice? first last xs
  let changed ← f inside
  return xs.take first ++ (changed ++ xs.drop last)

/-- Replaces the element at an index. -/
def set? (i : Nat) (x : α) (xs : List α) : Option (List α) :=
  if i < xs.length then some (xs.set i x) else none

/-- Moves the first `n` elements to the end. -/
def rotateLeft? (n : Nat) (xs : List α) : Option (List α) :=
  if n ≤ xs.length then some (xs.drop n ++ xs.take n) else none

/-- Moves the last `n` elements to the front. -/
def rotateRight? (n : Nat) (xs : List α) : Option (List α) := do
  let m ← sub? xs.length n
  return xs.drop m ++ xs.take m

/-- Replaces every element. -/
def overwrite (x : α) (xs : List α) : Option (List α) :=
  some (xs.map fun _ => x)

theorem sub?_eq {a b : Nat} (h : b ≤ a) : sub? a b = some (a - b) :=
  if_pos h

theorem set?_eq {i : Nat} {xs : List α} (x : α) (h : i < xs.length) :
    set? i x xs = some (xs.set i x) :=
  if_pos h

theorem slice?_eq {first last : Nat} {xs : List α} (h : first ≤ last) (hl : last ≤ xs.length) :
    slice? first last xs = some ((xs.take last).drop first) :=
  if_pos ⟨h, hl⟩

theorem overwrite_eq (x : α) (xs : List α) :
    overwrite x xs = some (List.replicate xs.length x) := by
  rw [overwrite, List.map_const']

theorem rotateLeft?_append {n : Nat} {xs : List α} (ys : List α) (h : xs.length = n) :
    rotateLeft? n (xs ++ ys) = some (ys ++ xs) := by
  subst h
  rw [rotateLeft?, if_pos (by rw [List.length_append]; omega), List.drop_left, List.take_left]

theorem rotateRight?_append {n : Nat} (xs : List α) {ys : List α} (h : ys.length = n) :
    rotateRight? n (xs ++ ys) = some (ys ++ xs) := by
  subst h
  have hsub : sub? (xs ++ ys).length ys.length = some xs.length := by
    rw [List.length_append, sub?_eq (by omega), Nat.add_sub_cancel]
  simp only [rotateRight?, hsub, Option.bind_eq_bind, Option.bind_some, Option.pure_def,
    List.drop_left, List.take_left]

/-- A slice that is in range is changed where it stands. -/
theorem within?_append {first last : Nat} {f : List α → Option (List α)} {xs ys zs ys' : List α}
    (hx : xs.length = first) (hy : xs.length + ys.length = last) (hf : f ys = some ys') :
    within? first last f (xs ++ (ys ++ zs)) = some (xs ++ (ys' ++ zs)) := by
  have hslice : slice? first last (xs ++ (ys ++ zs)) = some ys := by
    rw [slice?_eq (by omega) (by simp only [List.length_append]; omega), ← List.append_assoc,
      List.take_left' (by rw [List.length_append, hy]), List.drop_left' hx]
  have hdrop : (xs ++ (ys ++ zs)).drop last = zs := by
    rw [← List.append_assoc, List.drop_left' (by rw [List.length_append, hy])]
  simp only [within?, hslice, hf, hdrop, List.take_left' hx, Option.bind_eq_bind,
    Option.bind_some, Option.pure_def]

/-! ## Rotating and overwriting -/

section

variable {first last n : Nat} {xs : List α}

/-- A list cut before `first`, `middle` and `last`. -/
theorem eq_append_cuts (xs : List α) {middle : Nat} (h : first ≤ middle) (hl : middle ≤ last) :
    xs = xs.take first ++ ((xs.take middle).drop first ++ ((xs.take last).drop middle ++
      xs.drop last)) := by
  have hfirst : xs.take first = (xs.take middle).take first := by
    rw [List.take_take, Nat.min_eq_left h]
  have hmiddle : xs.take middle = (xs.take last).take middle := by
    rw [List.take_take, Nat.min_eq_left hl]
  rw [← List.append_assoc, hfirst, List.take_append_drop, ← List.append_assoc, hmiddle,
    List.take_append_drop, List.take_append_drop]

theorem length_take_drop {a b : Nat} (h : b ≤ xs.length) :
    ((xs.take b).drop a).length = b - a := by
  rw [List.length_drop, List.length_take, Nat.min_eq_left h]

/-- Rotating to the right and overwriting what came round to the front. -/
theorem rotateRight_overwrite (x : α) (h : first + n ≤ last) (hl : last ≤ xs.length) :
    (within? first last (rotateRight? n) xs).bind (within? first (first + n) (overwrite x)) =
      some (xs.take first ++ (List.replicate n x ++ ((xs.take (last - n)).drop first ++
        xs.drop last))) := by
  have hfirst : (xs.take first).length = first := by
    rw [List.length_take, Nat.min_eq_left (by omega)]
  have hkept := length_take_drop (a := first) (by omega : last - n ≤ xs.length)
  have hlost := length_take_drop (a := last - n) hl
  have hcut := eq_append_cuts xs (by omega : first ≤ last - n) (Nat.sub_le last n)
  have hrotate : within? first last (rotateRight? n) xs =
      some (xs.take first ++ (((xs.take last).drop (last - n) ++ (xs.take (last - n)).drop first) ++
        xs.drop last)) := by
    conv => lhs; rw [hcut, ← List.append_assoc ((xs.take (last - n)).drop first)]
    exact within?_append hfirst (by rw [List.length_append]; omega)
      (rotateRight?_append _ (by omega))
  rw [hrotate, Option.bind_some, List.append_assoc]
  refine within?_append hfirst (by omega) ?_
  rw [overwrite_eq, hlost]
  congr 2
  omega

/-- Rotating to the left and overwriting what came round to the end. -/
theorem rotateLeft_overwrite (x : α) (h : first + n ≤ last) (hl : last ≤ xs.length) :
    (within? first last (rotateLeft? n) xs).bind (within? (last - n) last (overwrite x)) =
      some (xs.take first ++ ((xs.take last).drop (first + n) ++ (List.replicate n x ++
        xs.drop last))) := by
  have hfirst : (xs.take first).length = first := by
    rw [List.length_take, Nat.min_eq_left (by omega)]
  have hlost := length_take_drop (a := first) (by omega : first + n ≤ xs.length)
  have hkept := length_take_drop (a := first + n) hl
  have hcut := eq_append_cuts xs (Nat.le_add_right first n) h
  have hrotate : within? first last (rotateLeft? n) xs =
      some (xs.take first ++
        (((xs.take last).drop (first + n) ++ (xs.take (first + n)).drop first) ++
        xs.drop last)) := by
    conv => lhs; rw [hcut, ← List.append_assoc ((xs.take (first + n)).drop first)]
    exact within?_append hfirst (by rw [List.length_append]; omega)
      (rotateLeft?_append _ (by omega))
  rw [hrotate, Option.bind_some, List.append_assoc, ← List.append_assoc,
    ← List.append_assoc (xs.take first)]
  refine within?_append (by rw [List.length_append]; omega) (by rw [List.length_append]; omega) ?_
  rw [overwrite_eq, hlost]
  congr 2
  omega

/-- Overwriting the front and rotating it to the end. -/
theorem overwrite_rotateLeft (x : α) (h : first + n ≤ last) (hl : last ≤ xs.length) :
    (within? first (first + n) (overwrite x) xs).bind (within? first last (rotateLeft? n)) =
      some (xs.take first ++ ((xs.take last).drop (first + n) ++ (List.replicate n x ++
        xs.drop last))) := by
  have hfirst : (xs.take first).length = first := by
    rw [List.length_take, Nat.min_eq_left (by omega)]
  have hlost := length_take_drop (a := first) (by omega : first + n ≤ xs.length)
  have hkept := length_take_drop (a := first + n) hl
  have hcut := eq_append_cuts xs (Nat.le_add_right first n) h
  have hfill : within? first (first + n) (overwrite x) xs =
      some (xs.take first ++ (List.replicate n x ++ ((xs.take last).drop (first + n) ++
        xs.drop last))) := by
    conv => lhs; rw [hcut]
    refine within?_append hfirst (by omega) ?_
    rw [overwrite_eq, hlost]
    congr 2
    omega
  rw [hfill, Option.bind_some, ← List.append_assoc (List.replicate n x),
    ← List.append_assoc ((xs.take last).drop (first + n))]
  exact within?_append hfirst (by rw [List.length_append, List.length_replicate]; omega)
    (rotateLeft?_append _ List.length_replicate)

end

end Teletype.Access

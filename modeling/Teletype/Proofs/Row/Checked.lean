import Teletype.Line
import Teletype.Proofs.Access

/-!
# Row operations, checked

The row operations again, as steps that index, cut and rotate the cells in
place. Each has a result only if all its steps are in range, and on a row of the
width it is told of that result is the row operation's.
-/

namespace Teletype.Row

open Access

/-- `clearOtherHalf`, going back a column by a checked difference. -/
def clearOtherHalf? (col : Nat) (cells : List Cell) : Option (List Cell) :=
  match cells[col]? with
  | none => some cells
  | some c =>
    if c.tail && 0 < col then (sub? col 1).map fun head => cells.set head .blank
    else if 1 < c.width then some (cells.set (col + 1) .blank)
    else some cells

/-- `openAt` on a row of `cols` cells: the cells from `col` on are rotated to
the right, and what came round is overwritten. -/
def openAt? (cols col count : Nat) (cells : List Cell) : Option (List Cell) :=
  if cols ≤ col then some cells
  else do
    let cells ← clearOtherHalf? col cells
    let room ← sub? cols col
    let count := min count room
    let rotated ← within? col cells.length (rotateRight? count) cells
    let opened ← within? col (col + count) (overwrite .blank) rotated
    let last ← sub? cols 1
    let c ← opened[last]?
    if 1 < c.width then set? last .blank opened else return opened

/-- `closeAt` on a row of `cols` cells: the cells from `col` on are rotated to
the left, and what came round is overwritten. -/
def closeAt? (cols col count : Nat) (cells : List Cell) : Option (List Cell) := do
  let cells ← clearOtherHalf? col cells
  let room ← sub? cols col
  let count := min count room
  let rotated ← within? col cells.length (rotateLeft? count) cells
  let kept ← sub? cols count
  let closed ← within? kept cells.length (overwrite .blank) rotated
  let c ← closed[col]?
  if c.tail then set? col .blank closed else return closed

/-- `erase`, overwriting a slice. -/
def erase? (first last : Nat) (bg : Color) (cells : List Cell) : Option (List Cell) := do
  let cells ← clearOtherHalf? first cells
  let before ← sub? last 1
  let cells ← clearOtherHalf? before cells
  within? first last (overwrite (.erased bg)) cells

/-- `write`. -/
def write? (col : Nat) (c : Char) (wide : Bool) (pen : Pen) (cells : List Cell) :
    Option (List Cell) := do
  let cells ← clearOtherHalf? col cells
  if wide then
    let cells ← clearOtherHalf? (col + 1) cells
    return (cells.set col (.written c pen)).set (col + 1) (.wideTail pen)
  else
    return cells.set col (.written c pen)

variable {cells : List Cell}

@[simp] theorem clearOtherHalf?_eq (col : Nat) (cells : List Cell) :
    clearOtherHalf? col cells = some (clearOtherHalf col cells) := by
  unfold clearOtherHalf? clearOtherHalf
  cases cells[col]? with
  | none => rfl
  | some c =>
    dsimp only
    by_cases htail : (c.tail && decide (0 < col)) = true
    · have hcol : 1 ≤ col := of_decide_eq_true (Bool.and_eq_true_iff.mp htail).2
      rw [if_pos htail, if_pos htail, sub?_eq hcol, Option.map_some]
    · rw [if_neg htail, if_neg htail]
      split <;> rfl

theorem set?_at_eq {i : Nat} (h : i < cells.length) (p : Cell → Prop) [DecidablePred p] :
    (cells[i]?.bind fun c => if p c then set? i .blank cells else some cells) =
      some (if cells[i]?.any fun c => decide (p c) then cells.set i .blank else cells) := by
  rw [List.getElem?_eq_getElem h, Option.bind_some, Option.any_some]
  by_cases hp : p cells[i]
  · rw [if_pos hp, if_pos (decide_eq_true hp)]
    exact set?_eq _ h
  · rw [if_neg hp, if_neg (by simpa using hp)]

/-- **Opening cells stays in the row.** -/
theorem openAt?_eq {cols : Nat} (h : cells.length = cols) (col count : Nat) :
    openAt? cols col count cells = some (openAt col count cells) := by
  subst h
  unfold openAt? openAt
  by_cases hcol : cells.length ≤ col
  · rw [if_pos hcol, if_pos hcol]
  · rw [if_neg hcol, if_neg hcol]
    have hlen := length_clearOtherHalf col cells
    have hsub : sub? cells.length col = some (cells.length - col) := sub?_eq (by omega)
    have hsub1 : sub? cells.length 1 = some (cells.length - 1) := sub?_eq (by omega)
    simp only [clearOtherHalf?_eq, hsub, hsub1, Option.bind_eq_bind, Option.bind_some]
    generalize hcleared : clearOtherHalf col cells = cleared at hlen
    have hfit : col + min count (cleared.length - col) ≤ cleared.length := by omega
    have hopen := rotateRight_overwrite Cell.blank hfit (Nat.le_refl cleared.length)
    rw [← hlen, ← Option.bind_assoc, hopen, Option.bind_some, List.drop_length, List.append_nil,
      List.drop_take, Nat.sub_right_comm]
    generalize hopened : cleared.take col ++ _ = opened
    have hlast : opened.length = cleared.length := by
      rw [← hopened]
      simp only [List.length_append, List.length_take, List.length_replicate, List.length_drop]
      omega
    rw [List.getLast?_eq_getElem?, hlast]
    exact set?_at_eq (by omega) (1 < ·.width)

/-- **Closing cells stays in the row.** -/
theorem closeAt?_eq {cols col : Nat} (h : cells.length = cols) (hcol : col < cols) (count : Nat) :
    closeAt? cols col count cells = some (closeAt col count cells) := by
  subst h
  unfold closeAt? closeAt
  have hlen := length_clearOtherHalf col cells
  have hsub : sub? cells.length col = some (cells.length - col) := sub?_eq (by omega)
  have hsubn : sub? cells.length (min count (cells.length - col)) =
      some (cells.length - min count (cells.length - col)) := sub?_eq (by omega)
  simp only [clearOtherHalf?_eq, hsub, hsubn, Option.bind_eq_bind, Option.bind_some]
  generalize hcleared : clearOtherHalf col cells = cleared at hlen
  have hfit : col + min count (cleared.length - col) ≤ cleared.length := by omega
  have hclose := rotateLeft_overwrite Cell.blank hfit (Nat.le_refl cleared.length)
  rw [← hlen, ← Option.bind_assoc, hclose, Option.bind_some, List.drop_length, List.append_nil,
    List.take_length]
  generalize hclosed : cleared.take col ++ _ = closed
  have hcol' : col < closed.length := by
    rw [← hclosed]
    simp only [List.length_append, List.length_take, List.length_replicate, List.length_drop]
    omega
  have hset := set?_at_eq hcol' (·.tail = true)
  simp only [Bool.decide_eq_true] at hset
  exact hset

/-- **Erasing stays in the row.** -/
theorem erase?_eq {first last : Nat} (bg : Color) (h : first < last) (hl : last ≤ cells.length) :
    erase? first last bg cells = some (erase first last bg cells) := by
  unfold erase? erase fill
  have hsub : sub? last 1 = some (last - 1) := sub?_eq (by omega)
  simp only [clearOtherHalf?_eq, hsub, Option.bind_eq_bind, Option.bind_some]
  generalize hcleared : clearOtherHalf (last - 1) (clearOtherHalf first cells) = cleared
  have hlen : cleared.length = cells.length := by
    rw [← hcleared, length_clearOtherHalf, length_clearOtherHalf]
  have hcut : cleared = cleared.take first ++ ((cleared.take last).drop first ++
      cleared.drop last) := by
    have hcuts := eq_append_cuts cleared (Nat.le_refl first) (Nat.le_of_lt h)
    rwa [List.drop_eq_nil_of_le (by rw [List.length_take]; omega), List.nil_append] at hcuts
  have hmiddle : ((cleared.take last).drop first).length = last - first :=
    length_take_drop (by omega)
  rw [Nat.min_eq_left (by omega), Nat.max_eq_right (by omega)]
  conv => lhs; rw [hcut]
  refine within?_append (by rw [List.length_take]; omega) (by rw [List.length_take]; omega) ?_
  rw [overwrite_eq, hmiddle]

@[simp] theorem write?_eq (col : Nat) (c : Char) (wide : Bool) (pen : Pen) (cells : List Cell) :
    write? col c wide pen cells = some (write col c wide pen cells) := by
  unfold write? write
  cases wide <;> simp

end Teletype.Row

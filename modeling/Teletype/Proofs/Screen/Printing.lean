import Teletype.Proofs.Row.Opened
import Teletype.Proofs.Screen.Rows

/-!
# Printing, step by step

A character that takes columns is printed in three steps: a pending wrap is
carried out, a character of two columns that finds only the last column free
blanks it and is wrapped, and then the character is written. The equations here
say so, with a name for what each step leaves.
-/

namespace Teletype.Screen

/-- The screen once a pending wrap is carried out. -/
def afterPendingWrap (s : Screen) : Screen :=
  if s.cursor.pendingWrap && s.cursor.autowrap then s.wrap else s

/-- The screen with the cell of the cursor blanked. -/
def blankCursor (s : Screen) : Screen :=
  s.mapCells s.cursor.row (·.set s.cursor.col .blank)

/-- The screen once the row of the cursor is left by a wrap, before the cursor
goes to the row below. -/
def leaveRow (s : Screen) : Screen :=
  (s.mapRow s.cursor.row fun l => { l with wrapped := true }).mapCursor (·.place 0 s.cursor.row)

variable {s : Screen} {l : Line} {c : Char} {i width : Nat}

/-! ## Wrapping -/

/-- Leaving a row changes nothing but the row and the place of the cursor. -/
theorem leaveRow_eq (s : Screen) : s.leaveRow.cursor = s.cursor.place 0 s.cursor.row ∧
    s.leaveRow.top = s.top ∧ s.leaveRow.bottom = s.bottom ∧ s.leaveRow.rows = s.rows ∧
    s.leaveRow.cols = s.cols ∧ s.leaveRow.onAlternate = s.onAlternate ∧
    s.leaveRow.scrollback = s.scrollback := by
  simp [leaveRow, mapCursor, mapRow]

theorem wrap_eq (s : Screen) : s.wrap = s.leaveRow.advance := by
  have hrow : (s.mapRow s.cursor.row fun l => { l with wrapped := true }).cursor.row =
      s.cursor.row := by rw [mapRow, cursor_mapGrid]
  show (Screen.mapCursor _ (·.place 0 _)).advance = _
  rw [hrow]
  rfl

/-! ## Writing -/

/-- Writing at the cursor puts a character in one row. -/
theorem write_eq (s : Screen) (c : Char) (width : Nat) :
    s.write c width = (s.mapCells s.cursor.row
      (Row.put s.cursor.insertMode s.cursor.col c width s.cursor.pen)).moveOn width := by
  unfold write
  dsimp only
  cases s.cursor.insertMode with
  | false => rfl
  | true =>
    rw [if_pos rfl, mapCells, mapCells, mapRow_mapRow]
    rfl

theorem getElem?_grid_mapCells (hl : s.grid[i]? = some l) (f : List Cell → List Cell) :
    (s.mapCells i f).grid[i]? = some { l with cells := f l.cells } := by
  rw [mapCells, mapRow, grid_mapGrid, List.getElem?_modify_eq, hl]
  rfl

theorem getElem?_grid_write (hl : s.grid[s.cursor.row]? = some l) (c : Char) (width : Nat) :
    (s.write c width).grid[s.cursor.row]? = some { l with
      cells := Row.put s.cursor.insertMode s.cursor.col c width s.cursor.pen l.cells } := by
  rw [write_eq]
  exact getElem?_grid_mapCells hl _

theorem getElem?_grid_write_of_ne (hne : s.cursor.row ≠ i) (c : Char) (width : Nat) :
    (s.write c width).grid[i]? = s.grid[i]? := by
  rw [write_eq]
  show (s.mapCells s.cursor.row _).grid[i]? = _
  rw [mapCells, mapRow, grid_mapGrid, List.getElem?_modify_ne _ _ hne]

theorem scrollback_write (s : Screen) (c : Char) (width : Nat) :
    (s.write c width).scrollback = s.scrollback := by
  rw [write_eq]
  exact scrollback_mapGrid _ _

theorem rows_write (s : Screen) (c : Char) (width : Nat) : (s.write c width).rows = s.rows := by
  rw [write_eq]
  exact rows_mapGrid _

theorem cols_write (s : Screen) (c : Char) (width : Nat) : (s.write c width).cols = s.cols := by
  rw [write_eq]
  exact cols_mapGrid _

/-! ## Printing -/

/-- Printing keeps the size. -/
theorem size_print (s : Screen) (c : Char) :
    (s.print c).cols = s.cols ∧ (s.print c).rows = s.rows := by
  have hbegun : ∀ t, t = s ∨ t = s.wrap → t.cols = s.cols ∧ t.rows = s.rows := by
    rintro t (rfl | rfl)
    · exact ⟨rfl, rfl⟩
    · exact ⟨cols_wrap, rows_wrap⟩
  refine print_cases ?_ hbegun (fun t w ht => ?_) fun t w ht => ?_
  · unfold combine
    split
    · exact ⟨rfl, rfl⟩
    · exact ⟨cols_mapCells _ _, rows_mapGrid _⟩
  · rw [cols_write, rows_write]
    exact hbegun t ht
  · rw [cols_write, rows_write, cols_wrap, rows_wrap, cols_mapCells]
    exact ⟨(hbegun t ht).1, (rows_mapGrid _).trans (hbegun t ht).2⟩

theorem cols_afterPendingWrap (s : Screen) : s.afterPendingWrap.cols = s.cols := by
  unfold afterPendingWrap
  split
  · exact cols_wrap
  · rfl

theorem AllRows.afterPendingWrap {P : List Cell → Prop} (h : s.AllRows P)
    (hblank : ∀ n, P (List.replicate n .blank)) : s.afterPendingWrap.AllRows P := by
  unfold Screen.afterPendingWrap
  split
  · exact h.wrap hblank
  · exact h

theorem print_eq (h : Text.charWidth c ≠ 0) : s.print c =
    let t := s.afterPendingWrap
    if Text.charWidth c = 2 && t.cols ≤ t.cursor.col + 1 then
      if !t.cursor.autowrap || t.cols < 2 then t
      else t.blankCursor.wrap.write c (Text.charWidth c)
    else t.write c (Text.charWidth c) := by
  rw [print]
  exact if_neg h

/-- Combining changes one cell at most. -/
theorem combine_cases (s : Screen) (mark : Char) : s.combine mark = s ∨
    ∃ col, s.combine mark = s.mapCells s.cursor.row (·.modify col (·.combine mark)) := by
  unfold combine
  cases s.columnBefore? with
  | none => exact .inl rfl
  | some col => exact .inr ⟨_, rfl⟩

end Teletype.Screen

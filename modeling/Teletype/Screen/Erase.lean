import Teletype.Screen.Print

/-!
# Erasing

Erasing leaves blank cells on paper of the pen's color. It cuts no character
in half: the outside half of a character at the edge of the range goes too.
-/

namespace Teletype.Screen

/-- Erases the cells of a row from `first` up to but not including `last`. A row
erased through its last column no longer runs on. -/
def eraseCells (s : Screen) (row first last : Nat) : Screen :=
  let last := min last s.cols
  if last ≤ first then s
  else
    s.settle.mapRow row fun l =>
      { cells := Row.erase first last s.cursor.pen.bg l.cells
        wrapped := l.wrapped && last ≠ s.cols }

/-- Erases whole rows from `first` up to but not including `last`. -/
def eraseRows (s : Screen) (first last : Nat) : Screen :=
  (List.range' first (last - first)).foldl (fun s row => s.eraseCells row 0 s.cols) s

/-- Erases part of the display: 0 from the cursor on, 1 up to the cursor, 2 all
of it; 3 forgets the scrollback. -/
def eraseInDisplay (s : Screen) (mode : Nat) : Screen :=
  let { col, row, .. } := s.cursor
  match mode with
  | 0 => (s.eraseCells row col s.cols).eraseRows (row + 1) s.rows
  | 1 => (s.eraseRows 0 row).eraseCells row 0 (col + 1)
  | 2 => s.eraseRows 0 s.rows
  | 3 => { s with scrollback := s.scrollback.clear }
  | _ => s

/-- Erases part of the row of the cursor: 0 from the cursor on, 1 up to the
cursor, 2 all of it. -/
def eraseInLine (s : Screen) (mode : Nat) : Screen :=
  let { col, row, .. } := s.cursor
  match mode with
  | 0 => s.eraseCells row col s.cols
  | 1 => s.eraseCells row 0 (col + 1)
  | 2 => s.eraseCells row 0 s.cols
  | _ => s

/-- Erases `n` cells from the cursor on. -/
def eraseChars (s : Screen) (n : Nat) : Screen :=
  s.eraseCells s.cursor.row s.cursor.col (s.cursor.col + n)

/-- Opens `n` blank cells at the cursor. -/
def insertChars (s : Screen) (n : Nat) : Screen :=
  (s.mapCells s.cursor.row (Row.openAt s.cursor.col n)).settle

/-- Takes `n` cells out at the cursor. -/
def deleteChars (s : Screen) (n : Nat) : Screen :=
  (s.mapCells s.cursor.row (Row.closeAt s.cursor.col n)).settle

end Teletype.Screen

import Teletype.Screen.Basic

/-!
# Moving the cursor

Positions, tab stops and margins, and the two saved cursors. Nothing here
touches a cell.
-/

namespace Teletype.Screen

/-! ## Positions -/

/-- To a position. In origin mode rows are counted from the top margin. -/
def moveTo (s : Screen) (row col : Nat) : Screen :=
  let row := if s.cursor.originMode then min (s.top + row) s.bottom else min row (s.rows - 1)
  s.mapCursor (·.place (min col (s.cols - 1)) row)

/-- To a column of the row. -/
def moveToCol (s : Screen) (col : Nat) : Screen :=
  s.mapCursor fun c => c.place (min col (s.cols - 1)) c.row

/-- To a row, in the column. -/
def moveToRow (s : Screen) (row : Nat) : Screen :=
  s.moveTo row s.cursor.col

/-- Up, within the margins. -/
def up (s : Screen) (n : Nat) : Screen :=
  s.mapCursor (·.up n s.top)

/-- Down, within the margins. -/
def down (s : Screen) (n : Nat) : Screen :=
  s.mapCursor (·.down n s.bottom s.rows)

/-- Right. -/
def forward (s : Screen) (n : Nat) : Screen :=
  s.mapCursor (·.right n s.cols)

/-- Left. -/
def backward (s : Screen) (n : Nat) : Screen :=
  s.mapCursor (·.left n)

/-- To the first column. -/
def carriageReturn (s : Screen) : Screen :=
  s.mapCursor Cursor.carriageReturn

/-! ## Tab stops -/

/-- The columns with a tab stop, from the left. -/
def tabStops (s : Screen) : List Nat :=
  (List.range s.cols).filter fun col => s.tabs.getD col false

/-- To the `n`th tab stop on the right, or the last column. -/
def tabForward (s : Screen) (n : Nat) : Screen :=
  let stops := s.tabStops.filter (s.cursor.col < ·)
  let col := if n = 0 then s.cursor.col else stops.getD (n - 1) (s.cols - 1)
  s.mapCursor fun c => c.place col c.row

/-- To the `n`th tab stop on the left, or the first column. -/
def tabBackward (s : Screen) (n : Nat) : Screen :=
  let stops := (s.tabStops.filter (· < s.cursor.col)).reverse
  let col := if n = 0 then s.cursor.col else stops.getD (n - 1) 0
  s.mapCursor fun c => c.place col c.row

/-- Sets a tab stop in the column of the cursor. -/
def setTab (s : Screen) : Screen :=
  { s with tabs := s.tabs.set s.cursor.col true }

/-- Clears the tab stop in the column of the cursor. -/
def clearTab (s : Screen) : Screen :=
  { s with tabs := s.tabs.set s.cursor.col false }

/-- Clears every tab stop. -/
def clearTabs (s : Screen) : Screen :=
  { s with tabs := s.tabs.map fun _ => false }

/-! ## Margins -/

/-- The whole screen scrolls. -/
def clearMargins (s : Screen) : Screen :=
  { s with top := 0, bottom := s.rows - 1 }

/-- Only the rows from `top` to `bottom` scroll. Fewer than two rows make no
region. The cursor goes to the first position. -/
def setMargins (s : Screen) (top bottom : Nat) : Screen :=
  let bottom := min bottom (s.rows - 1)
  let s := if top < bottom then { s with top, bottom } else s.clearMargins
  s.moveTo 0 0

/-! ## Saved cursors -/

/-- Remembers the cursor for the grid on display. -/
def saveCursor (s : Screen) : Screen :=
  if s.onAlternate then { s with savedAlternate := s.cursor.save }
  else { s with savedPrimary := s.cursor.save }

/-- Takes up the cursor remembered for the grid on display. -/
def restoreCursor (s : Screen) : Screen :=
  let saved := if s.onAlternate then s.savedAlternate else s.savedPrimary
  s.mapCursor (·.restore saved s.cols s.rows)

end Teletype.Screen

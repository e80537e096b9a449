import Teletype.Reflow
import Teletype.Screen.Buffers

/-!
# Resizing

The scrollback and the primary grid are laid out anew as one text; the rows at
the end fill the grid and the others go back to the scrollback. The alternate
grid is only cut or filled.
-/

namespace Teletype.Screen

/-- Where the cursor stands among the rows of the scrollback and the primary
grid; nowhere while the alternate grid is on display. -/
def trackedCursor? (s : Screen) : Option Position :=
  if s.onAlternate then none
  else some ⟨s.scrollback.lines.length + s.cursor.row, s.cursor.col, s.cursor.pendingWrap⟩

/-- The first of `count` rows to be on a grid of `rows` rows: the last rows are
shown, but never without the row of the cursor. -/
def firstShown (count rows : Nat) (cursor : Option Position) : Nat :=
  match cursor with
  | some p => min (count - rows) p.row
  | none => count - rows

/-- Cuts or fills a grid up to a number of rows. -/
def fitRows (cols rows : Nat) (g : Grid) : Grid :=
  g.take rows ++ List.replicate (rows - g.length) (.blank cols)

/-- Gives the screen a new size, of at least one column and one row. The margins
and the tab stops become those of a new screen. -/
def resize (s : Screen) (cols rows : Nat) : Screen :=
  let cols := max cols 1
  let rows := max rows 1
  if cols = s.cols && rows = s.rows then s
  else
    let (lines, cursor) := reflow cols (s.scrollback.lines ++ s.primary) s.trackedCursor?
    let first := firstShown lines.length rows cursor
    let moved := match cursor with
      | some p => { s.cursor with row := p.row - first, col := p.col, pendingWrap := p.pendingWrap }
      | none => s.cursor
    { s with
      cols, rows
      primary := fitRows cols rows (lines.drop first)
      alternate := fitRows cols rows (s.alternate.map (·.resize cols))
      scrollback := s.scrollback.clear.pushAll (lines.take first)
      cursor := moved.clamp cols rows
      top := 0
      bottom := rows - 1
      tabs := initialTabs cols }

end Teletype.Screen

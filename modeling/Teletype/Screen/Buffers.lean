import Teletype.Screen.Erase

/-!
# Grids and resets

Which grid is on display, the test pattern, and the two resets: the full one,
back to a new screen, and the soft one, which keeps what is printed.
-/

namespace Teletype.Screen

/-- Blanks the alternate grid. -/
def clearAlternate (s : Screen) : Screen :=
  { s with alternate := s.alternate.map Line.clear }

/-- Shows the alternate grid, blanked first if asked for. -/
def enterAlternate (s : Screen) (clear : Bool) : Screen :=
  if s.onAlternate then s
  else
    let s := if clear then s.clearAlternate else s
    { s with onAlternate := true }

/-- Shows the primary grid, the alternate one being blanked first if asked
for. -/
def exitAlternate (s : Screen) (clear : Bool) : Screen :=
  if s.onAlternate then
    let s := if clear then s.clearAlternate else s
    { s with onAlternate := false }
  else s

/-- Fills the grid on display with the letter `E`. -/
def alignmentTest (s : Screen) : Screen :=
  let filled := s.mapGrid (·.map fun l => { cells := l.cells.map fun _ => .written 'E' {} })
  filled.clearMargins.moveTo 0 0

/-- Everything as on a new screen of the size. -/
def reset (s : Screen) : Screen :=
  { s with
    primary := s.primary.map Line.clear
    alternate := s.alternate.map Line.clear
    scrollback := s.scrollback.clear
    cursor := {}
    savedPrimary := {}
    savedAlternate := {}
    top := 0
    bottom := s.rows - 1
    tabs := initialTabs s.cols
    modes := {}
    onAlternate := false }

/-- The pen, the margins, the saved cursors and most modes as on a new screen;
what is printed and the position stay. -/
def softReset (s : Screen) : Screen :=
  { s.clearMargins with
    cursor := { col := s.cursor.col, row := s.cursor.row }
    savedPrimary := {}
    savedAlternate := {}
    modes := { s.modes with applicationCursor := false, applicationKeypad := false } }

end Teletype.Screen

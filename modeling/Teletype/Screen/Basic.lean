import Teletype.Cursor
import Teletype.Scrollback

/-!
# The screen

Two grids of one size, of which one is on display, and what shapes how text
lands in them: the cursor, the margins, the tab stops and the modes. Only the
primary grid has a scrollback.

This file holds the type, the screen a session begins with, and what can be
read off a screen: the rows on display, a cell, and the two texts. Everything
that changes a screen goes through the three updates at its end.
-/

namespace Teletype

/-- The rows of a grid, the top one first. -/
abbrev Grid := List Line

/-- The grid that nothing was printed in. -/
def Grid.blank (cols rows : Nat) : Grid :=
  List.replicate rows (.blank cols)

/-- Modes that do not travel with the cursor. -/
structure Modes where
  /-- Arrow keys send their application form. -/
  applicationCursor : Bool := false
  /-- The keypad sends its application form. -/
  applicationKeypad : Bool := false
  /-- Pasted text is sent between markers. -/
  bracketedPaste : Bool := false
  /-- A line feed also returns to the first column. -/
  linefeedMode : Bool := false
  /-- Ink and paper change places on the whole screen. -/
  reverseVideo : Bool := false
  deriving Repr, DecidableEq, Inhabited

/-- The screen of a terminal. -/
structure Screen where
  cols : Nat
  rows : Nat
  primary : Grid
  alternate : Grid
  scrollback : Scrollback
  cursor : Cursor := {}
  /-- The cursor saved while the primary grid is on display. -/
  savedPrimary : SavedCursor := {}
  /-- The cursor saved while the alternate grid is on display. -/
  savedAlternate : SavedCursor := {}
  /-- The first row of the scroll region. -/
  top : Nat := 0
  /-- The last row of the scroll region. -/
  bottom : Nat
  /-- For each column, whether a tab stops there. -/
  tabs : List Bool
  modes : Modes := {}
  /-- Whether the alternate grid is on display. -/
  onAlternate : Bool := false
  deriving Repr, DecidableEq

namespace Screen

/-- The tab stops of a new screen: every eighth column but the first. -/
def initialTabs (cols : Nat) : List Bool :=
  (List.range cols).map fun col => 0 < col && col % 8 == 0

/-- The screen a session begins with. It has at least one column and one row. -/
def initial (cols rows capacity : Nat) : Screen :=
  let cols := max cols 1
  let rows := max rows 1
  { cols, rows
    primary := .blank cols rows
    alternate := .blank cols rows
    scrollback := { capacity }
    bottom := rows - 1
    tabs := initialTabs cols }

/-- The grid on display. -/
def grid (s : Screen) : Grid :=
  if s.onAlternate then s.alternate else s.primary

/-- A row on display. -/
def line? (s : Screen) (row : Nat) : Option Line :=
  s.grid[row]?

/-- A cell on display. -/
def cell? (s : Screen) (col row : Nat) : Option Cell :=
  (s.line? row).bind fun l => l.cells[col]?

/-- The rows on display as text, one below the other. -/
def text (s : Screen) : String :=
  "\n".intercalate (s.grid.map Line.text)

/-- The scrollback and the primary grid as one text. Rows that a soft wrap
joins are one line of it, and white space at the very end is dropped. -/
def transcript (s : Screen) : String :=
  Text.trimBlanks <| String.join <| (s.scrollback.lines ++ s.primary).map fun l =>
    if l.wrapped then l.fullText else l.text ++ "\n"

/-! ## Updates -/

/-- Changes the grid on display. -/
def mapGrid (s : Screen) (f : Grid → Grid) : Screen :=
  if s.onAlternate then { s with alternate := f s.alternate } else { s with primary := f s.primary }

/-- Changes a row on display. -/
def mapRow (s : Screen) (row : Nat) (f : Line → Line) : Screen :=
  s.mapGrid (·.modify row f)

/-- Changes the cells of a row on display. -/
def mapCells (s : Screen) (row : Nat) (f : List Cell → List Cell) : Screen :=
  s.mapRow row fun l => { l with cells := f l.cells }

/-- Changes the cursor. -/
def mapCursor (s : Screen) (f : Cursor → Cursor) : Screen :=
  { s with cursor := f s.cursor }

@[simp] theorem grid_mapGrid (s : Screen) (f : Grid → Grid) : (s.mapGrid f).grid = f s.grid := by
  cases h : s.onAlternate <;> simp [mapGrid, grid, h]

@[simp] theorem onAlternate_mapGrid (s : Screen) (f : Grid → Grid) :
    (s.mapGrid f).onAlternate = s.onAlternate := by
  cases h : s.onAlternate <;> simp [mapGrid, h]

@[simp] theorem cursor_mapGrid (s : Screen) (f : Grid → Grid) :
    (s.mapGrid f).cursor = s.cursor := by
  cases h : s.onAlternate <;> simp [mapGrid, h]

@[simp] theorem scrollback_mapGrid (s : Screen) (f : Grid → Grid) :
    (s.mapGrid f).scrollback = s.scrollback := by
  cases h : s.onAlternate <;> simp [mapGrid, h]

end Screen

end Teletype

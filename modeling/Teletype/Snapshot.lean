import Teletype.Screen.Basic

/-!
# Snapshots

A copy of what is on display, as plain data to draw or to compare. It keeps of
each cell what a drawing needs: the text, the pen, and the columns taken, with
no columns for the right half of a character.
-/

namespace Teletype

/-- A cell as a snapshot keeps it. -/
structure CellSnapshot where
  content : String
  pen : Pen
  /-- 0 for the right half of a character, otherwise 1 or 2. -/
  width : UInt8
  deriving Repr, DecidableEq

/-- The cursor as a snapshot keeps it. -/
structure CursorSnapshot where
  col : Nat
  row : Nat
  visible : Bool
  deriving Repr, DecidableEq

/-- A copy of what is on display. -/
structure Snapshot where
  cols : Nat
  rows : Nat
  title : String
  cursor : CursorSnapshot
  alternateScreen : Bool
  /-- The rows in the scrollback. -/
  scrollbackLines : Nat
  /-- The rows on display, the top one first. -/
  grid : List (List CellSnapshot)
  deriving Repr, DecidableEq

/-- A copy of a cell. -/
def CellSnapshot.ofCell (c : Cell) : CellSnapshot :=
  { content := c.content
    pen := c.pen
    width := if c.tail then 0 else UInt8.ofNat (max 1 (min c.width 2)) }

/-- The text a reader sees in a cell. -/
def CellSnapshot.shown (c : CellSnapshot) : String :=
  if c.content.isEmpty then " " else c.content

namespace Snapshot

/-- A copy of the screen, under a title. -/
def ofScreen (s : Screen) (title : String) : Snapshot :=
  { cols := s.cols
    rows := s.rows
    title
    cursor := { col := s.cursor.col, row := s.cursor.row, visible := s.cursor.visible }
    alternateScreen := s.onAlternate
    scrollbackLines := s.scrollback.lines.length
    grid := (List.range s.rows).map fun row =>
      match s.line? row with
      | some l => l.cells.map .ofCell
      | none => [] }

/-- The text of a row, without the spaces at its end. -/
def rowText (cells : List CellSnapshot) : String :=
  Text.trimSpaces (String.join ((cells.filter (·.width ≠ 0)).map CellSnapshot.shown))

/-- The rows as text, each ended by a newline, up to the last one that is not
empty. The first row is always there. -/
def text (s : Snapshot) : String :=
  let rows := s.grid.map rowText
  let used := max 1 (Text.dropEndWhile String.isEmpty rows).length
  String.join ((rows.take used).map (· ++ "\n"))

end Snapshot

end Teletype

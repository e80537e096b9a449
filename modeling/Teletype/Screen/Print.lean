import Teletype.Screen.Scroll

/-!
# Printing

A character is written at the cursor with its pen, and the cursor moves on.
After the last column the cursor stays where it is with a wrap pending, and
the next character first goes to the row below; the row left that way carries
the mark of a soft wrap. A character without a column joins the character
before the cursor.
-/

namespace Teletype.Screen

/-- To the first column of the row below, the row left being marked as running
on. -/
def wrap (s : Screen) : Screen :=
  let s := s.mapRow s.cursor.row fun l => { l with wrapped := true }
  (s.mapCursor (·.place 0 s.cursor.row)).advance

/-- The column of the character before the cursor. -/
def columnBefore? (s : Screen) : Option Nat :=
  if s.cursor.pendingWrap then some s.cursor.col
  else if s.cursor.col = 0 then none
  else some (s.cursor.col - 1)

/-- Adds a mark to the character before the cursor. -/
def combine (s : Screen) (mark : Char) : Screen :=
  match s.columnBefore? with
  | none => s
  | some col =>
    let onTail := 0 < col && (s.cell? col s.cursor.row).any (·.tail)
    let col := if onTail then col - 1 else col
    s.mapCells s.cursor.row (·.modify col (·.combine mark))

/-- Moves the cursor on over the `width` columns just written. -/
def moveOn (s : Screen) (width : Nat) : Screen :=
  s.mapCursor fun c =>
    if s.cols ≤ c.col + width then { c with col := s.cols - 1, pendingWrap := c.autowrap }
    else { c with col := c.col + width }

/-- Writes a character of `width` columns at the cursor, which has room for
it. -/
def write (s : Screen) (c : Char) (width : Nat) : Screen :=
  let { col, row, pen, insertMode, .. } := s.cursor
  let s := if insertMode then s.mapCells row (Row.openAt col width) else s
  (s.mapCells row (Row.write col c (width == 2) pen)).moveOn width

/-- Prints a character. One of two columns that finds only the last column
free leaves it blank and wraps; it is dropped where wrapping is off or could
not help. -/
def print (s : Screen) (c : Char) : Screen :=
  let width := Text.charWidth c
  if width = 0 then s.combine c
  else
    let s := if s.cursor.pendingWrap && s.cursor.autowrap then s.wrap else s
    if width = 2 && s.cols ≤ s.cursor.col + 1 then
      if !s.cursor.autowrap || s.cols < 2 then s
      else
        let s := s.mapCells s.cursor.row (·.set s.cursor.col .blank)
        s.wrap.write c width
    else s.write c width

/-- Prints a text. -/
def printAll (s : Screen) (text : List Char) : Screen :=
  text.foldl print s

end Teletype.Screen

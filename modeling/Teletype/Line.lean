import Teletype.Cell
import Teletype.Text.Blank

/-!
# Lines

A row of cells, with the mark of a soft wrap when its text runs on in the row
below. The row operations at the end of the file work on the cells alone; each
of them keeps the length of the row.
-/

namespace Teletype

/-- A row of cells. -/
structure Line where
  cells : List Cell
  /-- Whether the text runs on into the next row. -/
  wrapped : Bool := false
  deriving Repr, DecidableEq, Inhabited

namespace Line

/-- A row of cells that nothing was printed in. -/
def blank (cols : Nat) : Line :=
  { cells := List.replicate cols .blank }

/-- The cells up to the last one that shows. -/
def content (cells : List Cell) : List Cell :=
  Text.dropEndWhile Cell.isBlank cells

/-- How many cells there are up to the last one that shows. -/
def contentLength (l : Line) : Nat :=
  (content l.cells).length

/-- Whether nothing shows and nothing runs on. -/
def isBlank (l : Line) : Bool :=
  !l.wrapped && l.contentLength == 0

/-- Every cell blank again, and no soft wrap. -/
def clear (l : Line) : Line :=
  { cells := l.cells.map fun _ => .blank }

/-- Cells cut or filled up to a length. -/
def fit (cols : Nat) (cells : List Cell) : List Cell :=
  cells.take cols ++ List.replicate (cols - cells.length) .blank

/-- Cuts or fills the row. A character of two columns that loses its right half
goes, and the soft wrap with it. -/
def resize (l : Line) (cols : Nat) : Line :=
  let cells := fit cols l.cells
  if cells.getLast?.any (1 < ·.width) then
    { cells := cells.set (cols - 1) .blank }
  else { l with cells }

/-- The text of every column. -/
def fullText (l : Line) : String :=
  String.join ((l.cells.filter (!·.tail)).map Cell.shown)

/-- The text without the spaces at its end. -/
def text (l : Line) : String :=
  Text.trimSpaces l.fullText

@[simp] theorem length_fit (cols : Nat) (cells : List Cell) : (fit cols cells).length = cols := by
  simp only [fit, List.length_append, List.length_take, List.length_replicate]
  omega

@[simp] theorem length_blank (cols : Nat) : (blank cols).cells.length = cols := by
  simp [blank]

@[simp] theorem length_clear (l : Line) : l.clear.cells.length = l.cells.length := by
  simp [clear]

@[simp] theorem length_resize (l : Line) (cols : Nat) : (l.resize cols).cells.length = cols := by
  simp only [resize]
  split <;> simp

/-- Clearing a row leaves the blank row of its length. -/
theorem clear_eq_blank (l : Line) : l.clear = blank l.cells.length := by
  simp [clear, blank, List.map_const']

end Line

/-! ## Row operations -/

namespace Row

/-- Blanks the other half of the character that the cell at `col` is a half of,
because that cell is about to change. -/
def clearOtherHalf (col : Nat) (cells : List Cell) : List Cell :=
  match cells[col]? with
  | none => cells
  | some c =>
    if c.tail && 0 < col then cells.set (col - 1) .blank
    else if 1 < c.width then cells.set (col + 1) .blank
    else cells

/-- Replaces the cells from `first` up to but not including `last`. -/
def fill (first last : Nat) (c : Cell) (cells : List Cell) : List Cell :=
  cells.take first
    ++ (List.replicate (min last cells.length - first) c ++ cells.drop (max first last))

/-- Opens `count` blank cells at `col`. What is pushed past the end is lost, and
a character that keeps only its left half goes. -/
def openAt (col count : Nat) (cells : List Cell) : List Cell :=
  if cells.length ≤ col then cells
  else
    let cells := clearOtherHalf col cells
    let count := min count (cells.length - col)
    let shifted :=
      cells.take col ++ (List.replicate count .blank ++
        (cells.drop col).take (cells.length - col - count))
    if shifted.getLast?.any (1 < ·.width) then shifted.set (shifted.length - 1) .blank
    else shifted

/-- Takes `count` cells out at `col` and fills up with blanks at the end. A
character that keeps only its right half goes. -/
def closeAt (col count : Nat) (cells : List Cell) : List Cell :=
  let cells := clearOtherHalf col cells
  let count := min count (cells.length - col)
  let shifted := cells.take col ++ (cells.drop (col + count) ++ List.replicate count .blank)
  if shifted[col]?.any (·.tail) then shifted.set col .blank else shifted

/-- Erases the cells from `first` up to but not including `last`, and with them
the characters cut at either edge. -/
def erase (first last : Nat) (bg : Color) (cells : List Cell) : List Cell :=
  fill first last (.erased bg) (clearOtherHalf (last - 1) (clearOtherHalf first cells))

/-- Writes a character of one or two columns at `col`, and blanks what is left
of the characters under it. -/
def write (col : Nat) (c : Char) (wide : Bool) (pen : Pen) (cells : List Cell) : List Cell :=
  if wide then
    ((clearOtherHalf (col + 1) (clearOtherHalf col cells)).set col (.written c pen)).set (col + 1)
      (.wideTail pen)
  else (clearOtherHalf col cells).set col (.written c pen)

@[simp] theorem length_clearOtherHalf (col : Nat) (cells : List Cell) :
    (clearOtherHalf col cells).length = cells.length := by
  unfold clearOtherHalf
  split
  · rfl
  · split
    · simp
    · split <;> simp

theorem length_fill {first last : Nat} {c : Cell} {cells : List Cell} (h : first ≤ last)
    (hl : last ≤ cells.length) : (fill first last c cells).length = cells.length := by
  simp only [fill, List.length_append, List.length_take, List.length_replicate, List.length_drop]
  omega

@[simp] theorem length_openAt (col count : Nat) (cells : List Cell) :
    (openAt col count cells).length = cells.length := by
  unfold openAt
  split
  · rfl
  · next h =>
    dsimp only
    split
    all_goals
      simp only [List.length_set, List.length_append, List.length_take, List.length_replicate,
        List.length_drop, length_clearOtherHalf]
      omega

theorem length_closeAt {col : Nat} (count : Nat) {cells : List Cell} (h : col ≤ cells.length) :
    (closeAt col count cells).length = cells.length := by
  unfold closeAt
  dsimp only
  split
  all_goals
    simp only [List.length_set, List.length_append, List.length_take, List.length_replicate,
      List.length_drop, length_clearOtherHalf]
    omega

theorem length_erase {first last : Nat} (bg : Color) {cells : List Cell} (h : first ≤ last)
    (hl : last ≤ cells.length) : (erase first last bg cells).length = cells.length := by
  unfold erase
  rw [length_fill h (by simpa using hl)]
  simp

@[simp] theorem length_write (col : Nat) (c : Char) (wide : Bool) (pen : Pen) (cells : List Cell) :
    (write col c wide pen cells).length = cells.length := by
  unfold write
  split <;> simp

end Row

end Teletype

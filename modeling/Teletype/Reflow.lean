import Teletype.Line

/-!
# Reflow

A change of width lays the text out anew. Rows that soft wraps join are one
paragraph; each paragraph is cut into rows of the new width, all of them
running on except the last. A character of two columns is not cut: where only
one column is left the row ends with a blank cell.

The cursor is carried along as a mark in its paragraph, `Paragraph.mark` cells
from the start, which may be past the end of the text.
-/

namespace Teletype

/-- Where a cursor stands among rows. -/
structure Position where
  row : Nat
  col : Nat
  pendingWrap : Bool
  deriving Repr, DecidableEq

/-- The text of rows that soft wraps join, and the place of the cursor if it is
in one of them. -/
structure Paragraph where
  cells : List Cell
  mark : Option Nat := none
  deriving Repr, DecidableEq

namespace Reflow

/-! ## From rows to paragraphs -/

/-- What a row gives to its paragraph. The blank cells at the end of a row that
runs on only filled it up. -/
def contribution (l : Line) : List Cell :=
  if l.wrapped then Line.content l.cells else l.cells

/-- Puts a row in front of a paragraph. -/
def prependRow (l : Line) (mark : Option Nat) (p : Paragraph) : Paragraph :=
  let cells := contribution l
  { cells := cells ++ p.cells
    mark := mark <|> p.mark.map (cells.length + ·) }

/-- Adds a row, with the column of the cursor if it is in it, in front of the
paragraphs of the rows below. A row that runs on opens no paragraph of its own
if there is nothing in it. -/
def addRow (row : Line × Option Nat) (below : List Paragraph) : List Paragraph :=
  let (l, mark) := row
  match l.wrapped, below with
  | false, below => prependRow l mark { cells := [] } :: below
  | true, p :: below => prependRow l mark p :: below
  | true, [] =>
    let p := prependRow l mark { cells := [] }
    if p.cells.isEmpty && p.mark.isNone then [] else [p]

/-- The paragraphs of rows. -/
def paragraphs (rows : List (Line × Option Nat)) : List Paragraph :=
  rows.foldr addRow []

/-- The rows with the column of the cursor beside the row that it is in. -/
def marked (rows : List Line) (cursor : Option Position) : List (Line × Option Nat) :=
  rows.zipIdx.map fun (l, i) =>
    (l, cursor.bind fun p => if p.row = i then some p.col else none)

/-! ## From a paragraph to rows -/

/-- Cuts cells into rows of `cols` cells, going on with a row begun. A head and
its tail stay together; a single column has room for the head alone. -/
def cut (cols : Nat) : List Cell → List Cell → List (List Cell)
  | row, [] => [row]
  | row, [c] =>
    if cols < row.length + 1 && !row.isEmpty then [row, [c]] else [row ++ [c]]
  | row, c :: next :: rest =>
    if next.tail then
      let pair := if 2 ≤ cols then [c, next] else [c]
      if cols < row.length + 2 && !row.isEmpty then row :: cut cols pair rest
      else cut cols (row ++ pair) rest
    else
      if cols < row.length + 1 && !row.isEmpty then row :: cut cols [c] (next :: rest)
      else cut cols (row ++ [c]) (next :: rest)

/-- Where the cell `target` comes to stand when `cut` goes on with row `row`, of
which `used` cells are taken. A target past the end counts on in blank cells,
and right behind a full row it is a pending wrap. -/
def locate (cols : Nat) (row used : Nat) : List Cell → Nat → Position
  | [], past =>
    if past = 0 && used = cols then ⟨row, cols - 1, true⟩
    else ⟨row + (used + past) / cols, (used + past) % cols, false⟩
  | [_], target =>
    let (row, used) := if cols < used + 1 && used ≠ 0 then (row + 1, 0) else (row, used)
    if target = 0 then ⟨row, used, false⟩
    else locate cols row (used + 1) [] (target - 1)
  | _ :: next :: rest, target =>
    if next.tail then
      let (row, used) := if cols < used + 2 && used ≠ 0 then (row + 1, 0) else (row, used)
      if target < 2 then ⟨row, used, false⟩
      else locate cols row (used + if 2 ≤ cols then 2 else 1) rest (target - 2)
    else
      let (row, used) := if cols < used + 1 && used ≠ 0 then (row + 1, 0) else (row, used)
      if target = 0 then ⟨row, used, false⟩
      else locate cols row (used + 1) (next :: rest) (target - 1)

/-- Fills rows up to `cols` cells and marks all but the last as running on. -/
def asLines (cols : Nat) : List (List Cell) → List Line
  | [] => []
  | [row] => [{ cells := Line.fit cols row }]
  | row :: rest => { cells := Line.fit cols row, wrapped := true } :: asLines cols rest

/-- The rows of a paragraph. -/
def lay (cols : Nat) (p : Paragraph) : List Line :=
  asLines cols (cut cols [] (Line.content p.cells))

/-- Where the mark of a paragraph comes to stand among its rows. A cursor that
had a wrap pending stays right behind the character that it stood on. -/
def place? (cols : Nat) (pendingWrap : Bool) (p : Paragraph) : Option Position :=
  p.mark.map fun mark =>
    let spot := locate cols 0 0 (Line.content p.cells) mark
    if spot.pendingWrap then spot
    else if pendingWrap && spot.col + 1 < cols then { spot with col := spot.col + 1 }
    else { spot with pendingWrap }

/-! ## All rows -/

/-- The rows without the blank ones at the end; the row of the cursor and those
above it stay. -/
def dropBlankEnd (rows : List Line) (cursor : Option Position) : List Line :=
  let kept := match cursor with
    | some p => p.row + 1
    | none => 0
  rows.take kept ++ Text.dropEndWhile Line.isBlank (rows.drop kept)

/-- The rows of paragraphs, and the position of the cursor among them. -/
def layAll (cols : Nat) (pendingWrap : Bool) : List Paragraph → List Line × Option Position
  | [] => ([], none)
  | p :: rest =>
    let rows := lay cols p
    let (others, later) := layAll cols pendingWrap rest
    let here := place? cols pendingWrap p
    (rows ++ others, here <|> later.map fun q => { q with row := rows.length + q.row })

/-- Adds blank rows until there is one with the number `row`. -/
def reach (cols row : Nat) (rows : List Line) : List Line :=
  rows ++ List.replicate (row + 1 - rows.length) (.blank cols)

end Reflow

/-- The rows laid out anew at a width of `cols`, and where the cursor stands
among them. -/
def reflow (cols : Nat) (rows : List Line) (cursor : Option Position) :
    List Line × Option Position :=
  let rows := Reflow.dropBlankEnd rows cursor
  let pendingWrap := cursor.any (·.pendingWrap)
  match Reflow.layAll cols pendingWrap (Reflow.paragraphs (Reflow.marked rows cursor)) with
  | (rows, some p) => (Reflow.reach cols p.row rows, some p)
  | (rows, none) => (rows, none)

/-- Behind the rows of the paragraphs there are blank ones at most. -/
theorem mem_of_mem_reflow {cols : Nat} {rows : List Line} {cursor : Option Position} {l : Line}
    (h : l ∈ (reflow cols rows cursor).1) :
    l ∈ (Reflow.layAll cols (cursor.any (·.pendingWrap))
      (Reflow.paragraphs (Reflow.marked (Reflow.dropBlankEnd rows cursor) cursor))).1 ∨
        l = .blank cols := by
  simp only [reflow] at h
  split at h
  · next laid p heq =>
    rw [heq]
    exact (List.mem_append.mp h).imp_right List.eq_of_mem_replicate
  · next laid heq =>
    rw [heq]
    exact .inl h

end Teletype

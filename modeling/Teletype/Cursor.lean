import Teletype.Pen

/-!
# The cursor

Where the next character goes, what it is drawn with, and the modes that are
saved and restored together with the position. Every movement gives up a
pending wrap.
-/

namespace Teletype

/-- The cursor and what travels with it. -/
structure Cursor where
  col : Nat := 0
  row : Nat := 0
  visible : Bool := true
  pen : Pen := {}
  /-- Rows are counted from the top margin and end at the bottom one. -/
  originMode : Bool := false
  autowrap : Bool := true
  /-- The last column was written, and the next character wraps first. -/
  pendingWrap : Bool := false
  insertMode : Bool := false
  deriving Repr, DecidableEq, Inhabited

/-- What saving the cursor remembers. -/
structure SavedCursor where
  col : Nat := 0
  row : Nat := 0
  pen : Pen := {}
  originMode : Bool := false
  autowrap : Bool := true
  deriving Repr, DecidableEq, Inhabited

namespace Cursor

/-- Puts the cursor somewhere. -/
def place (c : Cursor) (col row : Nat) : Cursor :=
  { c with col, row, pendingWrap := false }

/-- Up `n` rows, not past the top margin when starting below it and never past
the first row. -/
def up (c : Cursor) (n top : Nat) : Cursor :=
  c.place c.col (max (c.row - n) (if c.row < top then 0 else top))

/-- Down `n` rows, not past the bottom margin when starting above it and never
past the last row. -/
def down (c : Cursor) (n bottom rows : Nat) : Cursor :=
  c.place c.col (min (c.row + n) (if bottom < c.row then rows - 1 else bottom))

/-- Left `n` columns, not past the first. -/
def left (c : Cursor) (n : Nat) : Cursor :=
  c.place (c.col - n) c.row

/-- Right `n` columns, not past the last. -/
def right (c : Cursor) (n cols : Nat) : Cursor :=
  c.place (min (c.col + n) (cols - 1)) c.row

/-- To the first column. -/
def carriageReturn (c : Cursor) : Cursor :=
  c.place 0 c.row

/-- Back inside a grid of the given size. -/
def clamp (c : Cursor) (cols rows : Nat) : Cursor :=
  let c := if cols ≤ c.col then c.place (cols - 1) c.row else c
  { c with row := min c.row (rows - 1) }

/-- What is remembered of the cursor. -/
def save (c : Cursor) : SavedCursor :=
  { col := c.col, row := c.row, pen := c.pen, originMode := c.originMode, autowrap := c.autowrap }

/-- Takes up what was remembered, inside a grid of the given size. -/
def restore (c : Cursor) (saved : SavedCursor) (cols rows : Nat) : Cursor :=
  { c.place (min saved.col (cols - 1)) (min saved.row (rows - 1)) with
    pen := saved.pen, originMode := saved.originMode, autowrap := saved.autowrap }

end Cursor

end Teletype

import Teletype.Screen.Motion

/-!
# Moving rows

Scrolling, inserting and deleting rows shift the rows of a block and fill it
up with blank ones. Rows that leave the top of the primary grid by scrolling
go to the scrollback; deleted rows do not.
-/

namespace Teletype

namespace Grid

/-- Shifts the rows from `top` to `bottom` up by `n`, with new rows below. -/
def shiftUp (g : Grid) (top bottom n : Nat) (fill : Line) : Grid :=
  g.take top
    ++ ((g.take (bottom + 1)).drop (top + n) ++ (List.replicate n fill ++ g.drop (bottom + 1)))

/-- Shifts the rows from `top` to `bottom` down by `n`, with new rows above. -/
def shiftDown (g : Grid) (top bottom n : Nat) (fill : Line) : Grid :=
  g.take top
    ++ (List.replicate n fill ++ ((g.take (bottom + 1 - n)).drop top ++ g.drop (bottom + 1)))

theorem length_shiftUp {g : Grid} {top bottom n : Nat} (fill : Line) (hn : top + n ≤ bottom + 1)
    (hb : bottom < g.length) : (g.shiftUp top bottom n fill).length = g.length := by
  simp only [shiftUp, List.length_append, List.length_take, List.length_drop, List.length_replicate]
  omega

theorem length_shiftDown {g : Grid} {top bottom n : Nat} (fill : Line) (hn : top + n ≤ bottom + 1)
    (hb : bottom < g.length) : (g.shiftDown top bottom n fill).length = g.length := by
  simp only [shiftDown, List.length_append, List.length_take, List.length_drop,
    List.length_replicate]
  omega

end Grid

namespace Screen

/-- Moves the rows of the region up. What leaves the top of the primary grid
goes to the scrollback. -/
def scrollUp (s : Screen) (n : Nat) : Screen :=
  let n := min n (s.bottom - s.top + 1)
  let leaving := if !s.onAlternate && s.top == 0 then s.primary.take n else []
  { s.mapGrid (·.shiftUp s.top s.bottom n (.blank s.cols)) with
    scrollback := s.scrollback.pushAll leaving }

/-- Moves the rows of the region down. The row above the region no longer runs
on into it. -/
def scrollDown (s : Screen) (n : Nat) : Screen :=
  let n := min n (s.bottom - s.top + 1)
  if n = 0 then s
  else
    let s := s.mapGrid (·.shiftDown s.top s.bottom n (.blank s.cols))
    if s.top = 0 then s else s.mapRow (s.top - 1) fun l => { l with wrapped := false }

/-- Whether the cursor is in a row that scrolls. -/
def inMargins (s : Screen) : Bool :=
  s.top ≤ s.cursor.row && s.cursor.row ≤ s.bottom

/-- Opens blank rows at the cursor, inside the margins. -/
def insertLines (s : Screen) (n : Nat) : Screen :=
  if s.inMargins then
    let n := min n (s.bottom - s.cursor.row + 1)
    (s.mapGrid (·.shiftDown s.cursor.row s.bottom n (.blank s.cols))).carriageReturn
  else s

/-- Takes rows out at the cursor, inside the margins. -/
def deleteLines (s : Screen) (n : Nat) : Screen :=
  if s.inMargins then
    let n := min n (s.bottom - s.cursor.row + 1)
    (s.mapGrid (·.shiftUp s.cursor.row s.bottom n (.blank s.cols))).carriageReturn
  else s

/-! ## Feeding lines -/

/-- To the row below; at the bottom margin the region scrolls instead. -/
def advance (s : Screen) : Screen :=
  if s.cursor.row = s.bottom then s.scrollUp 1
  else if s.cursor.row + 1 < s.rows then s.mapCursor fun c => { c with row := c.row + 1 }
  else s

/-- Gives up a pending wrap. -/
def settle (s : Screen) : Screen :=
  s.mapCursor fun c => { c with pendingWrap := false }

/-- To the row below, in the column. -/
def index (s : Screen) : Screen :=
  s.settle.advance

/-- To the row above; at the top margin the region scrolls instead. -/
def reverseIndex (s : Screen) : Screen :=
  let s := s.settle
  if s.cursor.row = s.top then s.scrollDown 1
  else s.mapCursor fun c => { c with row := c.row - 1 }

/-- To the first column of the row below. -/
def nextLine (s : Screen) : Screen :=
  s.index.mapCursor fun c => { c with col := 0 }

/-- A line feed. -/
def linefeed (s : Screen) : Screen :=
  if s.modes.linefeedMode then s.nextLine else s.index

theorem advance_of_bottom {s : Screen} (h : s.cursor.row = s.bottom) :
    s.advance = s.scrollUp 1 :=
  if_pos h

theorem advance_of_lt {s : Screen} (hb : s.cursor.row ≠ s.bottom)
    (h : s.cursor.row + 1 < s.rows) :
    s.advance = s.mapCursor fun c => { c with row := c.row + 1 } := by
  rw [advance, if_neg hb, if_pos h]

/-- In the last row, below the region, there is nowhere to go. -/
theorem advance_of_last {s : Screen} (hb : s.cursor.row ≠ s.bottom)
    (h : ¬ s.cursor.row + 1 < s.rows) : s.advance = s := by
  rw [advance, if_neg hb, if_neg h]

/-- What can become of a screen when the cursor goes to the row below. -/
@[elab_as_elim]
theorem advance_cases {motive : Screen → Prop} {s : Screen} (scroll : motive (s.scrollUp 1))
    (down : s.cursor.row + 1 < s.rows → motive (s.mapCursor fun c => { c with row := c.row + 1 }))
    (stay : motive s) : motive s.advance := by
  by_cases hb : s.cursor.row = s.bottom
  · rwa [advance_of_bottom hb]
  · by_cases h : s.cursor.row + 1 < s.rows
    · rw [advance_of_lt hb h]
      exact down h
    · rwa [advance_of_last hb h]

end Screen

end Teletype

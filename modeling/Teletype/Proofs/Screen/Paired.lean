import Teletype.Proofs.Reflow.Paired
import Teletype.Proofs.Screen.Printing

/-!
# Whole characters on a screen

A right half is to stand behind every character of two columns and nowhere
else, in both grids and in the scrollback, so that the columns of every row of
a snapshot add up to the width (`Whole`). This is not kept by every step. The
steps that lose it are told from the cell under the cursor and the modes
(`splits`):

* cells are opened inside a character and do not push it past the end, by
  inserting cells or by printing in insert mode;
* no cell is deleted at the left half of a character;
* a character of two columns is wrapped while the cursor stands on a right half
  in the last column, and the row that it leaves is neither scrolled away nor
  mended by the character;
* the one character of three columns is printed.

Every other step keeps the characters of every row whole, and none of these
does. A run therefore has only `Whole` screens exactly if it takes no such step.
-/

namespace Teletype.Screen

open Row (readHalves shownColumns Torn)

/-- What a reader of the screen may rely on: right halves exactly behind the
characters of two columns, and rows of a snapshot that are as wide as the
screen. -/
structure Whole (s : Screen) : Prop where
  matched : s.AllRows Row.Matched
  columns : ∀ title, ∀ row ∈ (Snapshot.ofScreen s title).grid,
    (row.map fun c => c.width.toNat).sum = s.cols

instance (s : Screen) : Decidable s.Whole :=
  decidable_of_iff (s.AllRows Row.Matched ∧ ∀ row ∈ (Snapshot.ofScreen s "").grid,
      (row.map fun c => c.width.toNat).sum = s.cols)
    ⟨fun ⟨hm, hc⟩ => ⟨hm, fun _ => hc⟩, fun h => ⟨h.matched, h.columns ""⟩⟩

/-- Whether a cell takes the columns of the character that its content begins
with, whatever was combined with it. -/
def hasBaseWidth (c : Cell) : Bool :=
  match c.content.toList with
  | [] => true
  | base :: _ => c.width == Text.charWidth base

/-- Every cell takes the columns of the character that its content begins
with. -/
def BaseWidths (s : Screen) : Prop :=
  s.AllRows fun cells => ∀ c ∈ cells, hasBaseWidth c = true

instance (s : Screen) : Decidable s.BaseWidths :=
  inferInstanceAs (Decidable (s.AllRows _))

/-! ## The steps that split a character -/

/-- The cells of the row of the cursor. -/
def cursorCells (s : Screen) : List Cell :=
  ((s.line? s.cursor.row).map (·.cells)).getD []

/-- Whether opening cells at the cursor splits a character. -/
def opensInside (s : Screen) (count : Nat) : Bool :=
  Row.splits s.cursor.col count s.cursorCells

/-- Whether writing at the cursor splits a character. -/
def writeSplits (s : Screen) (width : Nat) : Bool :=
  s.cursor.insertMode && s.opensInside width

/-- Whether the row of the cursor, torn in its last column, stays torn once a
character of two columns is wrapped to the row below. A block of one row loses
it, to the scrollback if there is one; in a last row that does not scroll it is
the row below itself. -/
def staysTorn (s : Screen) : Bool :=
  if s.cursor.row = s.bottom then
    s.top < s.bottom || (!s.onAlternate && s.top == 0 && 0 < s.scrollback.capacity)
  else s.cursor.row + 1 < s.rows || (!s.cursor.insertMode && 3 < s.cols)

/-- Whether printing a character of one or two columns splits one. -/
def printSplits (s : Screen) (width : Nat) : Bool :=
  let s := s.afterPendingWrap
  if width = 2 && s.cols ≤ s.cursor.col + 1 then
    s.cursor.autowrap &&
      ((s.cursorCells[s.cursor.col]?.any (·.tail) && s.staysTorn) ||
        s.blankCursor.wrap.writeSplits width)
  else s.writeSplits width

/-- Whether an operation splits a character. -/
def splits (s : Screen) : Operation → Bool
  | .print c =>
    Text.charWidth c == 3 || (Text.charWidth c != 0 && s.printSplits (Text.charWidth c))
  | .insertChars n => s.opensInside n
  | .deleteChars n => n == 0 && s.cursorCells[s.cursor.col]?.any (·.width == 2)
  | _ => false

variable {s : Screen} {l : Line} {c : Char} {i width : Nat}

/-! ## What a whole screen has -/

/-- The row of the cursor. -/
theorem WellFormed.exists_cursorLine (hw : s.WellFormed) :
    ∃ l, s.grid[s.cursor.row]? = some l ∧ l ∈ s.grid ∧ l.cells.length = s.cols ∧
      s.cursorCells = l.cells := by
  have hlt : s.cursor.row < s.grid.length := by
    rw [hw.grid.length_eq]
    exact hw.row_lt
  have hget := List.getElem?_eq_getElem hlt
  refine ⟨_, hget, List.getElem_mem hlt, hw.grid.length_cells _ (List.getElem_mem hlt), ?_⟩
  rw [cursorCells, line?, hget]
  rfl

/-- **A screen of whole characters is whole.** -/
theorem AllRows.whole (h : s.AllRows Row.Paired) (hw : s.WellFormed) : s.Whole where
  matched := h.mono fun _ hc => hc.matched
  columns title row hrow := by
    obtain ⟨i, hi, rfl⟩ := List.mem_map.mp hrow
    have hlt : i < s.grid.length := by
      rw [hw.grid.length_eq]
      exact List.mem_range.mp hi
    have hget : s.line? i = some s.grid[i] := List.getElem?_eq_getElem hlt
    have hmem := List.getElem_mem hlt
    rw [hget]
    show ((s.grid[i].cells.map CellSnapshot.ofCell).map fun c => c.width.toNat).sum = s.cols
    rw [List.map_map, ← hw.grid.length_cells _ hmem]
    exact Row.sum_shownColumns_eq (h.grid _ hmem)

theorem not_whole_of_read (hl : l ∈ s.grid) (hread : readHalves false l.cells = none) :
    ¬ s.Whole := fun h =>
  Row.not_matched hread (h.matched.grid l hl)

theorem not_whole_of_sum (hl : s.grid[i]? = some l) (hi : i < s.rows)
    (hsum : (l.cells.map shownColumns).sum ≠ s.cols) : ¬ s.Whole := by
  intro h
  have hrow : l.cells.map CellSnapshot.ofCell ∈ (Snapshot.ofScreen s "").grid := by
    refine List.mem_map.mpr ⟨i, List.mem_range.mpr hi, ?_⟩
    rw [show s.line? i = some l from hl]
  refine hsum (Eq.trans ?_ (h.columns "" _ hrow))
  rw [List.map_map]
  rfl

/-! ## Writing -/

section Write

variable (hw : s.WellFormed) (h : s.AllRows Row.Paired)
  (hwidth : Text.stringWidth c.toString = width)

include hw h hwidth

/-- **Writing keeps characters whole** unless it opens cells inside one. -/
theorem paired_write (hpos : 0 < width) (hle : width ≤ 2) (hroom : s.cursor.col + width ≤ s.cols)
    (hwhole : s.writeSplits width = false) : (s.write c width).AllRows Row.Paired := by
  obtain ⟨l, hl, -, hlen, hcells⟩ := hw.exists_cursorLine
  rw [writeSplits, opensInside, hcells] at hwhole
  rw [write_eq]
  refine (h.mapCells fun k hk => ?_).withCursor _
  obtain rfl : l = k := Option.some.inj (hl.symm.trans hk)
  exact (h.grid l (List.mem_of_getElem? hl)).put hwidth hpos hle (hlen ▸ hroom) hwhole

theorem not_whole_write (hpos : 0 < width) (hsplit : s.writeSplits width = true) :
    ¬ (s.write c width).Whole := by
  obtain ⟨l, hl, hmem, hlen, hcells⟩ := hw.exists_cursorLine
  rw [writeSplits, opensInside, hcells] at hsplit
  have hput := getElem?_grid_write hl c width
  refine not_whole_of_read (List.mem_of_getElem? hput) ?_
  exact (h.grid l hmem).put_read_eq_none (hlen ▸ hw.col_lt) hwidth hpos hsplit

end Write

/-- The one character of three columns makes a row wider than the screen. -/
theorem not_whole_write_three (hw : s.WellFormed) (h : s.AllRows Row.Paired)
    (hwidth : Text.stringWidth c.toString = 3) : ¬ (s.write c 3).Whole := by
  obtain ⟨l, hl, hmem, hlen, -⟩ := hw.exists_cursorLine
  have hput := getElem?_grid_write hl c 3
  have hthree : readHalves false (Row.put s.cursor.insertMode s.cursor.col c 3 s.cursor.pen
      l.cells) = none ∨ _ := (h.grid l hmem).put_three (hlen ▸ hw.col_lt) hwidth
  rcases hthree with hread | hsum
  · exact not_whole_of_read (List.mem_of_getElem? hput) hread
  · refine not_whole_of_sum hput ?_ ?_
    · rw [rows_write]
      exact hw.row_lt
    · rw [cols_write, ← hlen]
      exact hsum

/-! ## Wrapping a torn row -/

/-- The row that a wrap leaves once its last cell is blanked. -/
def leftRow (col : Nat) (l : Line) : Line :=
  { cells := l.cells.set col .blank, wrapped := true }

/-- The screen once the row of the cursor is left with its last cell blanked. -/
def leave (s : Screen) : Screen :=
  s.blankCursor.leaveRow

theorem wrap_blankCursor (s : Screen) : s.blankCursor.wrap = s.leave.advance :=
  wrap_eq _

/-- Blanking the cell and leaving the row are one change of the row. -/
theorem leave_eq_mapRow (s : Screen) : s.leave =
    (s.mapRow s.cursor.row (leftRow s.cursor.col)).mapCursor (·.place 0 s.cursor.row) := by
  have hcursor : s.blankCursor.cursor = s.cursor := cursor_mapCells _ _
  rw [leave, leaveRow, hcursor, blankCursor, mapCells, mapRow_mapRow]
  rfl

theorem getElem?_grid_leave (hl : s.grid[s.cursor.row]? = some l) :
    s.leave.grid[s.cursor.row]? = some (leftRow s.cursor.col l) := by
  rw [leave_eq_mapRow]
  show (s.mapRow s.cursor.row (leftRow s.cursor.col)).grid[s.cursor.row]? = _
  rw [mapRow, grid_mapGrid, List.getElem?_modify_eq, hl]
  rfl

theorem leave_eq (s : Screen) : s.leave.cursor = s.cursor.place 0 s.cursor.row ∧
    s.leave.top = s.top ∧ s.leave.bottom = s.bottom ∧ s.leave.rows = s.rows ∧
    s.leave.cols = s.cols ∧ s.leave.onAlternate = s.onAlternate ∧
    s.leave.scrollback = s.scrollback := by
  rw [leave_eq_mapRow]
  simp [mapCursor, mapRow]

theorem row_leave (s : Screen) : s.leave.cursor.row = s.cursor.row := by
  rw [s.leave_eq.1]
  rfl

theorem advance_leave_of_bottom (hb : s.cursor.row = s.bottom) :
    s.leave.advance = s.leave.scrollUp 1 := by
  obtain ⟨-, -, hbottom, -⟩ := s.leave_eq
  exact advance_of_bottom (by rw [row_leave, hbottom, hb])

theorem advance_leave_of_lt (hb : s.cursor.row ≠ s.bottom) (h : s.cursor.row + 1 < s.rows) :
    s.leave.advance = s.leave.mapCursor fun c => { c with row := c.row + 1 } := by
  obtain ⟨-, -, hbottom, hrows, -⟩ := s.leave_eq
  exact advance_of_lt (by rwa [row_leave, hbottom]) (by rwa [row_leave, hrows])

theorem advance_leave_of_last (hb : s.cursor.row ≠ s.bottom) (h : ¬ s.cursor.row + 1 < s.rows) :
    s.leave.advance = s.leave := by
  obtain ⟨-, -, hbottom, hrows, -⟩ := s.leave_eq
  exact advance_of_last (by rwa [row_leave, hbottom]) (by rwa [row_leave, hrows])

/-! ### Where the row that is left goes -/

/-- In a block of more than one row it comes to stand one row higher. -/
theorem getElem?_scrollUp_leave (hl : s.grid[s.cursor.row]? = some l)
    (hb : s.cursor.row = s.bottom) (hblock : s.top < s.bottom) :
    (s.leave.scrollUp 1).grid[s.bottom - 1]? = some (leftRow s.cursor.col l) := by
  obtain ⟨-, htop, hbottom, -⟩ := s.leave_eq
  have hleft := getElem?_grid_leave hl
  have hlength : s.bottom < s.leave.grid.length := by
    rw [← hb]
    exact (List.getElem?_eq_some_iff.mp hleft).1
  have hindex : s.bottom - 1 + 1 = s.cursor.row := by omega
  rw [grid_scrollUp, htop, hbottom, Nat.min_eq_left (by omega),
    Grid.getElem?_shiftUp _ (by omega) (by omega) hlength, hindex]
  exact hleft

/-- From the only row of the primary grid that scrolls it goes to the
scrollback. -/
theorem mem_scrollback_scrollUp_leave (hl : s.grid[s.cursor.row]? = some l)
    (hb : s.cursor.row = s.bottom) (hprimary : s.onAlternate = false) (htop : s.top = 0)
    (hbottom : s.bottom = 0) (hcapacity : 0 < s.scrollback.capacity) :
    leftRow s.cursor.col l ∈ (s.leave.scrollUp 1).scrollback.lines := by
  obtain ⟨-, htop', hbottom', -, -, halt, hscrollback⟩ := s.leave_eq
  have hgrid : s.leave.grid = s.leave.primary := by
    rw [grid, halt, hprimary]
    rfl
  have hleft := getElem?_grid_leave hl
  have hfirst : s.leave.primary.take 1 = [leftRow s.cursor.col l] := by
    rw [hgrid, hb, hbottom] at hleft
    rw [List.take_one, List.head?_eq_getElem?, hleft]
    rfl
  rw [scrollback_scrollUp, halt, htop', hprimary, htop, hbottom', Nat.min_eq_left (by omega)]
  simp only [Bool.not_false, beq_self_eq_true, Bool.and_self, if_true]
  rw [hfirst, hscrollback]
  exact Scrollback.mem_push_self hcapacity _

/-- What is written where a row was left goes into that row. -/
theorem getElem?_grid_write_leave (hl : s.grid[s.cursor.row]? = some l) (c : Char)
    (width : Nat) : ∃ k, (s.leave.write c width).grid[s.cursor.row]? = some k ∧
      k.cells = Row.put s.cursor.insertMode 0 c width s.cursor.pen
        (leftRow s.cursor.col l).cells := by
  obtain ⟨hcursor, -⟩ := s.leave_eq
  have hleft := getElem?_grid_leave hl
  rw [← row_leave] at hleft
  have hput := getElem?_grid_write hleft c width
  rw [row_leave, hcursor] at hput
  exact ⟨_, hput, rfl⟩

section Leave

variable (hw : s.WellFormed) (h : s.AllRows Row.Paired) (hcol : s.cols ≤ s.cursor.col + 1)

include hw h hcol

/-- A right half in the last column is torn off. -/
theorem exists_torn (htail : s.cursorCells[s.cursor.col]?.any (·.tail) = true) :
    ∃ l rest head, s.grid[s.cursor.row]? = some l ∧
      (leftRow s.cursor.col l).cells = rest ++ [head, .blank] ∧ Torn rest head ∧
      rest.length + 2 = s.cols := by
  obtain ⟨l, hl, hmem, hlen, hcells⟩ := hw.exists_cursorLine
  have hlt := hw.col_lt
  rw [hcells] at htail
  obtain ⟨d, hd, ht⟩ := (Option.any_eq_true _ _).mp htail
  obtain ⟨rest, head, heq, htorn⟩ := (h.grid l hmem).torn_set_last (by omega) hd ht
  refine ⟨l, rest, head, hl, heq, htorn, ?_⟩
  have hset := congrArg List.length heq
  rw [List.length_set, List.length_append, hlen] at hset
  exact hset.symm

/-- Otherwise the row that is left consists of whole characters. -/
theorem paired_blankCursor (htail : s.cursorCells[s.cursor.col]?.any (·.tail) = false) :
    s.blankCursor.AllRows Row.Paired := by
  obtain ⟨l, hl, hmem, hlen, hcells⟩ := hw.exists_cursorLine
  have hlt : s.cursor.col < l.cells.length := by
    rw [hlen]
    exact hw.col_lt
  have hget := List.getElem?_eq_getElem hlt
  rw [hcells, hget, Option.any_some] at htail
  refine h.mapCells fun k hk => ?_
  obtain rfl : l = k := Option.some.inj (hl.symm.trans hk)
  exact (h.grid l hmem).set_last (by omega) hget htail

/-- **A torn row that stays is seen**, whatever is written below it. -/
theorem not_whole_of_staysTorn (htail : s.cursorCells[s.cursor.col]?.any (·.tail) = true)
    (hwidth : Text.stringWidth c.toString = 2) (hstays : s.staysTorn = true) :
    ¬ (s.leave.advance.write c 2).Whole := by
  obtain ⟨l, rest, head, hl, hcells, htorn, hlen⟩ := exists_torn hw h hcol htail
  have hread : readHalves false (leftRow s.cursor.col l).cells = none := by
    rw [hcells]
    exact htorn.read_eq_none
  have hle := hw.top_le
  unfold staysTorn at hstays
  by_cases hb : s.cursor.row = s.bottom
  · rw [if_pos hb, Bool.or_eq_true, decide_eq_true_eq] at hstays
    rw [advance_leave_of_bottom hb]
    by_cases hblock : s.top < s.bottom
    -- the torn row is above the one that is written to
    · have hne : (s.leave.scrollUp 1).cursor.row ≠ s.bottom - 1 := by
        rw [cursor_scrollUp, row_leave]
        omega
      have hget := (getElem?_grid_write_of_ne hne c 2).trans (getElem?_scrollUp_leave hl hb hblock)
      exact not_whole_of_read (List.mem_of_getElem? hget) hread
    · obtain hstays := hstays.resolve_left hblock
      simp only [Bool.and_eq_true, Bool.not_eq_true', beq_iff_eq, decide_eq_true_eq] at hstays
      obtain ⟨⟨hprimary, htop⟩, hcapacity⟩ := hstays
      -- it has left the grid, but not the screen
      have hkept := mem_scrollback_scrollUp_leave hl hb hprimary htop (by omega) hcapacity
      intro hwhole
      refine Row.not_matched hread (hwhole.matched.scrollback _ ?_)
      rwa [scrollback_write]
  · rw [if_neg hb, Bool.or_eq_true, decide_eq_true_eq] at hstays
    by_cases hbelow : s.cursor.row + 1 < s.rows
    · have hne : (s.leave.mapCursor fun c => { c with row := c.row + 1 }).cursor.row ≠
          s.cursor.row := by
        show s.leave.cursor.row + 1 ≠ _
        rw [row_leave]
        omega
      have hget := (getElem?_grid_write_of_ne hne c 2).trans (getElem?_grid_leave hl)
      rw [advance_leave_of_lt hb hbelow]
      exact not_whole_of_read (List.mem_of_getElem? hget) hread
    · obtain hstays := hstays.resolve_left hbelow
      rw [Bool.and_eq_true, Bool.not_eq_true', decide_eq_true_eq] at hstays
      obtain ⟨hinsert, hwide⟩ := hstays
      -- there is no row below, and the character is too far from the end to mend this one
      obtain ⟨k, hput, hk⟩ := getElem?_grid_write_leave hl c 2
      rw [advance_leave_of_last hb hbelow]
      refine not_whole_of_read (List.mem_of_getElem? hput) ?_
      rw [hk, hcells]
      exact htorn.put_read_eq_none hwidth (.inl ⟨hinsert, by omega⟩)

end Leave

/-- A block of one row takes what became of it along. -/
theorem scrollUp_leave (hb : s.cursor.row = s.bottom) (ht : s.top = s.bottom) :
    s.leave.mapGrid (·.shiftUp s.top s.bottom 1 (.blank s.cols)) =
      (s.mapGrid (·.shiftUp s.top s.bottom 1 (.blank s.cols))).mapCursor
        (·.place 0 s.cursor.row) := by
  have hshift : (fun g : Grid => Grid.shiftUp (g.modify s.bottom (leftRow s.cursor.col)) s.bottom
      s.bottom 1 (.blank s.cols)) = fun g => g.shiftUp s.bottom s.bottom 1 (.blank s.cols) :=
    funext fun g => Grid.shiftUp_modify g _ _ _
  rw [leave_eq_mapRow, mapGrid_mapCursor, mapRow, mapGrid_mapGrid, hb, ht]
  exact congrArg (fun f => (s.mapGrid f).mapCursor _) hshift

/-- Scrolled away for good, a torn row leaves whole characters only. -/
theorem paired_scrollUp_leave (hw : s.WellFormed) (h : s.AllRows Row.Paired)
    (hb : s.cursor.row = s.bottom) (ht : s.top = s.bottom)
    (hlost : (!s.onAlternate && s.top == 0) = true → s.scrollback.capacity = 0) :
    (s.leave.scrollUp 1).AllRows Row.Paired := by
  obtain ⟨-, htop, hbottom, -, hcols, halt, hscrollback⟩ := s.leave_eq
  have hone : min 1 (s.bottom - s.top + 1) = 1 := by omega
  have hgrid := (h.shiftUp Row.paired_blanks s.top 1).withCursor
    ((s.mapGrid (·.shiftUp s.top s.bottom 1 (.blank s.cols))).cursor.place 0 s.cursor.row)
  have hscrolled : (s.leave.mapGrid
      (·.shiftUp s.top s.bottom 1 (.blank s.cols))).AllRows Row.Paired := by
    rw [scrollUp_leave hb ht]
    exact hgrid
  refine ⟨?_, ?_, ?_⟩
  · show ∀ l ∈ (s.leave.mapGrid _).primary, _
    rw [htop, hbottom, hcols, hone]
    exact hscrolled.primary
  · show ∀ l ∈ (s.leave.mapGrid _).alternate, _
    rw [htop, hbottom, hcols, hone]
    exact hscrolled.alternate
  · rw [scrollback_scrollUp, hscrollback, halt, htop]
    cases hleaving : !s.onAlternate && s.top == 0 with
    | false => exact h.scrollback
    | true =>
      -- the row is pushed, and nothing is kept of it
      have hbound := Scrollback.length_pushAll_le hw.bounded
        (s.leave.primary.take (min 1 (s.leave.bottom - s.top + 1)))
      rw [hlost hleaving, Nat.le_zero, List.length_eq_zero_iff] at hbound
      intro l hl
      rw [if_pos rfl, hbound] at hl
      cases hl

/-- **A torn row that does not stay** is scrolled away, or the character is put
in that row itself. -/
theorem paired_or_eq_of_not_staysTorn (hw : s.WellFormed) (h : s.AllRows Row.Paired)
    (hgone : s.staysTorn = false) : s.leave.advance.AllRows Row.Paired ∨
      (s.leave.advance = s.leave ∧ (s.cursor.insertMode = true ∨ s.cols ≤ 3)) := by
  have hle := hw.top_le
  unfold staysTorn at hgone
  by_cases hb : s.cursor.row = s.bottom
  · left
    rw [if_pos hb, Bool.or_eq_false_iff, decide_eq_false_iff_not] at hgone
    obtain ⟨hblock, hlost⟩ := hgone
    rw [advance_leave_of_bottom hb]
    refine paired_scrollUp_leave hw h hb (by omega) fun hleaving => ?_
    rw [hleaving, Bool.true_and, decide_eq_false_iff_not] at hlost
    omega
  · right
    rw [if_neg hb, Bool.or_eq_false_iff, decide_eq_false_iff_not] at hgone
    obtain ⟨hlast, hmended⟩ := hgone
    refine ⟨advance_leave_of_last hb hlast, ?_⟩
    cases hinsert : s.cursor.insertMode with
    | true => exact .inl rfl
    | false =>
      rw [hinsert, Bool.not_false, Bool.true_and, decide_eq_false_iff_not] at hmended
      exact .inr (by omega)

/-- What is written where a row was left changes that row twice. -/
theorem write_leave (s : Screen) (c : Char) (width : Nat) :
    s.leave.write c width = ((s.mapRow s.cursor.row fun l =>
      { cells := Row.put s.cursor.insertMode 0 c width s.cursor.pen
          (l.cells.set s.cursor.col .blank)
        wrapped := true }).mapCursor (·.place 0 s.cursor.row)).moveOn width := by
  obtain ⟨hcursor, -⟩ := s.leave_eq
  rw [write_eq, hcursor, leave_eq_mapRow, mapCells, mapRow, mapGrid_mapCursor]
  exact congrArg (fun t : Screen => (t.mapCursor (·.place 0 s.cursor.row)).moveOn width)
    (mapRow_mapRow s s.cursor.row (leftRow s.cursor.col) _)

theorem WellFormed.wrap_blankCursor (hw : s.WellFormed) : s.blankCursor.wrap.WellFormed :=
  (hw.mapCells _ fun cells hl => by rw [List.length_set, hl]).wrap

/-- Writing where a torn row was left splits a character if the cells opened for
it do. -/
theorem writeSplits_leave {cells : List Cell} (hl : s.grid[s.cursor.row]? = some l)
    (hcells : (leftRow s.cursor.col l).cells = cells) (width : Nat) :
    s.leave.writeSplits width = (s.cursor.insertMode && Row.splits 0 width cells) := by
  obtain ⟨hcursor, -⟩ := s.leave_eq
  have hleft := getElem?_grid_leave hl
  rw [writeSplits, opensInside, cursorCells, line?, hcursor]
  show (_ && Row.splits 0 width ((s.leave.grid[s.cursor.row]?.map (·.cells)).getD [])) = _
  rw [hleft, Option.map_some, hcells]
  rfl

section Wrapped

variable (hw : s.WellFormed) (h : s.AllRows Row.Paired) (hcols : 2 ≤ s.cols)
  (hcol : s.cols ≤ s.cursor.col + 1) (hwidth : Text.stringWidth c.toString = 2)

include hw h hcols hcol hwidth

/-- **A character of two columns is wrapped between whole characters** unless it
leaves a torn row or opens cells inside a character. -/
theorem paired_write_wrapped (hwhole : ((s.cursorCells[s.cursor.col]?.any (·.tail) &&
      s.staysTorn) || s.blankCursor.wrap.writeSplits 2) = false) :
    (s.blankCursor.wrap.write c 2).AllRows Row.Paired := by
  obtain ⟨hleft, hwrite⟩ := Bool.or_eq_false_iff.mp hwhole
  have hroom : s.blankCursor.wrap.cursor.col + 2 ≤ s.blankCursor.wrap.cols := by
    rw [col_wrap, cols_wrap]
    simpa [blankCursor] using hcols
  have hfree : s.blankCursor.wrap.AllRows Row.Paired →
      (s.blankCursor.wrap.write c 2).AllRows Row.Paired := fun hp =>
    paired_write hw.wrap_blankCursor hp hwidth (by decide) (by decide) hroom hwrite
  cases htail : s.cursorCells[s.cursor.col]?.any (·.tail) with
  | false => exact hfree ((paired_blankCursor hw h hcol htail).wrap Row.paired_blanks)
  | true =>
    rw [htail, Bool.true_and] at hleft
    rcases paired_or_eq_of_not_staysTorn hw h hleft with hp | ⟨heq, hmended⟩
    · exact hfree (by rwa [wrap_blankCursor])
    · -- the character is put in the torn row itself
      obtain ⟨l, rest, head, hl, hcells, htorn, hlen⟩ := exists_torn hw h hcol htail
      rw [wrap_blankCursor, heq] at hwrite ⊢
      rw [writeSplits_leave hl hcells] at hwrite
      rw [write_leave]
      refine ((h.mapRow fun k hk => ?_).withCursor _).withCursor _
      obtain rfl : l = k := Option.some.inj (hl.symm.trans hk)
      show Row.Paired (Row.put s.cursor.insertMode 0 c 2 s.cursor.pen
        (leftRow s.cursor.col l).cells)
      rw [hcells]
      exact htorn.paired_put hwidth hwrite (hmended.imp_right fun hle => by omega)

omit hcols in
theorem not_whole_write_wrapped (hsplit : ((s.cursorCells[s.cursor.col]?.any (·.tail) &&
      s.staysTorn) || s.blankCursor.wrap.writeSplits 2) = true) :
    ¬ (s.blankCursor.wrap.write c 2).Whole := by
  have hfree : s.blankCursor.wrap.AllRows Row.Paired →
      s.blankCursor.wrap.writeSplits 2 = true → ¬ (s.blankCursor.wrap.write c 2).Whole :=
    fun hp hwrite => not_whole_write hw.wrap_blankCursor hp hwidth (by decide) hwrite
  cases htail : s.cursorCells[s.cursor.col]?.any (·.tail) with
  | false =>
    rw [htail, Bool.false_and, Bool.false_or] at hsplit
    exact hfree ((paired_blankCursor hw h hcol htail).wrap Row.paired_blanks) hsplit
  | true =>
    rw [htail, Bool.true_and] at hsplit
    cases hstays : s.staysTorn with
    | true =>
      rw [wrap_blankCursor]
      exact not_whole_of_staysTorn hw h hcol htail hwidth hstays
    | false =>
      rw [hstays, Bool.false_or] at hsplit
      rcases paired_or_eq_of_not_staysTorn hw h hstays with hp | ⟨heq, -⟩
      · exact hfree (by rwa [wrap_blankCursor]) hsplit
      · obtain ⟨l, rest, head, hl, hcells, htorn, hlen⟩ := exists_torn hw h hcol htail
        obtain ⟨k, hput, hk⟩ := getElem?_grid_write_leave hl c 2
        rw [wrap_blankCursor, heq] at hsplit ⊢
        rw [writeSplits_leave hl hcells] at hsplit
        refine not_whole_of_read (List.mem_of_getElem? hput) ?_
        rw [hk, hcells]
        exact htorn.put_read_eq_none hwidth (.inr hsplit)

end Wrapped

/-! ## Printing -/

theorem WellFormed.afterPendingWrap (hw : s.WellFormed) : s.afterPendingWrap.WellFormed := by
  unfold Screen.afterPendingWrap
  split
  · exact hw.wrap
  · exact hw

/-- **Combining keeps characters whole** if it leaves their columns alone. -/
theorem paired_combine (h : s.AllRows Row.Paired) {mark : Char} (hbase : s.BaseWidths)
    (hbase' : (s.combine mark).BaseWidths) : (s.combine mark).AllRows Row.Paired := by
  rcases s.combine_cases mark with heq | ⟨col, heq⟩
  · rwa [heq]
  · rw [heq] at hbase' ⊢
    refine h.mapCells fun l hl => ?_
    have hmem := List.mem_of_getElem? hl
    refine (h.grid l hmem).modify_combine fun d hd => ?_
    cases hcontent : d.content.toList with
    | nil =>
      have hempty : d.content.isEmpty = true := by
        rw [String.isEmpty_iff, ← String.toList_eq_nil_iff, hcontent]
      rw [Cell.combine, if_pos hempty]
    | cons ch marks =>
      have hempty : ¬ d.content.isEmpty = true := by
        rw [String.isEmpty_iff, ← String.toList_eq_nil_iff, hcontent]
        exact List.cons_ne_nil _ _
      have hcell : (l.cells.modify col (·.combine mark))[col]? = some (d.combine mark) := by
        rw [List.getElem?_modify_eq, hd]
        rfl
      have hchars : (d.combine mark).content.toList = ch :: (marks ++ [mark]) := by
        rw [Cell.combine, if_neg hempty]
        simp [hcontent]
      -- both the old and the new cell are as wide as the character they begin with
      have hold := hbase.grid l hmem d (List.mem_of_getElem? hd)
      have hnew := hbase'.grid _ (List.mem_of_getElem? (getElem?_grid_mapCells hl _))
        (d.combine mark) (List.mem_of_getElem? hcell)
      rw [hasBaseWidth, hcontent, beq_iff_eq] at hold
      rw [hasBaseWidth, hchars, beq_iff_eq] at hnew
      rw [hold, hnew]

section Print

variable (hw : s.WellFormed) (h : s.AllRows Row.Paired) (hcols : 2 ≤ s.cols)

include hw h hcols

/-- **Printing keeps characters whole** unless it splits one. -/
theorem paired_print (hbase : s.BaseWidths) (hbase' : (s.print c).BaseWidths)
    (hwhole : s.splits (.print c) = false) : (s.print c).AllRows Row.Paired := by
  have hle := Text.charWidth_le_three c
  by_cases hzero : Text.charWidth c = 0
  · rw [print, if_pos hzero] at hbase' ⊢
    exact paired_combine h hbase hbase'
  · have hwidth := Text.stringWidth_toString hzero
    simp only [splits, Bool.or_eq_false_iff, beq_eq_false_iff_ne] at hwhole
    obtain ⟨hthree, hwhole⟩ := hwhole
    rw [bne_iff_ne.mpr hzero, Bool.true_and, printSplits] at hwhole
    rw [print_eq hzero]
    dsimp only at hwhole ⊢
    have hwell := hw.afterPendingWrap
    have hpaired := h.afterPendingWrap Row.paired_blanks
    rw [← cols_afterPendingWrap] at hcols
    generalize s.afterPendingWrap = t at hcols hwhole hwell hpaired
    -- only a character of two columns can find too little room left
    by_cases hlast : (Text.charWidth c = 2 && t.cols ≤ t.cursor.col + 1) = true
    · rw [if_pos hlast] at hwhole ⊢
      rw [Bool.and_eq_true, decide_eq_true_eq, decide_eq_true_eq] at hlast
      obtain ⟨htwo, hcol⟩ := hlast
      split
      · exact hpaired
      · next hwrap =>
        rw [Bool.or_eq_true, not_or, Bool.not_eq_true', Bool.not_eq_false] at hwrap
        rw [hwrap.1, Bool.true_and, htwo] at hwhole
        rw [htwo] at hwidth ⊢
        exact paired_write_wrapped hwell hpaired hcols hcol hwidth hwhole
    · rw [if_neg hlast] at hwhole ⊢
      rw [Bool.and_eq_true, decide_eq_true_eq, decide_eq_true_eq] at hlast
      have hlt := hwell.col_lt
      exact paired_write hwell hpaired hwidth (by omega) (by omega) (by omega) hwhole

theorem not_whole_print (hsplit : s.splits (.print c) = true) : ¬ (s.print c).Whole := by
  have hwell := hw.afterPendingWrap
  have hpaired := h.afterPendingWrap Row.paired_blanks
  simp only [splits, Bool.or_eq_true, beq_iff_eq, Bool.and_eq_true, bne_iff_ne] at hsplit
  rcases hsplit with hthree | ⟨hzero, hsplit⟩
  · have hzero : Text.charWidth c ≠ 0 := by omega
    have hwidth := Text.stringWidth_toString hzero
    rw [hthree] at hwidth
    rw [print_eq hzero, hthree]
    exact not_whole_write_three hwell hpaired hwidth
  · have hwidth := Text.stringWidth_toString hzero
    rw [print_eq hzero]
    rw [printSplits] at hsplit
    dsimp only at hsplit ⊢
    rw [← cols_afterPendingWrap] at hcols
    generalize s.afterPendingWrap = t at hcols hsplit hwell hpaired
    by_cases hlast : (Text.charWidth c = 2 && t.cols ≤ t.cursor.col + 1) = true
    · rw [if_pos hlast, Bool.and_eq_true] at hsplit
      obtain ⟨hautowrap, hsplit⟩ := hsplit
      rw [if_pos hlast]
      rw [Bool.and_eq_true, decide_eq_true_eq, decide_eq_true_eq] at hlast
      obtain ⟨htwo, hcol⟩ := hlast
      have hwrap : ¬ (!t.cursor.autowrap || decide (t.cols < 2)) = true := by
        rw [hautowrap, decide_eq_false (Nat.not_lt.mpr hcols)]
        decide
      rw [if_neg hwrap, htwo]
      rw [htwo] at hwidth hsplit
      exact not_whole_write_wrapped hwell hpaired hcol hwidth hsplit
    · rw [if_neg hlast] at hsplit ⊢
      exact not_whole_write hwell hpaired hwidth (by omega) hsplit

end Print

end Teletype.Screen

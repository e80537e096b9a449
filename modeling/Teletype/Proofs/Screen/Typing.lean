import Teletype.Proofs.Reflow.TextLines
import Teletype.Proofs.Screen.Printing

/-!
# Typing lines of text

Lines of text typed on a new screen, with a return and a line feed between
them, come to stand in the rows that cutting each line by itself gives
(`layLines`): the last rows fill the grid, and the ones before are in the
scrollback. Printing works on the cursor and the row below it only. What ties
it to the cutting of a whole line is that both see the cells of a row begun
and the group that comes next (`Typing.print_room`, `Typing.print_full`).
-/

namespace Teletype

namespace Screen

/-- Prints a line of text. -/
def typeLine (line : TextLine) : List Operation :=
  line.flatMap fun p => [.setPen p.2, .print p.1]

/-- Prints lines of text, with a return and a line feed between them. -/
def typeLines : List TextLine → List Operation
  | [] => []
  | [line] => typeLine line
  | line :: next :: rest =>
    typeLine line ++ (.carriageReturn :: .linefeed :: typeLines (next :: rest))

theorem typeLines_cons_concat (first : TextLine) (front : List TextLine) (line : TextLine) :
    typeLines (first :: (front ++ [line])) =
      typeLine first ++ (.carriageReturn :: .linefeed :: typeLines (front ++ [line])) := by
  cases front <;> rfl

end Screen

variable {cols rows capacity : Nat} {row : List Cell} {ch : Char} {pen : Pen}

/-! ## Writing behind a row -/

/-- A character written right behind the cells of a row goes on with them. -/
theorem put_fit (h : Text.charWidth ch = 1 ∨ Text.charWidth ch = 2)
    (hroom : (row ++ glyph ch pen).length ≤ cols) :
    Row.put false row.length ch (Text.charWidth ch) pen (Line.fit cols row) =
      Line.fit cols (row ++ glyph ch pen) := by
  have hlen := length_glyph h pen
  rw [List.length_append, hlen] at hroom
  obtain ⟨k, hk⟩ : ∃ k, Text.charWidth ch = k + 1 := ⟨Text.charWidth ch - 1, by omega⟩
  obtain ⟨m, hm⟩ : ∃ m, cols - row.length = (k + 1) + m :=
    ⟨cols - row.length - (k + 1), by omega⟩
  have hrest : cols - (row ++ glyph ch pen).length = m := by
    rw [List.length_append, hlen]
    omega
  rw [Line.fit_eq (by omega), Line.fit_eq (by rw [List.length_append]; omega), hrest, hm, hk,
    ← List.replicate_append_replicate]
  rw [Row.put, if_neg Bool.false_ne_true, Row.write_blanks, glyph, hk, List.append_assoc,
    List.cons_append]
  rcases h with h | h
  · obtain rfl : k = 0 := by omega
    rfl
  · obtain rfl : k = 1 := by omega
    rfl

/-- Blanking the last cell of a row that is one short of full. -/
theorem set_fit {col : Nat} (hcol : row.length = col) (hcols : col + 1 = cols) :
    (Line.fit cols row).set col .blank = Line.fit cols row := by
  have hblank : cols - row.length = 1 := by omega
  rw [Line.fit_eq (by omega), hblank]
  exact Row.set_append_cons hcol [] .blank .blank

/-! ## A screen being typed on -/

namespace Screen

variable {s : Screen} {above : List Line} {line : Line}

/-- The size and the modes of a new screen, which typing leaves alone. -/
structure Ready (cols rows capacity : Nat) (s : Screen) : Prop where
  cols_eq : s.cols = cols
  rows_eq : s.rows = rows
  capacity_eq : s.scrollback.capacity = capacity
  onPrimary : s.onAlternate = false
  top_eq : s.top = 0
  bottom_eq : s.bottom + 1 = rows
  autowrap : s.cursor.autowrap = true
  insertMode : s.cursor.insertMode = false
  linefeedMode : s.modes.linefeedMode = false

/-- The grid holds `above` and then `line`, the row of the cursor, with blank
rows below; it has scrolled only if that row is the last one. -/
structure Shows (above : List Line) (line : Line) (s : Screen) : Prop where
  primary_eq : s.primary =
    above ++ line :: List.replicate (s.rows - (above.length + 1)) (.blank s.cols)
  row_eq : s.cursor.row = above.length
  row_lt : above.length < s.rows
  scrolled : s.scrollback.lines = [] ∨ above.length + 1 = s.rows

/-- The cells `row` are typed into the row of the cursor, which is right behind
them. -/
structure Typing (cols rows capacity : Nat) (above : List Line) (row : List Cell)
    (s : Screen) : Prop where
  ready : s.Ready cols rows capacity
  shows : s.Shows above { cells := Line.fit cols row }
  length_le : row.length ≤ cols
  col_eq : s.cursor.col = min row.length (cols - 1)
  pendingWrap_eq : s.cursor.pendingWrap = decide (row.length = cols)

/-- A row is begun below `lines`, with the pen taken along. -/
structure Begun (cols rows capacity : Nat) (lines : List Line) (pen : Pen) (above : List Line)
    (s : Screen) : Prop where
  typing : s.Typing cols rows capacity above []
  lines_eq : s.scrollback.lines ++ above = lines
  pen_eq : s.cursor.pen = pen

/-- All rows from the first one typed to the row of the cursor. -/
def history (s : Screen) (above : List Line) (line : Line) : List Line :=
  s.scrollback.lines ++ (above ++ [line])

theorem modify_append_cons {α : Type} (xs ys : List α) (x : α) (f : α → α) :
    (xs ++ x :: ys).modify xs.length f = xs ++ f x :: ys := by
  induction xs with
  | nil => rfl
  | cons z zs ih => exact congrArg (z :: ·) ih

namespace Ready

theorem withCursor (h : s.Ready cols rows capacity) {c : Cursor}
    (hwrap : c.autowrap = s.cursor.autowrap) (hinsert : c.insertMode = s.cursor.insertMode) :
    { s with cursor := c }.Ready cols rows capacity :=
  { h with autowrap := hwrap.trans h.autowrap, insertMode := hinsert.trans h.insertMode }

theorem mapRow_eq (h : s.Ready cols rows capacity) (i : Nat) (f : Line → Line) :
    s.mapRow i f = { s with primary := s.primary.modify i f } := by
  simp [Screen.mapRow, mapGrid, h.onPrimary]

theorem mapRow (h : s.Ready cols rows capacity) (i : Nat) (f : Line → Line) :
    (s.mapRow i f).Ready cols rows capacity := by
  rw [h.mapRow_eq]
  exact { h with }

theorem scrollUp_eq (h : s.Ready cols rows capacity) : s.scrollUp 1 =
    { s with
      primary := s.primary.shiftUp 0 s.bottom 1 (.blank s.cols)
      scrollback := s.scrollback.pushAll (s.primary.take 1) } := by
  unfold scrollUp
  simp [mapGrid, h.onPrimary, h.top_eq]

/-- Going to the row below moves the cursor and the rows, and nothing else. -/
theorem advance (h : s.Ready cols rows capacity) : s.advance.Ready cols rows capacity := by
  have hscrolled : (s.scrollUp 1).Ready cols rows capacity := by
    rw [h.scrollUp_eq]
    exact { h with capacity_eq := (Scrollback.capacity_pushAll _ _).trans h.capacity_eq }
  exact advance_cases hscrolled (fun _ => h.withCursor rfl rfl) h

end Ready

/-- Going to the row below changes of the cursor only its row. -/
theorem exists_cursor_advance (s : Screen) : ∃ row, s.advance.cursor = { s.cursor with row } :=
  advance_cases ⟨s.cursor.row, cursor_scrollUp s 1⟩ (fun _ => ⟨s.cursor.row + 1, rfl⟩)
    ⟨s.cursor.row, rfl⟩

namespace Shows

theorem withCursor (h : s.Shows above line) {c : Cursor} (hrow : c.row = s.cursor.row) :
    { s with cursor := c }.Shows above line :=
  { h with row_eq := hrow.trans h.row_eq }

/-- Below the row of the cursor, all rows are blank. -/
theorem rows_eq (h : s.Shows above line) : s.scrollback.lines ++ s.primary =
    s.history above line ++ List.replicate (s.rows - (above.length + 1)) (.blank s.cols) := by
  rw [h.primary_eq, history, List.append_assoc, List.append_assoc]
  rfl

theorem mapRow (h : s.Shows above line) (hr : s.Ready cols rows capacity) (f : Line → Line) :
    (s.mapRow s.cursor.row f).Shows above (f line) := by
  rw [hr.mapRow_eq]
  refine { h with primary_eq := ?_ }
  show s.primary.modify s.cursor.row f = _
  rw [h.primary_eq, h.row_eq, modify_append_cons]

theorem line?_eq (h : s.Shows above line) (hr : s.Ready cols rows capacity) :
    s.line? s.cursor.row = some line := by
  rw [line?, grid, hr.onPrimary, if_neg Bool.false_ne_true, h.primary_eq, h.row_eq,
    List.getElem?_append_right (Nat.le_refl _), Nat.sub_self]
  rfl

/-- At the bottom of a full grid the first row leaves, and the scrollback takes it in
at the cost of its own first row if it is full. -/
theorem exists_shows_scrollUp (h : s.Shows above line) (hr : s.Ready cols rows capacity)
    (hb : s.cursor.row = s.bottom) :
    ∃ above', (s.scrollUp 1).Shows above' (.blank cols) ∧
      (s.scrollUp 1).scrollback.lines ++ above' <:+ s.history above line ∧
      ((s.history above line).length < capacity + rows →
        (s.scrollUp 1).scrollback.lines ++ above' = s.history above line) := by
  have hrow := h.row_eq
  have hlt := h.row_lt
  have hrows := hr.rows_eq
  have hbottom := hr.bottom_eq
  have hcapacity := hr.capacity_eq
  have hprimary := h.primary_eq
  have hlast : s.rows - (above.length + 1) = 0 := by omega
  rw [hlast, List.replicate_zero] at hprimary
  have hlen : (above ++ [line]).length = s.bottom + 1 := by
    rw [List.length_append, List.length_singleton]
    omega
  have hdrop : ((above ++ [line]).drop 1).length = above.length := by
    rw [List.length_drop, List.length_append, List.length_singleton]
    omega
  have hshift : Grid.shiftUp (above ++ [line]) 0 s.bottom 1 (.blank s.cols) =
      (above ++ [line]).drop 1 ++ [.blank s.cols] := by
    rw [Grid.shiftUp, List.take_zero, List.nil_append, ← hlen, List.take_length,
      List.drop_length, Nat.zero_add]
    rfl
  have hparts : s.history above line =
      (s.scrollback.lines ++ (above ++ [line]).take 1) ++ (above ++ [line]).drop 1 := by
    rw [List.append_assoc, List.take_append_drop, history]
  rw [hr.scrollUp_eq]
  refine ⟨(above ++ [line]).drop 1, ⟨?_, ?_, ?_, ?_⟩, ?_, fun hroom => ?_⟩
  · show s.primary.shiftUp 0 s.bottom 1 (.blank s.cols) =
      _ ++ _ :: List.replicate (s.rows - (_ + 1)) _
    rw [hprimary, hshift, hdrop, hr.cols_eq, hlast]
    rfl
  · rw [hdrop]
    exact hrow
  · rw [hdrop]
    exact hlt
  · rw [hdrop]
    exact .inr (show above.length + 1 = s.rows by omega)
  · show (s.scrollback.pushAll (s.primary.take 1)).lines ++ _ <:+ _
    obtain ⟨gone, hgone⟩ := s.scrollback.pushAll_suffix ((above ++ [line]).take 1)
    rw [hprimary, hparts, ← hgone, List.append_assoc]
    exact List.suffix_append gone _
  · -- there is room for the row, so none is pushed out for it
    show (s.scrollback.pushAll (s.primary.take 1)).lines ++ _ = _
    rw [history, List.length_append, hlen] at hroom
    rw [hprimary, hparts, Scrollback.lines_pushAll_of_le]
    rw [List.length_take, hlen]
    omega

/-- Above the bottom the cursor goes to the first of the blank rows. -/
theorem shows_down (h : s.Shows above line) (hr : s.Ready cols rows capacity)
    (hb : s.cursor.row ≠ s.bottom) :
    (s.mapCursor fun c => { c with row := c.row + 1 }).Shows (above ++ [line]) (.blank cols) := by
  have hrow := h.row_eq
  have hlt := h.row_lt
  have hrows := hr.rows_eq
  have hbottom := hr.bottom_eq
  have hlen : (above ++ [line]).length = above.length + 1 := List.length_append
  obtain ⟨k, hk⟩ : ∃ k, s.rows - (above.length + 1) = k + 1 :=
    ⟨s.rows - (above.length + 1) - 1, by omega⟩
  refine ⟨?_, ?_, ?_, ?_⟩
  · show s.primary = _ ++ _ :: List.replicate (s.rows - (_ + 1)) (.blank s.cols)
    have hrest : s.rows - (above.length + 1 + 1) = k := by omega
    rw [h.primary_eq, hk, hlen, hrest, List.replicate_succ, hr.cols_eq, List.append_assoc]
    rfl
  · rw [hlen, ← hrow]
    rfl
  · show (above ++ [line]).length < s.rows
    omega
  · refine .inl (h.scrolled.resolve_right ?_)
    omega

/-- **Going to the row below** adds a blank row at the end of the history, which loses
none at the other end as long as there is room. -/
theorem advance (h : s.Shows above line) (hr : s.Ready cols rows capacity) :
    ∃ above', s.advance.Shows above' (.blank cols) ∧
      s.advance.scrollback.lines ++ above' <:+ s.history above line ∧
      ((s.history above line).length < capacity + rows →
        s.advance.scrollback.lines ++ above' = s.history above line) := by
  by_cases hb : s.cursor.row = s.bottom
  · rw [advance_of_bottom hb]
    exact h.exists_shows_scrollUp hr hb
  · have hrow := h.row_eq
    have hlt := h.row_lt
    have hrows := hr.rows_eq
    have hbottom := hr.bottom_eq
    rw [advance_of_lt hb (by omega)]
    exact ⟨above ++ [line], h.shows_down hr hb, List.suffix_rfl, fun _ => rfl⟩

end Shows

/-- A new row is typed on from its first column. -/
theorem typing_nil (hcols : 0 < cols) (hr : s.Ready cols rows capacity)
    (h : s.Shows above (.blank cols)) (hcol : s.cursor.col = 0)
    (hpending : s.cursor.pendingWrap = false) : s.Typing cols rows capacity above [] where
  ready := hr
  shows := by rwa [← Line.blank_eq]
  length_le := Nat.zero_le _
  col_eq := by rw [hcol, List.length_nil, Nat.zero_min]
  pendingWrap_eq := by rw [hpending, List.length_nil, decide_eq_false (by omega)]

/-- A wrap ends the row and begins a new one. -/
theorem exists_begun_wrap (hcols : 0 < cols) (hr : s.Ready cols rows capacity)
    (h : s.Shows above line) (hroom : (s.history above line).length < capacity + rows) :
    ∃ above', s.wrap.Begun cols rows capacity (s.history above { line with wrapped := true })
      s.cursor.pen above' := by
  obtain ⟨hcursor, -, -, -, -, -, hscrollback⟩ := s.leaveRow_eq
  have hready : s.leaveRow.Ready cols rows capacity :=
    (hr.mapRow s.cursor.row _).withCursor rfl rfl
  have hshows : s.leaveRow.Shows above { line with wrapped := true } := by
    refine (h.mapRow hr fun l => { l with wrapped := true }).withCursor ?_
    rw [mapRow, cursor_mapGrid]
    rfl
  have hhistory : s.leaveRow.history above { line with wrapped := true } =
      s.history above { line with wrapped := true } := by
    rw [history, history, hscrollback]
  obtain ⟨above', hnew, -, hkept⟩ := hshows.advance hready
  have hlines := hkept (by
    rw [hhistory]
    simpa [history] using hroom)
  obtain ⟨i, hi⟩ := exists_cursor_advance s.leaveRow
  rw [hcursor] at hi
  rw [wrap_eq]
  refine ⟨above', typing_nil hcols hready.advance hnew ?_ ?_, hlines.trans hhistory, ?_⟩
  all_goals
    rw [hi]
    rfl

/-- Moving on over a character of `width` columns that the row now ends with. -/
theorem typing_moveOn {width : Nat} (hr : s.Ready cols rows capacity)
    (h : s.Shows above { cells := Line.fit cols row }) (hcol : s.cursor.col + width = row.length)
    (hpos : 0 < width) (hlen : row.length ≤ cols) (hpending : s.cursor.pendingWrap = false) :
    (s.moveOn width).Typing cols rows capacity above row := by
  have hcols := hr.cols_eq
  by_cases hfull : row.length = cols
  · have hmoved : s.moveOn width =
        s.mapCursor fun c => { c with col := s.cols - 1, pendingWrap := c.autowrap } := by
      unfold moveOn
      rw [mapCursor, if_pos (by omega)]
      rfl
    rw [hmoved]
    exact {
      ready := hr.withCursor rfl rfl
      shows := h.withCursor rfl
      length_le := hlen
      col_eq := by
        show s.cols - 1 = _
        omega
      pendingWrap_eq := by rw [decide_eq_true hfull]; exact hr.autowrap }
  · have hmoved : s.moveOn width = s.mapCursor fun c => { c with col := c.col + width } := by
      unfold moveOn
      rw [mapCursor, if_neg (by omega)]
      rfl
    rw [hmoved]
    exact {
      ready := hr.withCursor rfl rfl
      shows := h.withCursor rfl
      length_le := hlen
      col_eq := by
        show s.cursor.col + width = _
        omega
      pendingWrap_eq := by rw [decide_eq_false hfull]; exact hpending }

namespace Typing

variable (h : s.Typing cols rows capacity above row)

include h

theorem withPen (pen : Pen) : (s.setPen pen).Typing cols rows capacity above row where
  ready := h.ready.withCursor rfl rfl
  shows := h.shows.withCursor rfl
  length_le := h.length_le
  col_eq := h.col_eq
  pendingWrap_eq := h.pendingWrap_eq

/-- Behind a row that is not full no wrap is pending. -/
theorem cursor_of_lt (hlt : row.length < cols) :
    s.cursor.col = row.length ∧ s.cursor.pendingWrap = false := by
  rw [h.col_eq, h.pendingWrap_eq, decide_eq_false (by omega)]
  exact ⟨by omega, rfl⟩

theorem afterPendingWrap_of_lt (hlt : row.length < cols) : s.afterPendingWrap = s := by
  obtain ⟨-, hpending⟩ := h.cursor_of_lt hlt
  rw [afterPendingWrap, hpending, Bool.false_and, if_neg Bool.false_ne_true]

/-- A character that has room is written behind the cells of the row. -/
theorem write (hwidth : Text.charWidth ch = 1 ∨ Text.charWidth ch = 2)
    (hroom : (row ++ glyph ch s.cursor.pen).length ≤ cols) :
    (s.write ch (Text.charWidth ch)).Typing cols rows capacity above
      (row ++ glyph ch s.cursor.pen) := by
  have hlen := length_glyph hwidth s.cursor.pen
  have hlength := hroom
  rw [List.length_append, hlen] at hlength
  obtain ⟨hcol, hpending⟩ := h.cursor_of_lt (by omega)
  have hshows := h.shows.mapRow h.ready fun l => { l with
    cells := Row.put false row.length ch (Text.charWidth ch) s.cursor.pen l.cells }
  have hcursor : (s.mapCells s.cursor.row (Row.put false row.length ch (Text.charWidth ch)
      s.cursor.pen)).cursor = s.cursor := cursor_mapCells _ _
  dsimp only at hshows
  rw [put_fit hwidth hroom] at hshows
  rw [write_eq, h.ready.insertMode, hcol]
  refine typing_moveOn (h.ready.mapRow _ _) hshows ?_ (by omega) hroom ?_
  · rw [hcursor, hcol, List.length_append, hlen]
  · rw [hcursor]
    exact hpending

/-- **A character that fits is cut into the row begun.** -/
theorem print_room (hcols : 2 ≤ cols) (hwidth : Text.charWidth ch = 1 ∨ Text.charWidth ch = 2)
    (hroom : ¬ Reflow.isFull cols (Text.charWidth ch) row = true) :
    (s.print ch).Typing cols rows capacity above (row ++ glyph ch s.cursor.pen) ∧
      (s.print ch).scrollback = s.scrollback := by
  have hlen := length_glyph hwidth s.cursor.pen
  have hfits := Reflow.length_le_of_not_full hcols (by omega) h.length_le hroom
  obtain ⟨hcol, -⟩ := h.cursor_of_lt (by omega)
  have hcols_eq := h.ready.cols_eq
  have hsettled := h.afterPendingWrap_of_lt (by omega)
  have hprint : s.print ch = s.write ch (Text.charWidth ch) := by
    rw [print_eq (by omega), hsettled]
    refine if_neg ?_
    rw [Bool.and_eq_true, decide_eq_true_eq, decide_eq_true_eq]
    omega
  rw [hprint]
  refine ⟨h.write hwidth ?_, scrollback_write _ _ _⟩
  rw [List.length_append, hlen]
  exact hfits

/-- Behind a full row, the pending wrap makes room. -/
theorem exists_wrapped_of_full (hcols : 2 ≤ cols)
    (hwidth : Text.charWidth ch = 1 ∨ Text.charWidth ch = 2) (hlast : row.length = cols)
    (hroom : (s.history above { cells := Line.fit cols row }).length < capacity + rows) :
    ∃ t above', s.print ch = Screen.write t ch (Text.charWidth ch) ∧
      t.Begun cols rows capacity (s.history above (fullRow cols row)) s.cursor.pen above' := by
  have hcols_eq := h.ready.cols_eq
  have hwrapped : s.afterPendingWrap = s.wrap := by
    rw [afterPendingWrap, h.pendingWrap_eq, decide_eq_true hlast, h.ready.autowrap]
    rfl
  obtain ⟨above', hbegun⟩ := exists_begun_wrap (by omega) h.ready h.shows hroom
  refine ⟨s.wrap, above', ?_, hbegun⟩
  rw [print_eq (by omega), hwrapped]
  refine if_neg ?_
  rw [Bool.and_eq_true, decide_eq_true_eq, decide_eq_true_eq, col_wrap, cols_wrap]
  omega

/-- A wide character that has one column left blanks it and is wrapped. -/
theorem exists_wrapped_of_short (hcols : 2 ≤ cols) (hwide : Text.charWidth ch = 2)
    (hshort : row.length + 1 = cols)
    (hroom : (s.history above { cells := Line.fit cols row }).length < capacity + rows) :
    ∃ t above', s.print ch = Screen.write t ch (Text.charWidth ch) ∧
      t.Begun cols rows capacity (s.history above (fullRow cols row)) s.cursor.pen above' := by
  have hcols_eq := h.ready.cols_eq
  obtain ⟨hcol, -⟩ := h.cursor_of_lt (by omega)
  have hsettled := h.afterPendingWrap_of_lt (by omega)
  have hcursor : s.blankCursor.cursor = s.cursor := cursor_mapCells _ _
  have hset : (Line.fit cols row).set s.cursor.col .blank = Line.fit cols row := by
    rw [hcol]
    exact set_fit rfl hshort
  have hshows := h.shows.mapRow h.ready fun l => { l with
    cells := l.cells.set s.cursor.col .blank }
  dsimp only at hshows
  rw [hset] at hshows
  have hhistory : ∀ line, s.blankCursor.history above line = s.history above line := by
    intro line
    rw [history, history, blankCursor, mapCells, mapRow, scrollback_mapGrid]
  rw [← hhistory] at hroom
  obtain ⟨above', htyping, hlines, hpen⟩ :=
    exists_begun_wrap (by omega) (h.ready.mapRow _ _) hshows hroom
  refine ⟨s.blankCursor.wrap, above', ?_, htyping, hlines.trans (hhistory _), ?_⟩
  · rw [print_eq (by omega), hsettled]
    dsimp only
    rw [if_pos, if_neg]
    · rw [h.ready.autowrap, Bool.not_true, Bool.false_or, decide_eq_true_eq]
      omega
    · rw [Bool.and_eq_true, decide_eq_true_eq, decide_eq_true_eq]
      omega
  · rw [← hcursor]
    exact hpen

/-- **A character that does not fit is cut into a new row.** -/
theorem print_full (hcols : 2 ≤ cols) (hwidth : Text.charWidth ch = 1 ∨ Text.charWidth ch = 2)
    (hfull : Reflow.isFull cols (Text.charWidth ch) row = true)
    (hroom : (s.history above { cells := Line.fit cols row }).length < capacity + rows) :
    ∃ above', (s.print ch).Typing cols rows capacity above' (glyph ch s.cursor.pen) ∧
      (s.print ch).scrollback.lines ++ above' = s.history above (fullRow cols row) := by
  have hlen := length_glyph hwidth s.cursor.pen
  have hle := h.length_le
  rw [Reflow.isFull, Bool.and_eq_true, decide_eq_true_eq] at hfull
  obtain ⟨t, above', hprint, htyping, hlines, hpen⟩ : ∃ t above',
      s.print ch = Screen.write t ch (Text.charWidth ch) ∧
        t.Begun cols rows capacity (s.history above (fullRow cols row)) s.cursor.pen above' := by
    -- either the row is full, or it is one short and the character is a wide one
    by_cases hlast : row.length = cols
    · exact h.exists_wrapped_of_full hcols hwidth hlast hroom
    · exact h.exists_wrapped_of_short hcols (by omega) (by omega) hroom
  rw [hprint, scrollback_write]
  rw [← hpen] at hlen ⊢
  have hwritten := htyping.write hwidth (by
    rw [List.nil_append, hlen]
    omega)
  exact ⟨above', hwritten, hlines⟩

/-! ## Lines -/

/-- **A line is typed as it is cut**: its full rows join the history, and its last
row is the row of the cursor. -/
theorem typeLine (hcols : 2 ≤ cols) {line : TextLine} (hline : TakesColumns line)
    (hroom : (s.scrollback.lines ++ above).length +
      (Reflow.cut cols row (cellsOf line)).length ≤ capacity + rows) :
    ∃ above' full last, Reflow.cut cols row (cellsOf line) = full ++ [last] ∧
      (s.performAll (Screen.typeLine line)).Typing cols rows capacity above' last ∧
      (s.performAll (Screen.typeLine line)).scrollback.lines ++ above' =
        s.scrollback.lines ++ (above ++ full.map (fullRow cols)) := by
  -- the row begun is the invariant: `cut` goes on with it as printing does
  induction line generalizing above row s with
  | nil =>
    refine ⟨above, [], row, Reflow.cut_nil cols row, h, ?_⟩
    rw [List.map_nil, List.append_nil]
    rfl
  | cons p rest ih =>
    obtain ⟨hwidth, hrest⟩ := List.forall_mem_cons.mp hline
    have hgroup := isGroup_glyph hwidth p.2 rest
    have hlen := length_glyph hwidth p.2
    have hstep : s.performAll (Screen.typeLine (p :: rest)) =
        ((s.setPen p.2).print p.1).performAll (Screen.typeLine rest) := rfl
    have hpen := h.withPen p.2
    rw [cellsOf_cons, Reflow.cut_group hcols hgroup, hlen] at hroom ⊢
    rw [hstep]
    by_cases hfull : Reflow.isFull cols (Text.charWidth p.1) row = true
    · rw [if_pos hfull] at hroom ⊢
      have hmore := List.length_pos_iff.mpr (Reflow.cut_ne_nil cols (glyph p.1 p.2) (cellsOf rest))
      rw [List.length_cons, List.length_append] at hroom
      obtain ⟨above', htyping, hlines⟩ := hpen.print_full hcols hwidth hfull (by
        show (s.scrollback.lines ++ (above ++ [_])).length < _
        rw [List.length_append, List.length_append, List.length_singleton]
        omega)
      change Typing cols rows capacity above' (glyph p.1 p.2) _ at htyping
      change _ = s.scrollback.lines ++ (above ++ [fullRow cols row]) at hlines
      obtain ⟨above'', full, last, hcut, hend, hall⟩ := ih htyping hrest (by
        rw [hlines, List.length_append, List.length_append, List.length_singleton]
        omega)
      refine ⟨above'', row :: full, last, congrArg (row :: ·) hcut, hend, ?_⟩
      rw [hall, ← List.append_assoc, hlines, List.map_cons, List.append_assoc, List.append_assoc]
      rfl
    · rw [if_neg hfull] at hroom ⊢
      obtain ⟨htyping, hscrollback⟩ := hpen.print_room hcols hwidth hfull
      obtain ⟨above', full, last, hcut, hend, hall⟩ := ih htyping hrest (by
        rw [hscrollback]
        exact hroom)
      refine ⟨above', full, last, hcut, hend, ?_⟩
      rw [hall, hscrollback]
      rfl

/-- A return and a line feed end the line. -/
theorem endLine (hcols : 0 < cols)
    (hroom : (s.history above { cells := Line.fit cols row }).length < capacity + rows) :
    ∃ above', s.carriageReturn.linefeed.Typing cols rows capacity above' [] ∧
      s.carriageReturn.linefeed.scrollback.lines ++ above' =
        s.history above { cells := Line.fit cols row } := by
  have hfeed : s.carriageReturn.linefeed = s.carriageReturn.settle.advance := by
    rw [linefeed, if_neg]
    · rfl
    · rw [show s.carriageReturn.modes = s.modes from rfl, h.ready.linefeedMode]
      exact Bool.false_ne_true
  have hready : s.carriageReturn.settle.Ready cols rows capacity := h.ready.withCursor rfl rfl
  have hshows : s.carriageReturn.settle.Shows above { cells := Line.fit cols row } :=
    h.shows.withCursor rfl
  obtain ⟨above', hnew, -, hlines⟩ := hshows.advance hready
  obtain ⟨i, hi⟩ := exists_cursor_advance s.carriageReturn.settle
  rw [hfeed]
  refine ⟨above', typing_nil hcols hready.advance hnew ?_ ?_, hlines hroom⟩ <;> rw [hi] <;> rfl

end Typing

/-- Typed and ended, a line leaves its rows in the history. -/
theorem Typing.exists_typeLine_endLine (h : s.Typing cols rows capacity above [])
    (hcols : 2 ≤ cols) {line : TextLine} (htakes : TakesColumns line)
    (hroom : (s.scrollback.lines ++ above).length + (layLine cols line).length <
      capacity + rows) :
    ∃ above', (s.performAll (Screen.typeLine line)).carriageReturn.linefeed.Typing cols rows
        capacity above' [] ∧
      (s.performAll (Screen.typeLine line)).carriageReturn.linefeed.scrollback.lines ++ above' =
        s.scrollback.lines ++ above ++ layLine cols line := by
  have hlen : (layLine cols line).length = (Reflow.cut cols [] (cellsOf line)).length :=
    Reflow.length_asLines _
  obtain ⟨above₁, full, last, hcut, htyped, htext⟩ := h.typeLine hcols htakes (by omega)
  have hline : (s.performAll (Screen.typeLine line)).history above₁
      { cells := Line.fit cols last } = s.scrollback.lines ++ above ++ layLine cols line := by
    rw [history, ← List.append_assoc, htext, layLine, hcut, Reflow.asLines_concat]
    simp only [List.append_assoc]
  rw [← hline]
  refine htyped.endLine (by omega) ?_
  rw [hline, List.length_append]
  exact hroom

/-- **Lines are typed as they are laid out**: their rows join the history. -/
theorem Typing.typeLines (h : s.Typing cols rows capacity above []) (hcols : 2 ≤ cols)
    {front : List TextLine} {line : TextLine} (htakes : ∀ l ∈ front ++ [line], TakesColumns l)
    (hroom : (s.scrollback.lines ++ above).length + (layLines cols (front ++ [line])).length ≤
      capacity + rows) :
    ∃ above' full last, Reflow.cut cols [] (cellsOf line) = full ++ [last] ∧
      (s.performAll (Screen.typeLines (front ++ [line]))).Typing cols rows capacity above' last ∧
      (s.performAll (Screen.typeLines (front ++ [line]))).history above'
        { cells := Line.fit cols last } =
          s.scrollback.lines ++ above ++ layLines cols (front ++ [line]) := by
  induction front generalizing above s with
  | nil =>
    have hlines : layLines cols ([] ++ [line]) = layLine cols line ++ [] := rfl
    rw [hlines, List.append_nil] at hroom ⊢
    rw [layLine, Reflow.length_asLines] at hroom
    obtain ⟨above', full, last, hcut, hend, hall⟩ :=
      h.typeLine hcols (htakes line List.mem_cons_self) hroom
    refine ⟨above', full, last, hcut, hend, ?_⟩
    show (s.performAll (Screen.typeLine line)).scrollback.lines ++ (above' ++ [_]) = _
    rw [← List.append_assoc, hall, layLine, hcut, Reflow.asLines_concat]
    simp only [List.append_assoc]
  | cons first front ih =>
    have hlines : layLines cols (first :: front ++ [line]) =
      layLine cols first ++ layLines cols (front ++ [line]) := rfl
    have hpos := Reflow.length_layLines_pos cols front line
    have hcount : (layLines cols (first :: front ++ [line])).length =
      (layLine cols first).length + (layLines cols (front ++ [line])).length := List.length_append
    rw [hcount] at hroom
    obtain ⟨above₁, hnew, hkept⟩ :=
      h.exists_typeLine_endLine hcols (htakes first List.mem_cons_self) (by omega)
    obtain ⟨above', full, last, hcut, hend, hall⟩ := ih hnew
      (fun l hl => htakes l (List.mem_cons_of_mem first hl)) (by
        rw [hkept, List.length_append]
        omega)
    have hrun : s.performAll (Screen.typeLines (first :: front ++ [line])) =
        (s.performAll (Screen.typeLine first)).carriageReturn.linefeed.performAll
          (Screen.typeLines (front ++ [line])) := by
      rw [List.cons_append, typeLines_cons_concat, performAll_append]
      rfl
    rw [hrun]
    refine ⟨above', full, last, hcut, hend, ?_⟩
    rw [hall, hkept, hlines, List.append_assoc]

/-- A new screen is ready to be typed on. -/
theorem typing_initial (hcols : 2 ≤ cols) (hrows : 1 ≤ rows) (capacity : Nat) :
    (initial cols rows capacity).Typing cols rows capacity [] [] := by
  have hc : (initial cols rows capacity).cols = cols := Nat.max_eq_left (by omega)
  have hr : (initial cols rows capacity).rows = rows := Nat.max_eq_left hrows
  refine typing_nil (by omega) ?_ ⟨?_, rfl, ?_, .inl rfl⟩ rfl rfl
  · exact {
      cols_eq := hc
      rows_eq := hr
      capacity_eq := rfl
      onPrimary := rfl
      top_eq := rfl
      bottom_eq := by
        show (initial cols rows capacity).rows - 1 + 1 = rows
        omega
      autowrap := rfl
      insertMode := rfl
      linefeedMode := rfl }
  · obtain ⟨k, rfl⟩ : ∃ k, rows = k + 1 := ⟨rows - 1, by omega⟩
    show List.replicate (initial cols (k + 1) capacity).rows
      (Line.blank (initial cols (k + 1) capacity).cols) = _
    rw [hr, hc]
    rfl
  · rw [hr]
    exact hrows

end Screen

end Teletype

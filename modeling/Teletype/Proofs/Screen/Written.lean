import Teletype.Proofs.Reflow.Filled
import Teletype.Proofs.Screen.Typing

/-!
# What typing leaves

Printing, tabs, returns, line feeds and moves to the right never go up. So the rows
below the cursor are blank, its own row does not run on, and a row that runs on
does so into one that shows. Cells are blank only where nothing was printed. Every
operation of the kind keeps this (`Written.exists_perform`), and so does a run
(`exists_written_performAll`).
-/

namespace Teletype

/-! ## Rows -/

theorem Line.isBlank_eq_false_of_mem {l : Line} {c : Cell} (hc : c ∈ l.cells)
    (hshows : c.isBlank = false) : l.isBlank = false := by
  obtain ⟨ys, hsplit, hblank⟩ := Text.exists_dropEndWhile_append Cell.isBlank l.cells
  have hcontent : l.contentLength ≠ 0 := by
    intro hnone
    have hnil : Text.dropEndWhile Cell.isBlank l.cells = [] := List.length_eq_zero_iff.mp hnone
    rw [hnil, List.nil_append] at hsplit
    rw [hsplit] at hc
    rw [hblank c hc] at hshows
    cases hshows
  simp [Line.isBlank, hcontent]

theorem Line.exists_shown {l : Line} (h : l.isBlank = false) (hended : l.wrapped = false) :
    ∃ c ∈ l.cells, c.isBlank = false := by
  cases hnone : l.cells.all Cell.isBlank with
  | false =>
    obtain ⟨c, hc, hshows⟩ := List.all_eq_false.mp hnone
    exact ⟨c, hc, (Bool.not_eq_true _).mp hshows⟩
  | true =>
    have hcontent : Text.dropEndWhile Cell.isBlank ([] ++ l.cells) = [] :=
      Text.dropEndWhile_append (List.all_eq_true.mp hnone)
    change Line.content l.cells = [] at hcontent
    rw [Line.isBlank, hended, Line.contentLength, hcontent] at h
    cases h

theorem Cell.isBlank_written (ch : Char) (pen : Pen) : (Cell.written ch pen).isBlank = false := by
  simp [Cell.written, Cell.isBlank]

theorem Cell.isBlank_combine (c : Cell) (mark : Char) : (c.combine mark).isBlank = c.isBlank := by
  unfold Cell.combine
  split
  · rfl
  · next hfull => simp [Cell.isBlank, hfull]

theorem Cell.tail_combine (c : Cell) (mark : Char) : (c.combine mark).tail = c.tail := by
  unfold Cell.combine
  split <;> rfl

namespace Tidy

variable {cells : List Cell} {col : Nat} {c : Cell} {ch : Char} {pen : Pen}

theorem blanks (n : Nat) : Tidy (List.replicate n .blank) where
  start := by cases n <;> rfl
  eq_blank _ hc _ := List.eq_of_mem_replicate hc

theorem set (h : Tidy cells) (col : Nat) (htail : c.tail = true → 0 < col)
    (hblank : c.isBlank = true → c = .blank) : Tidy (cells.set col c) where
  start := by
    have hstart := h.start
    cases cells with
    | nil => exact hstart
    | cons d rest =>
      cases col with
      | zero => exact (Bool.not_eq_true _).mp fun hc => Nat.lt_irrefl 0 (htail hc)
      | succ col => exact hstart
  eq_blank d hd hnone := by
    rcases List.mem_or_eq_of_mem_set hd with hd | rfl
    · exact h.eq_blank d hd hnone
    · exact hblank hnone

theorem clearOtherHalf (h : Tidy cells) (col : Nat) : Tidy (Row.clearOtherHalf col cells) := by
  unfold Row.clearOtherHalf
  split
  · exact h
  · split
    · exact h.set _ (fun htail => by cases htail) fun _ => rfl
    · split
      · exact h.set _ (fun htail => by cases htail) fun _ => rfl
      · exact h

theorem put (h : Tidy cells) (col : Nat) (ch : Char) (width : Nat) (pen : Pen) :
    Tidy (Row.put false col ch width pen cells) := by
  have hwritten : ∀ {cells}, Tidy cells → Tidy (cells.set col (.written ch pen)) := fun h =>
    h.set col (fun htail => by cases htail) fun hblank => by
      rw [Cell.isBlank_written] at hblank
      cases hblank
  rw [Row.put, if_neg Bool.false_ne_true, Row.write]
  split
  · refine (hwritten ((h.clearOtherHalf col).clearOtherHalf (col + 1))).set (col + 1)
      (fun _ => Nat.succ_pos col) fun hblank => ?_
    rw [Cell.isBlank_wideTail] at hblank
    cases hblank
  · exact hwritten (h.clearOtherHalf col)

theorem modify_combine (h : Tidy cells) (col : Nat) (mark : Char) :
    Tidy (cells.modify col (·.combine mark)) where
  start := by
    have hstart := h.start
    cases cells with
    | nil => cases col <;> exact hstart
    | cons d rest =>
      cases col with
      | zero => exact (Cell.tail_combine d mark).trans hstart
      | succ col => exact hstart
  eq_blank d hd hblank := by
    rcases mem_modify hd with ⟨k, hk, rfl⟩ | hd
    · -- a cell takes a mark only if it shows
      rw [Cell.isBlank_combine] at hblank
      rw [h.eq_blank k (List.mem_of_getElem? hk) hblank]
      rfl
    · exact h.eq_blank d hd hblank

end Tidy

namespace Screen

variable {cols rows capacity : Nat} {s : Screen} {above : List Line} {line : Line} {ch : Char}

/-- Printing, and moves of the cursor that never go up and leave the rows as they are. -/
def Operation.isTyping : Operation → Bool
  | .print _ | .setPen _ | .tabForward _ | .forward _ | .carriageReturn | .linefeed => true
  | _ => false

/-- The screen of a run of typing, with the rows `above` the row `line` of the
cursor. In the midst of a character the row may be blank although the one above
runs on. -/
structure Open (cols rows capacity : Nat) (above : List Line) (line : Line) (s : Screen) :
    Prop where
  ready : s.Ready cols rows capacity
  shows : s.Shows above line
  wellFormed : s.WellFormed
  tidy : s.AllRows Tidy
  chain : (s.scrollback.lines ++ above).IsChain Line.Follows

/-- The screen between two operations of typing: the row of the cursor does not run
on, and shows if the one above does. -/
structure Written (cols rows capacity : Nat) (above : List Line) (line : Line) (s : Screen) :
    Prop extends Open cols rows capacity above line s where
  ended : line.wrapped = false
  follows : ∀ l ∈ (s.scrollback.lines ++ above).getLast?, l.Follows line

namespace Open

variable (h : s.Open cols rows capacity above line)

include h

theorem mem_primary : line ∈ s.primary := by
  rw [h.shows.primary_eq]
  exact List.mem_append_right _ List.mem_cons_self

theorem length_cells : line.cells.length = cols := by
  rw [← h.ready.cols_eq]
  exact h.wellFormed.primary.length_cells line h.mem_primary

theorem tidy_cells : Tidy line.cells :=
  h.tidy.primary line h.mem_primary

/-- Moving in the row changes no row. -/
theorem withCursor {c : Cursor} (hrow : c.row = s.cursor.row) (hcol : c.col < s.cols)
    (hwrap : c.autowrap = s.cursor.autowrap) (hinsert : c.insertMode = s.cursor.insertMode) :
    { s with cursor := c }.Open cols rows capacity above line where
  ready := h.ready.withCursor hwrap hinsert
  shows := h.shows.withCursor hrow
  wellFormed := h.wellFormed.withCursor hcol (by rw [hrow]; exact h.wellFormed.row_lt)
  tidy := h.tidy.withCursor c
  chain := h.chain

/-- Changing the row of the cursor changes no other. -/
theorem mapRow {f : Line → Line} (hlen : ∀ l : Line, (f l).cells.length = l.cells.length)
    (htidy : Tidy (f line).cells) :
    (s.mapRow s.cursor.row f).Open cols rows capacity above (f line) where
  ready := h.ready.mapRow _ _
  shows := h.shows.mapRow h.ready f
  wellFormed := h.wellFormed.mapRow _ fun l hl => (hlen l).trans hl
  tidy := by
    refine h.tidy.mapRow fun l hl => ?_
    have hline : s.grid[s.cursor.row]? = some line := h.shows.line?_eq h.ready
    rw [hline] at hl
    rwa [← Option.some.inj hl]
  chain := by
    rw [Screen.mapRow, scrollback_mapGrid]
    exact h.chain

/-- If the row above does not run on into a blank one, no row does. -/
theorem chain_history
    (hfollows : ∀ l ∈ (s.scrollback.lines ++ above).getLast?, l.Follows line) :
    (s.history above line).IsChain Line.Follows := by
  rw [history, ← List.append_assoc]
  refine h.chain.append (List.isChain_singleton line) fun l hl next hnext => ?_
  obtain rfl : line = next := by simpa using hnext
  exact hfollows l hl

/-- **Going to the row below** begins a blank one. -/
theorem advance (hfollows : ∀ l ∈ (s.scrollback.lines ++ above).getLast?, l.Follows line) :
    ∃ above', s.advance.Open cols rows capacity above' (.blank cols) ∧
      s.advance.scrollback.lines ++ above' <:+ s.history above line := by
  obtain ⟨above', hshows, hsuffix, -⟩ := h.shows.advance h.ready
  exact ⟨above', ⟨h.ready.advance, hshows, h.wellFormed.advance, h.tidy.advance Tidy.blanks,
    (h.chain_history hfollows).suffix hsuffix⟩, hsuffix⟩

/-- A wrap marks the row as running on and begins a new one. -/
theorem exists_wrap : ∃ above', s.wrap.Open cols rows capacity above' (.blank cols) := by
  have hmarked := h.mapRow (f := fun l => { l with wrapped := true }) (fun _ => rfl) h.tidy_cells
  have hleft : s.leaveRow.Open cols rows capacity above { line with wrapped := true } :=
    hmarked.withCursor (c := Cursor.place _ 0 s.cursor.row)
      (by rw [Screen.mapRow, cursor_mapGrid]; rfl)
      (by rw [Screen.mapRow, cols_mapGrid]; exact h.wellFormed.cols_pos) rfl rfl
  obtain ⟨above', hopen, -⟩ := hleft.advance fun l _ _ => by simp [Line.isBlank]
  rw [wrap_eq]
  exact ⟨above', hopen⟩

theorem moveOn (width : Nat) : (s.moveOn width).Open cols rows capacity above line := by
  have hpos := h.wellFormed.cols_pos
  unfold Screen.moveOn mapCursor
  dsimp only
  split
  · exact h.withCursor rfl (show s.cols - 1 < s.cols by omega) rfl rfl
  · exact h.withCursor rfl (show s.cursor.col + width < s.cols by omega) rfl rfl

/-- A character makes the row show. -/
theorem exists_write (hended : line.wrapped = false) (ch : Char) (width : Nat) :
    ∃ line', (s.write ch width).Written cols rows capacity above line' := by
  have hput := (h.mapRow (f := fun l => { l with
    cells := Row.put false s.cursor.col ch width s.cursor.pen l.cells })
    (fun l => Row.length_put ..) (h.tidy_cells.put _ _ _ _)).moveOn width
  have hcol : s.cursor.col < line.cells.length := by
    rw [h.length_cells, ← h.ready.cols_eq]
    exact h.wellFormed.col_lt
  have hcell : Cell.written ch s.cursor.pen ∈
      Row.put false s.cursor.col ch width s.cursor.pen line.cells :=
    List.mem_of_getElem? (Row.getElem?_put hcol ch width s.cursor.pen)
  rw [write_eq, h.ready.insertMode]
  exact ⟨_, hput, hended, fun l _ _ =>
    Line.isBlank_eq_false_of_mem hcell (Cell.isBlank_written ch s.cursor.pen)⟩

end Open

namespace Written

variable (h : s.Written cols rows capacity above line)

include h

theorem withCursor {c : Cursor} (hrow : c.row = s.cursor.row) (hcol : c.col < s.cols)
    (hwrap : c.autowrap = s.cursor.autowrap) (hinsert : c.insertMode = s.cursor.insertMode) :
    { s with cursor := c }.Written cols rows capacity above line where
  toOpen := h.toOpen.withCursor hrow hcol hwrap hinsert
  ended := h.ended
  follows := h.follows

/-- A character without columns changes nothing of what shows. -/
theorem exists_combine (mark : Char) :
    ∃ line', (s.combine mark).Written cols rows capacity above line' := by
  rcases s.combine_cases mark with hsame | ⟨col, hcol⟩
  · rw [hsame]
    exact ⟨line, h⟩
  · have hmarked := h.mapRow (f := fun l => { l with cells := l.cells.modify col (·.combine mark) })
      (fun l => List.length_modify ..) (h.tidy_cells.modify_combine col mark)
    rw [hcol]
    refine ⟨_, hmarked, h.ended, fun l hl hwrapped => ?_⟩
    rw [mapCells, Screen.mapRow, scrollback_mapGrid] at hl
    obtain ⟨c, hc, hshows⟩ := Line.exists_shown (h.follows l hl hwrapped) h.ended
    obtain ⟨i, hi⟩ := List.mem_iff_getElem?.mp hc
    have hi' : (line.cells.modify col (·.combine mark))[i]? =
        some (if col = i then c.combine mark else c) := by
      rw [List.getElem?_modify, hi]
      rfl
    refine Line.isBlank_eq_false_of_mem (List.mem_of_getElem? hi') ?_
    split
    · rwa [Cell.isBlank_combine]
    · exact hshows

/-- A pending wrap carried out leaves a row to write in. -/
theorem exists_afterPendingWrap :
    ∃ above' line', s.afterPendingWrap.Open cols rows capacity above' line' ∧
      line'.wrapped = false := by
  unfold afterPendingWrap
  split
  · obtain ⟨above', hopen⟩ := h.exists_wrap
    exact ⟨above', _, hopen, rfl⟩
  · exact ⟨above, line, h.toOpen, h.ended⟩

/-- **Printing** writes in the row of the cursor or in a new one. -/
theorem exists_print (hcols : 2 ≤ cols) (ch : Char) :
    ∃ above' line', (s.print ch).Written cols rows capacity above' line' := by
  by_cases hnone : Text.charWidth ch = 0
  · have hcombine : s.print ch = s.combine ch := by
      rw [Screen.print]
      exact if_pos hnone
    obtain ⟨line', hmarked⟩ := h.exists_combine ch
    rw [hcombine]
    exact ⟨above, line', hmarked⟩
  · obtain ⟨above', line', hopen, hended⟩ := h.exists_afterPendingWrap
    have hwraps :
        ¬ (!s.afterPendingWrap.cursor.autowrap || s.afterPendingWrap.cols < 2) = true := by
      rw [hopen.ready.autowrap, hopen.ready.cols_eq, decide_eq_false (by omega)]
      exact Bool.false_ne_true
    rw [print_eq hnone]
    dsimp only
    rw [if_neg hwraps]
    split
    · -- a wide character that has one column left
      obtain ⟨above'', hnew⟩ := (hopen.mapRow (f := fun l => { l with
        cells := l.cells.set s.afterPendingWrap.cursor.col .blank }) (fun l => List.length_set)
        (hopen.tidy_cells.set _ (fun htail => by cases htail) fun _ => rfl)).exists_wrap
      obtain ⟨line'', hwritten⟩ := hnew.exists_write rfl ch (Text.charWidth ch)
      exact ⟨above'', line'', hwritten⟩
    · obtain ⟨line'', hwritten⟩ := hopen.exists_write hended ch (Text.charWidth ch)
      exact ⟨above', line'', hwritten⟩

/-- A line feed begins a row that nothing runs on into. -/
theorem exists_linefeed : ∃ above' line', s.linefeed.Written cols rows capacity above' line' := by
  have hsettled : s.settle.Open cols rows capacity above line :=
    h.toOpen.withCursor rfl h.wellFormed.col_lt rfl rfl
  obtain ⟨above', hopen, hsuffix⟩ := hsettled.advance h.follows
  have hfeed : s.linefeed = s.settle.advance := by
    rw [linefeed, h.ready.linefeedMode, if_neg Bool.false_ne_true]
    rfl
  rw [hfeed]
  refine ⟨above', _, hopen, rfl, fun l hl hwrapped => ?_⟩
  -- the row above is the one that was left, and that does not run on
  obtain ⟨gone, hgone⟩ := hsuffix
  have hlast := congrArg List.getLast? hgone
  rw [List.getLast?_append, hl, Option.some_or, history, ← List.append_assoc,
    List.getLast?_concat] at hlast
  rw [Option.some.inj hlast, h.ended] at hwrapped
  cases hwrapped

theorem exists_perform (hcols : 2 ≤ cols) {op : Operation} (hop : op.isTyping = true) :
    ∃ above' line', (s.perform op).Written cols rows capacity above' line' := by
  have hcol := h.wellFormed.col_lt
  have hpos := h.wellFormed.cols_pos
  cases op with
  | print ch => exact h.exists_print hcols ch
  | setPen pen => exact ⟨above, line, h.withCursor rfl hcol rfl rfl⟩
  | carriageReturn => exact ⟨above, line, h.withCursor rfl hpos rfl rfl⟩
  | forward n =>
    refine ⟨above, line, h.withCursor rfl ?_ rfl rfl⟩
    show min _ (s.cols - 1) < s.cols
    omega
  | tabForward n => exact ⟨above, line, h.withCursor rfl (h.wellFormed.tabForward n).col_lt rfl rfl⟩
  | linefeed => exact h.exists_linefeed
  | _ => cases hop

end Written

theorem written_initial (hcols : 2 ≤ cols) (hrows : 1 ≤ rows) (capacity : Nat) :
    (initial cols rows capacity).Written cols rows capacity [] (.blank cols) := by
  have htyping := typing_initial hcols hrows capacity
  refine ⟨⟨htyping.ready, ?_, wellFormed_initial cols rows capacity, ?_, List.isChain_nil⟩, rfl, ?_⟩
  · rw [Line.blank_eq]
    exact htyping.shows
  · have hblank : ∀ l ∈ Grid.blank (max cols 1) (max rows 1), Tidy l.cells := by
      intro l hl
      rw [List.eq_of_mem_replicate hl]
      exact Tidy.blanks _
    exact ⟨hblank, hblank, fun l hl => by cases hl⟩
  · intro l hl
    cases hl

/-- **A run of typing** leaves a screen as each operation of it does. -/
theorem exists_written_performAll (hcols : 2 ≤ cols) (hrows : 1 ≤ rows) (capacity : Nat)
    {ops : List Operation} (hops : ∀ op ∈ ops, op.isTyping = true) :
    ∃ above line, ((initial cols rows capacity).performAll ops).Written cols rows capacity above
      line := by
  suffices hrun : ∀ s : Screen, (∃ above line, s.Written cols rows capacity above line) →
      ∃ above line, (s.performAll ops).Written cols rows capacity above line from
    hrun _ ⟨_, _, written_initial hcols hrows capacity⟩
  induction ops with
  | nil => exact fun s hs => hs
  | cons op rest ih =>
    obtain ⟨hop, hrest⟩ := List.forall_mem_cons.mp hops
    rintro s ⟨above, line, h⟩
    exact ih hrest _ (h.exists_perform hcols hop)

end Screen

end Teletype

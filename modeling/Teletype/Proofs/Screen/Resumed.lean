import Teletype.Proofs.Screen.Resized

/-!
# Typing on after a new size

A text is typed, the size changes, and more is typed. What is typed then goes on
right behind the text, unless the new size left the cursor on a right half
(`resumes_iff`). There the next character is written over the last one, whose
letter is lost (`Stranded.letters_over`); only a character of two columns that
finds no room is wrapped, and leaves every letter in place
(`Stranded.letters_past`).
-/

namespace Teletype

/-! ## What can be read -/

/-- The texts of cells. -/
def lettersOf (cells : List Cell) : List String :=
  (cells.filter fun c => !c.tail && !c.isEmpty).map (·.content)

theorem lettersOf_append (xs ys : List Cell) :
    lettersOf (xs ++ ys) = lettersOf xs ++ lettersOf ys := by
  simp [lettersOf]

theorem lettersOf_blanks (n : Nat) : lettersOf (List.replicate n .blank) = [] := by
  simp [lettersOf, Cell.isEmpty]

theorem lettersOf_glyph (ch : Char) (pen : Pen) : lettersOf (glyph ch pen) = [ch.toString] := by
  unfold glyph
  split <;> simp [lettersOf, Cell.written, Cell.wideTail, Cell.isEmpty]

theorem lettersOf_cellsOf (line : TextLine) :
    lettersOf (cellsOf line) = line.map (·.1.toString) := by
  induction line with
  | nil => rfl
  | cons p rest ih => rw [cellsOf_cons, lettersOf_append, lettersOf_glyph, ih]; rfl

theorem lettersOf_fit {cols : Nat} {row : List Cell} (h : row.length ≤ cols) :
    lettersOf (Line.fit cols row) = lettersOf row := by
  rw [Line.fit_eq h, lettersOf_append, lettersOf_blanks, List.append_nil]

theorem flatMap_fullRow {cols : Nat} {full : List (List Cell)} (h : ∀ r ∈ full, r.length ≤ cols) :
    (full.map (fullRow cols)).flatMap (fun l => lettersOf l.cells) = lettersOf full.flatten := by
  induction full with
  | nil => rfl
  | cons row full ih =>
    obtain ⟨hrow, hfull⟩ := List.forall_mem_cons.mp h
    rw [List.map_cons, List.flatMap_cons, ih hfull, List.flatten_cons, lettersOf_append]
    exact congrArg (· ++ lettersOf full.flatten) (lettersOf_fit hrow)

namespace Screen

variable {cols rows width height capacity : Nat} {s : Screen} {above : List Line} {line : Line}
variable {row : List Cell} {ch : Char} {pen : Pen}

/-- The texts of all cells, in the order of the rows. -/
def letters (s : Screen) : List String :=
  (s.scrollback.lines ++ s.primary).flatMap fun l => lettersOf l.cells

theorem Shows.letters_eq (h : s.Shows above line) : s.letters =
    (s.scrollback.lines ++ above).flatMap (fun l => lettersOf l.cells) ++ lettersOf line.cells := by
  have hblank : ∀ n, (List.replicate n (Line.blank s.cols)).flatMap (fun l => lettersOf l.cells) =
      [] := by
    intro n
    refine List.flatMap_eq_nil_iff.mpr fun l hl => ?_
    rw [List.eq_of_mem_replicate hl]
    exact lettersOf_blanks s.cols
  unfold letters
  rw [h.primary_eq, List.flatMap_append, List.flatMap_append, List.flatMap_cons, hblank,
    List.append_nil, List.flatMap_append, List.append_assoc]

theorem Typing.letters_eq (h : s.Typing cols rows capacity above row) : s.letters =
    (s.scrollback.lines ++ above).flatMap (fun l => lettersOf l.cells) ++ lettersOf row := by
  rw [h.shows.letters_eq, lettersOf_fit h.length_le]

/-- **What is typed behind a text is read behind it.** -/
theorem Typing.letters_typeLine (h : s.Typing cols rows capacity above row) (hcols : 2 ≤ cols)
    {line : TextLine} (hline : TakesColumns line)
    (hroom : (s.scrollback.lines ++ above).length +
      (Reflow.cut cols row (cellsOf line)).length ≤ capacity + rows) :
    (s.performAll (Screen.typeLine line)).letters = s.letters ++ line.map (·.1.toString) := by
  obtain ⟨above', full, last, hcut, htyped, htext⟩ := h.typeLine hcols hline hroom
  have hcells := Reflow.flatten_cut hcols row (cellsOf line)
  have hlengths : ∀ r ∈ Reflow.cut cols row (cellsOf line), r.length ≤ cols :=
    Reflow.length_of_mem_cut hcols h.length_le
  rw [hcut] at hcells hlengths
  have hfull : ∀ r ∈ full, r.length ≤ cols := fun r hr =>
    hlengths r (List.mem_append_left _ hr)
  rw [htyped.letters_eq, htext, h.letters_eq, ← List.append_assoc, List.flatMap_append,
    flatMap_fullRow hfull, List.append_assoc, List.append_assoc, ← lettersOf_append,
    ← lettersOf_cellsOf, ← lettersOf_append, ← hcells, List.flatten_append, List.flatten_singleton]

/-! ## Typing on from a right half -/

/-- A character written over the right half of another blanks its left half. -/
theorem put_over_tail {pre : List Cell} {head tail : Cell}
    (h : Text.charWidth ch = 1 ∨ Text.charWidth ch = 2) (htail : tail.tail = true)
    (hroom : pre.length + 1 + Text.charWidth ch ≤ cols) :
    Row.put false (pre.length + 1) ch (Text.charWidth ch) pen
        (Line.fit cols (pre ++ [head, tail])) =
      Line.fit cols (pre ++ .blank :: glyph ch pen) := by
  have hglyph := length_glyph h pen
  have hcleared : ∀ rest : List Cell,
      Row.clearOtherHalf (pre.length + 1) (pre ++ [head, tail] ++ rest) =
        (pre ++ [.blank]) ++ tail :: rest := by
    intro rest
    rw [List.append_assoc, List.append_assoc]
    exact Row.clearOtherHalf_tail htail
  have hfront : (pre ++ [Cell.blank]).length = pre.length + 1 := List.length_append
  rw [Row.put, if_neg Bool.false_ne_true, Line.fit_eq (by simp; omega),
    Line.fit_eq (by simp [hglyph]; omega)]
  rcases h with h | h
  · have hrest : cols - (pre ++ [head, tail]).length =
        cols - (pre ++ .blank :: glyph ch pen).length := by
      simp [hglyph, h]
    rw [Row.write, h, if_neg (by decide), hcleared, Row.set_append_cons hfront, hrest, glyph, h,
      if_neg (by decide), List.append_assoc, List.append_assoc]
    rfl
  · obtain ⟨m, hm⟩ : ∃ m, cols - (pre ++ [head, tail]).length = m + 1 :=
      ⟨cols - (pre ++ [head, tail]).length - 1, by simp; omega⟩
    have hrest : cols - (pre ++ .blank :: glyph ch pen).length = m := by
      simp [hglyph, h] at hm ⊢
      omega
    have hnext : ∀ c : Cell, (pre ++ [Cell.blank] ++ [c]).length = pre.length + 1 + 1 := by
      intro c
      simp
    have hspare : ∀ (c : Cell) (rest : List Cell), pre ++ [.blank] ++ c :: .blank :: rest =
        (pre ++ [.blank] ++ [c]) ++ .blank :: rest := by
      intro c rest
      simp
    have hblank : ∀ us zs : List Cell,
        Row.clearOtherHalf us.length (us ++ .blank :: zs) = us ++ .blank :: zs :=
      fun us zs => Row.clearOtherHalf_single us zs rfl (Nat.zero_le 1)
    rw [Row.write, h, if_pos (by decide), hcleared, hm, hrest, List.replicate_succ, hspare,
      ← hnext tail, hblank, ← hspare,
      Row.set_append_cons hfront, hspare, Row.set_append_cons ((hnext _).trans (hnext tail).symm),
      glyph, h, if_pos rfl]
    simp

namespace Stranded

variable {pre : List Cell} {p : Char × Pen} (h : s.Stranded cols rows capacity above pre p)

include h

theorem glyph_eq : glyph p.1 p.2 = [.written p.1 p.2, .wideTail p.2] := by
  rw [glyph, if_pos h.wide]

theorem afterPendingWrap_eq : s.afterPendingWrap = s := by
  rw [afterPendingWrap, h.pendingWrap_eq, Bool.false_and, if_neg Bool.false_ne_true]

/-- **A character with room is written over the right half**, and the left one is
blanked. -/
theorem print_over (hwidth : Text.charWidth ch = 1 ∨ Text.charWidth ch = 2)
    (hroom : pre.length + 1 + Text.charWidth ch ≤ cols) :
    (s.print ch).Typing cols rows capacity above (pre ++ .blank :: glyph ch s.cursor.pen) ∧
      (s.print ch).scrollback = s.scrollback := by
  have hglyph := length_glyph hwidth s.cursor.pen
  have hcols_eq := h.ready.cols_eq
  have hcol := h.col_eq
  have hprint : s.print ch = s.write ch (Text.charWidth ch) := by
    rw [print_eq (by omega), h.afterPendingWrap_eq]
    refine if_neg ?_
    rw [Bool.and_eq_true, decide_eq_true_eq, decide_eq_true_eq]
    omega
  have hshows := h.shows.mapRow h.ready fun l => { l with
    cells := Row.put false (pre.length + 1) ch (Text.charWidth ch) s.cursor.pen l.cells }
  have hcursor : (s.mapCells s.cursor.row (Row.put false (pre.length + 1) ch (Text.charWidth ch)
      s.cursor.pen)).cursor = s.cursor := cursor_mapCells _ _
  dsimp only at hshows
  rw [h.glyph_eq, put_over_tail hwidth rfl hroom] at hshows
  rw [hprint]
  refine ⟨?_, scrollback_write _ _ _⟩
  rw [write_eq, h.ready.insertMode, hcol]
  refine typing_moveOn (h.ready.mapRow _ _) hshows ?_ (by omega) ?_ ?_
  · rw [hcursor, hcol, List.length_append, List.length_cons, hglyph]
    omega
  · rw [List.length_append, List.length_cons, hglyph]
    omega
  · rw [hcursor]
    exact h.pendingWrap_eq

/-- **A wide character without room blanks the right half and is wrapped**; the left
half stays. -/
theorem print_past (hwide : Text.charWidth ch = 2) (hfull : pre.length + 2 = cols)
    (hroom : (s.scrollback.lines ++ above).length + 1 < capacity + rows) :
    ∃ above', (s.print ch).Typing cols rows capacity above' (glyph ch s.cursor.pen) ∧
      (s.print ch).scrollback.lines ++ above' = s.scrollback.lines ++ (above ++
        [{ cells := pre ++ [.written p.1 p.2, .blank], wrapped := true }]) := by
  have hcols_eq := h.ready.cols_eq
  have hcol := h.col_eq
  have hcursor : s.blankCursor.cursor = s.cursor := cursor_mapCells _ _
  have hset : (Line.fit cols (pre ++ glyph p.1 p.2)).set (pre.length + 1) .blank =
      pre ++ [.written p.1 p.2, .blank] := by
    have hfits : (pre ++ [Cell.written p.1 p.2, .wideTail p.2]).length = cols := by
      simpa using hfull
    rw [h.glyph_eq, Line.fit_eq (Nat.le_of_eq hfits), hfits, Nat.sub_self, List.replicate_zero,
      List.append_nil]
    simp
  have hshows := h.shows.mapRow h.ready fun l => { l with
    cells := l.cells.set s.cursor.col .blank }
  dsimp only at hshows
  rw [hcol, hset] at hshows
  have hhistory : ∀ line, s.blankCursor.history above line = s.history above line := by
    intro line
    rw [history, history, blankCursor, mapCells, mapRow, scrollback_mapGrid]
  obtain ⟨above', hbegun, hlines, hpen⟩ :=
    exists_begun_wrap (s := s.blankCursor) (by omega) (h.ready.mapRow _ _)
      (by rw [blankCursor, hcol]; exact hshows) (by
        rw [hhistory, history, ← List.append_assoc, List.length_append, List.length_singleton]
        exact hroom)
  have hprint : s.print ch = s.blankCursor.wrap.write ch (Text.charWidth ch) := by
    rw [print_eq (by omega), h.afterPendingWrap_eq]
    dsimp only
    rw [if_pos, if_neg]
    · rw [h.ready.autowrap, Bool.not_true, Bool.false_or, decide_eq_true_eq]
      omega
    · rw [Bool.and_eq_true, decide_eq_true_eq, decide_eq_true_eq]
      omega
  rw [hcursor] at hpen
  have hlen := length_glyph (.inr hwide) s.blankCursor.wrap.cursor.pen
  have hwritten := hbegun.write (.inr hwide) (by
    rw [List.nil_append, hlen]
    omega)
  rw [hprint, scrollback_write, ← hpen]
  exact ⟨above', hwritten, hlines.trans (hhistory _)⟩

theorem withPen (pen : Pen) : (s.setPen pen).Stranded cols rows capacity above pre p where
  ready := h.ready.withCursor rfl rfl
  shows := h.shows.withCursor rfl
  wide := h.wide
  length_le := h.length_le
  col_eq := h.col_eq
  pendingWrap_eq := h.pendingWrap_eq

theorem letters_eq : s.letters =
    (s.scrollback.lines ++ above).flatMap (fun l => lettersOf l.cells) ++ lettersOf pre ++
      [p.1.toString] := by
  have hlen : (pre ++ glyph p.1 p.2).length ≤ cols := by
    rw [h.glyph_eq]
    simpa using h.length_le
  rw [h.shows.letters_eq, lettersOf_fit hlen, lettersOf_append, lettersOf_glyph, List.append_assoc]

/-- **What is typed with room takes the place of the last letter.** -/
theorem letters_over (hcols : 2 ≤ cols) {q : Char × Pen} {rest : TextLine}
    (htakes : TakesColumns (q :: rest)) (hover : pre.length + 1 + Text.charWidth q.1 ≤ cols)
    (hroom : (s.scrollback.lines ++ above).length +
      (Reflow.cut cols (pre ++ glyph p.1 p.2) (cellsOf (q :: rest))).length ≤ capacity + rows) :
    (s.performAll (typeLine (q :: rest))).letters =
      (s.scrollback.lines ++ above).flatMap (fun l => lettersOf l.cells) ++ lettersOf pre ++
        (q :: rest).map (·.1.toString) := by
  obtain ⟨hwidth, hrest⟩ := List.forall_mem_cons.mp htakes
  have hglyph := length_glyph hwidth q.2
  obtain ⟨htyped, hscrollback⟩ := (h.withPen q.2).print_over hwidth hover
  change Typing cols rows capacity above (pre ++ .blank :: glyph q.1 q.2) _ at htyped
  change _ = s.scrollback at hscrollback
  obtain ⟨hshorter, hany⟩ := Reflow.length_cut_le hcols (cellsOf rest)
  -- a cell less of the row is taken than if the character came behind the text
  have hless : (Reflow.cut cols (pre ++ .blank :: glyph q.1 q.2) (cellsOf rest)).length ≤
      (Reflow.cut cols (pre ++ glyph p.1 p.2) (cellsOf (q :: rest))).length := by
    rw [cellsOf_cons, Reflow.cut_group hcols (isGroup_glyph hwidth q.2 rest)]
    split
    · exact hany _ _
    · refine hshorter _ _ ?_
      simp [h.glyph_eq]
  have hrun : s.performAll (typeLine (q :: rest)) =
      ((s.setPen q.2).print q.1).performAll (typeLine rest) := rfl
  rw [hrun, htyped.letters_typeLine hcols hrest (by rw [hscrollback]; omega), htyped.letters_eq,
    hscrollback, lettersOf_append]
  have hblank : lettersOf (.blank :: glyph q.1 q.2) = [q.1.toString] :=
    (lettersOf_append [.blank] (glyph q.1 q.2)).trans (lettersOf_glyph q.1 q.2)
  rw [hblank]
  simp

/-- A wide character without room leaves every letter in place. -/
theorem letters_past (hcols : 2 ≤ cols) {q : Char × Pen} {rest : TextLine}
    (htakes : TakesColumns (q :: rest)) (hwide : Text.charWidth q.1 = 2)
    (hfull : pre.length + 2 = cols)
    (hroom : (s.scrollback.lines ++ above).length +
      (Reflow.cut cols (pre ++ glyph p.1 p.2) (cellsOf (q :: rest))).length ≤ capacity + rows) :
    (s.performAll (typeLine (q :: rest))).letters =
      s.letters ++ (q :: rest).map (·.1.toString) := by
  obtain ⟨hwidth, hrest⟩ := List.forall_mem_cons.mp htakes
  have hglyph := length_glyph hwidth q.2
  have hends : Reflow.isFull cols (glyph q.1 q.2).length (pre ++ glyph p.1 p.2) = true := by
    rw [h.glyph_eq, hglyph]
    simp [Reflow.isFull, hwide]
    omega
  rw [cellsOf_cons, Reflow.cut_group hcols (isGroup_glyph hwidth q.2 rest), if_pos hends,
    List.length_cons] at hroom
  have hmore := List.length_pos_iff.mpr (Reflow.cut_ne_nil cols (glyph q.1 q.2) (cellsOf rest))
  obtain ⟨above', htyped, hlines⟩ := (h.withPen q.2).print_past hwide hfull (by
    show (s.scrollback.lines ++ above).length + 1 < _
    omega)
  change Typing cols rows capacity above' (glyph q.1 q.2) _ at htyped
  change _ = s.scrollback.lines ++ (above ++ [_]) at hlines
  have hrun : s.performAll (typeLine (q :: rest)) =
      ((s.setPen q.2).print q.1).performAll (typeLine rest) := rfl
  have hkept : lettersOf (pre ++ [.written p.1 p.2, .blank]) = lettersOf pre ++ [p.1.toString] := by
    rw [lettersOf_append]
    simp [lettersOf, Cell.written, Cell.isEmpty]
  rw [hrun, htyped.letters_typeLine hcols hrest (by
    rw [hlines, ← List.append_assoc, List.length_append, List.length_singleton]
    omega), htyped.letters_eq, hlines, h.letters_eq, ← List.append_assoc, List.flatMap_append,
    List.flatMap_singleton, hkept, lettersOf_glyph]
  simp

/-- **The second text is read behind the first**, unless it begins with a character
that has room over the right half. -/
theorem letters_typeLine_iff (hcols : 2 ≤ cols) {line : TextLine} (htakes : TakesColumns line)
    (hroom : (s.scrollback.lines ++ above).length +
      (Reflow.cut cols (pre ++ glyph p.1 p.2) (cellsOf line)).length ≤ capacity + rows) :
    (s.performAll (typeLine line)).letters = s.letters ++ line.map (·.1.toString) ↔
      ¬ ∃ q ∈ line.head?, Text.charWidth q.1 = 2 → s.cursor.col + 1 < cols := by
  cases line with
  | nil => exact iff_of_true (List.append_nil _).symm (fun ⟨q, hq, _⟩ => by cases hq)
  | cons q rest =>
    have hq : Text.charWidth q.1 = 1 ∨ Text.charWidth q.1 = 2 := htakes q List.mem_cons_self
    have hcol := h.col_eq
    have hle := h.length_le
    by_cases hover : pre.length + 1 + Text.charWidth q.1 ≤ cols
    · refine iff_of_false (fun hsame => ?_) (not_not_intro ⟨q, rfl, fun hwide => by omega⟩)
      -- one letter is missing
      have hread := h.letters_over hcols htakes hover hroom
      rw [hsame, h.letters_eq] at hread
      have hcount := congrArg List.length hread
      simp at hcount
    · have hwide : Text.charWidth q.1 = 2 := by omega
      refine iff_of_true (h.letters_past hcols htakes hwide (by omega) hroom) ?_
      rintro ⟨q', hmem, hfits⟩
      obtain rfl : q = q' := by simpa using hmem
      have hinside := hfits hwide
      omega

end Stranded

/-! ## Typing on -/

theorem Typing.trackedCursor?_eq (h : s.Typing cols rows capacity above row) :
    s.trackedCursor? = some ⟨(s.scrollback.lines ++ above).length, min row.length (cols - 1),
      decide (row.length = cols)⟩ := by
  rw [trackedCursor?, h.ready.onPrimary, if_neg Bool.false_ne_true, h.shows.row_eq, h.col_eq,
    h.pendingWrap_eq, List.length_append]

theorem Stranded.trackedCursor?_eq {pre : List Cell} {p : Char × Pen}
    (h : s.Stranded cols rows capacity above pre p) :
    s.trackedCursor? = some ⟨(s.scrollback.lines ++ above).length, pre.length + 1, false⟩ := by
  rw [trackedCursor?, h.ready.onPrimary, if_neg Bool.false_ne_true, h.shows.row_eq, h.col_eq,
    h.pendingWrap_eq, List.length_append]

/-- Whether a new size leaves the cursor on a right half. -/
def strandedBy (s : Screen) (width height : Nat) : Prop :=
  ¬ (width = s.cols ∧ max height 1 = s.rows) ∧ s.waitsOnTail = true

theorem typed_max_rows (cols rows capacity : Nat) (lines : List TextLine) :
    typed cols (max rows 1) capacity lines = typed cols rows capacity lines := by
  rw [typed, initial, Nat.max_assoc, Nat.max_self]
  rfl

/-- One line, typed on a screen of any number of rows. -/
theorem exists_typing_typed_single {line : TextLine} (hcols : 2 ≤ cols) (htakes : TakesColumns line)
    (hold : (layLine cols line).length ≤ capacity + max rows 1) :
    ∃ above full last, Reflow.cut cols [] (cellsOf line) = full ++ [last] ∧
      (typed cols rows capacity [line]).Typing cols (max rows 1) capacity above last ∧
      (typed cols rows capacity [line]).history above { cells := Line.fit cols last } =
        layLine cols line := by
  have hone : ∀ l ∈ [] ++ [line], TakesColumns l := by simpa
  obtain ⟨above, full, last, hcut, htyping, htext⟩ :=
    exists_typing_typed hcols (Nat.le_max_right rows 1) hone
      (by rw [List.nil_append, layLines_singleton]; exact hold)
  rw [List.nil_append, typed_max_rows] at htyping htext
  rw [layLines_singleton] at htext
  exact ⟨above, full, last, hcut, htyping, htext⟩

theorem above_eq_of_history {text : TextLine} {full : List (List Cell)} {last : List Cell}
    (hcut : Reflow.cut cols [] (cellsOf text) = full ++ [last])
    (h : s.history above { cells := Line.fit cols last } = layLine cols text) :
    s.scrollback.lines ++ above = full.map (fullRow cols) := by
  rw [layLine, hcut, Reflow.asLines_concat, history, ← List.append_assoc] at h
  exact (List.append_inj' h rfl).1

/-- **A text brought to a new size** is typed on behind its last row, or on from the
right half of its last character. -/
theorem exists_resized_typed (rows height : Nat) (hcols : 2 ≤ cols) (hwidth : 2 ≤ width)
    {text : TextLine} (htakes : TakesColumns text)
    (hold : (layLine cols text).length ≤ capacity + max rows 1)
    (hnew : (layLine width text).length ≤ capacity + max height 1) :
    let before := typed cols rows capacity [text]
    let after := before.resize width height
    ∃ above full last, Reflow.cut width [] (cellsOf text) = full ++ [last] ∧
      after.scrollback.lines ++ above = full.map (fullRow width) ∧
      ((¬ before.strandedBy width height ∧
          after.Typing width (max height 1) capacity above last) ∨
        (before.strandedBy width height ∧ ∃ pre p, last = pre ++ glyph p.1 p.2 ∧
          after.Stranded width (max height 1) capacity above pre p)) := by
  intro before after
  obtain ⟨above, full, last, hcut, htyping, htext⟩ := exists_typing_typed_single hcols htakes hold
  have hsize : (width = before.cols ∧ max height 1 = before.rows) ↔
      width = cols ∧ max height 1 = max rows 1 := by
    rw [htyping.ready.cols_eq, htyping.ready.rows_eq]
  by_cases hsame : width = cols ∧ max height 1 = max rows 1
  · -- a resize to the size that it has leaves a screen alone
    have hafter : after = before := by
      obtain ⟨hc, hr⟩ := hsize.mpr hsame
      show before.resize width height = before
      rw [← resize_max_rows, hc, hr]
      exact resize_self ((wellFormed_initial cols rows capacity).performAll (typeLines [text]))
    have hstays : ¬ before.strandedBy width height := fun hstranded =>
      hstranded.1 (hsize.mpr hsame)
    obtain ⟨rfl, hrows⟩ := hsame
    rw [hafter, hrows]
    exact ⟨above, full, last, hcut, above_eq_of_history hcut htext, .inl ⟨hstays, htyping⟩⟩
  · obtain ⟨full', last', hcut'⟩ := Reflow.exists_cut_concat width [] (cellsOf text)
    obtain ⟨above', hhistory, hcases⟩ := htyping.resized_cases hcols hwidth
      (Nat.le_max_right height 1) hsame hcut hcut' htext hnew htakes
    rw [resize_max_rows] at hhistory hcases
    refine ⟨above', full', last', hcut', above_eq_of_history hcut' hhistory, ?_⟩
    rcases hcases with ⟨hwaits, htyped⟩ | ⟨hwaits, -, p, pre, -, hlast, hstranded⟩
    · refine .inl ⟨fun hstranded => ?_, htyped⟩
      have hon := hstranded.2
      rw [hwaits] at hon
      cases hon
    · exact .inr ⟨⟨fun hboth => hsame (hsize.mp hboth), hwaits⟩, pre, p, hlast, hstranded⟩

section Resumed

variable {t₁ t₂ : TextLine}

/-- Laid out together, a second text goes on with the last row of the first. -/
theorem length_layLine_append (hcols : 2 ≤ cols) {full : List (List Cell)} {last : List Cell}
    (hcut : Reflow.cut cols [] (cellsOf t₁) = full ++ [last]) (t₂ : TextLine) :
    (layLine cols (t₁ ++ t₂)).length =
      full.length + (Reflow.cut cols last (cellsOf t₂)).length := by
  rw [layLine, Reflow.length_asLines, cellsOf_append,
    Reflow.cut_append hcols (startsWithTail_cellsOf t₂) hcut, List.length_append]

theorem length_layLine_le_append (hcols : 2 ≤ cols) (t₁ t₂ : TextLine) :
    (layLine cols t₁).length ≤ (layLine cols (t₁ ++ t₂)).length := by
  obtain ⟨full, last, hcut⟩ := Reflow.exists_cut_concat cols [] (cellsOf t₁)
  have hmore := List.length_pos_iff.mpr (Reflow.cut_ne_nil cols last (cellsOf t₂))
  have hfirst : (layLine cols t₁).length = full.length + 1 := Reflow.length_layText hcut
  rw [hfirst, length_layLine_append hcols hcut]
  omega

/-- **The cursor stands where it stands in a text typed at the new size**, unless it
is left on a right half. -/
theorem trackedCursor?_resized_iff (rows height : Nat) (hcols : 2 ≤ cols) (hwidth : 2 ≤ width)
    (htakes : TakesColumns t₁) (hold : (layLine cols t₁).length ≤ capacity + max rows 1)
    (hnew : (layLine width t₁).length ≤ capacity + max height 1) :
    ((typed cols rows capacity [t₁]).resize width height).trackedCursor? =
        (typed width height capacity [t₁]).trackedCursor? ↔
      ¬ (typed cols rows capacity [t₁]).strandedBy width height := by
  obtain ⟨above₀, full₀, last₀, hcut₀, htyping₀, htext₀⟩ :=
    exists_typing_typed_single hwidth htakes hnew
  obtain ⟨above, full, last, hcut, habove, hcases⟩ :=
    exists_resized_typed rows height hcols hwidth htakes hold hnew
  obtain ⟨rfl, hlast⟩ := List.append_inj' (hcut.symm.trans hcut₀) rfl
  obtain rfl := (List.cons.inj hlast).1
  rw [htyping₀.trackedCursor?_eq, above_eq_of_history hcut₀ htext₀]
  rcases hcases with ⟨hstays, htyping⟩ | ⟨hstranded, pre, p, rfl, hleft⟩
  · rw [htyping.trackedCursor?_eq, habove]
    exact iff_of_true rfl hstays
  · refine iff_of_false (fun hsame => ?_) (not_not_intro hstranded)
    rw [hleft.trackedCursor?_eq] at hsame
    obtain ⟨-, hcol, hpending⟩ := Position.mk.inj (Option.some.inj hsame)
    have hroom := hleft.length_le
    have hnotfull := of_decide_eq_false hpending.symm
    rw [List.length_append, hleft.glyph_eq, List.length_cons, List.length_singleton]
      at hcol hnotfull
    omega

/-- **Two texts are read one behind the other**, unless the second one overwrites a
half of the first. -/
theorem letters_resumed_iff (rows height : Nat) (hcols : 2 ≤ cols) (hwidth : 2 ≤ width)
    (h₁ : TakesColumns t₁) (h₂ : TakesColumns t₂)
    (hold : (layLine cols t₁).length ≤ capacity + max rows 1)
    (hnew : (layLine width (t₁ ++ t₂)).length ≤ capacity + max height 1) :
    (((typed cols rows capacity [t₁]).resize width height).performAll (typeLine t₂)).letters =
        (t₁ ++ t₂).map (·.1.toString) ↔
      ¬ ((typed cols rows capacity [t₁]).strandedBy width height ∧ ∃ p ∈ t₂.head?,
        Text.charWidth p.1 = 2 →
          ((typed cols rows capacity [t₁]).resize width height).cursor.col + 1 < width) := by
  obtain ⟨above, full, last, hcut, habove, hcases⟩ :=
    exists_resized_typed rows height hcols hwidth h₁ hold
      (Nat.le_trans (length_layLine_le_append hwidth t₁ t₂) hnew)
  obtain ⟨hcells, -, hfull⟩ := (snug_cellsOf width _).rows hwidth hcut
  have hletters := flatMap_fullRow fun r hr => (hfull r hr).2
  have htext : lettersOf full.flatten ++ lettersOf last = t₁.map (·.1.toString) := by
    rw [← lettersOf_append, hcells, lettersOf_cellsOf]
  generalize (typed cols rows capacity [t₁]).resize width height = after at *
  have hroom : (after.scrollback.lines ++ above).length +
      (Reflow.cut width last (cellsOf t₂)).length ≤ capacity + max height 1 := by
    rw [habove, List.length_map, ← length_layLine_append hwidth hcut]
    exact hnew
  rw [List.map_append, ← htext]
  rcases hcases with ⟨hstays, htyping⟩ | ⟨hstranded, pre, p, rfl, hleft⟩
  · rw [htyping.letters_typeLine hwidth h₂ hroom, htyping.letters_eq, habove, hletters]
    exact iff_of_true rfl fun hboth => hstays hboth.1
  · have hread := hleft.letters_eq
    rw [habove, hletters, List.append_assoc, ← lettersOf_glyph p.1 p.2, ← lettersOf_append] at hread
    rw [← hread, hleft.letters_typeLine_iff hwidth h₂ hroom, not_and]
    exact ⟨fun hnone _ => hnone, fun hnone => hnone hstranded⟩

/-- **After a new size typing goes on right behind the text, unless the cursor is
left on a right half.** For a text typed at one size, brought to another and
typed on, as long as the scrollback loses no row: the cursor stands where it
stands when the text is typed at the new size, exactly if the size does not
change or no wrap was pending behind a character of two columns. And the two
texts are read one behind the other, exactly if this is so, or nothing is typed
on, or what is typed on begins with a character of two columns that does not
find room. -/
theorem resumes_iff (rows height : Nat) (hcols : 2 ≤ cols) (hwidth : 2 ≤ width)
    (h₁ : TakesColumns t₁) (h₂ : TakesColumns t₂)
    (hold : (layLine cols t₁).length ≤ capacity + max rows 1)
    (hnew : (layLine width (t₁ ++ t₂)).length ≤ capacity + max height 1) :
    let before := typed cols rows capacity [t₁]
    let after := before.resize width height
    (after.trackedCursor? = (typed width height capacity [t₁]).trackedCursor? ↔
        ¬ before.strandedBy width height) ∧
      ((after.performAll (typeLine t₂)).letters = (t₁ ++ t₂).map (·.1.toString) ↔
        ¬ (before.strandedBy width height ∧
          ∃ p ∈ t₂.head?, Text.charWidth p.1 = 2 → after.cursor.col + 1 < width)) :=
  ⟨trackedCursor?_resized_iff rows height hcols hwidth h₁ hold
      (Nat.le_trans (length_layLine_le_append hwidth t₁ t₂) hnew),
    letters_resumed_iff rows height hcols hwidth h₁ h₂ hold hnew⟩

/-- Two letters fill two columns. On five the wrap that was pending is none any more,
and what is typed on follows in the row. -/
theorem resumes_five_columns :
    let t₁ : TextLine := [('a', {}), ('b', {})]
    let t₂ : TextLine := [('世', {}), ('c', {})]
    let before := typed 2 1 3 [t₁]
    before.cursor.pendingWrap = true ∧ TakesColumns t₁ ∧ TakesColumns t₂ ∧
      (layLine 2 t₁).length = 1 ∧ (layLine 5 (t₁ ++ t₂)).length = 1 ∧
      (before.resize 5 1).trackedCursor? = (typed 5 1 3 [t₁]).trackedCursor? ∧
      ((before.resize 5 1).performAll (typeLine t₂)).letters = ["a", "b", "世", "c"] := by
  intro t₁ t₂ before
  have hpending : before.cursor.pendingWrap = true := by decide +kernel
  have h₁ : TakesColumns t₁ := by decide +kernel
  have h₂ : TakesColumns t₂ := by decide +kernel
  have hold : (layLine 2 t₁).length = 1 := by decide +kernel
  have hnew : (layLine 5 (t₁ ++ t₂)).length = 1 := by decide +kernel
  have hstays : ¬ before.strandedBy 5 1 := by
    rintro ⟨-, hwaits⟩
    exact absurd hwaits (by decide +kernel)
  have hfits : (layLine 2 t₁).length ≤ 3 + max 1 1 := Nat.le_trans (Nat.le_of_eq hold) (by decide)
  have hfits' : (layLine 5 (t₁ ++ t₂)).length ≤ 3 + max 1 1 :=
    Nat.le_trans (Nat.le_of_eq hnew) (by decide)
  obtain ⟨hcursor, hletters⟩ := resumes_iff 1 1 (by decide) (by decide) h₁ h₂ hfits hfits'
  exact ⟨hpending, h₁, h₂, hold, hnew, hcursor.mpr hstays,
    hletters.mpr fun hboth => hstays hboth.1⟩

/-- A wide character fills the row of four columns; on six the next letter overwrites
it. -/
theorem resumes_over_half :
    let t₁ : TextLine := [('a', {}), ('b', {}), ('中', {})]
    let t₂ : TextLine := [('x', {})]
    TakesColumns t₁ ∧ TakesColumns t₂ ∧ (layLine 4 t₁).length ≤ 5 ∧
      (layLine 6 (t₁ ++ t₂)).length ≤ 5 ∧
      (((typed 4 1 5 [t₁]).resize 6 1).performAll (typeLine t₂)).letters ≠
        (t₁ ++ t₂).map (·.1.toString) := by
  decide +kernel

end Resumed

end Screen

end Teletype

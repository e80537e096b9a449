import Teletype.Proofs.Screen.Typing

/-!
# Typing a text and laying it out anew

A text comes to its rows in two ways. Typed, it is wrapped at the cursor,
character by character, and rows leave the top one by one; when the size
changes, all rows are joined to paragraphs and cut anew at once. Both come to
the rows of `layLines`, with the last of them on the grid (`Holds`), so that
nobody can tell from the rows at which size the text was typed.
-/

namespace Teletype.Screen

variable {cols rows width height capacity : Nat} {s : Screen} {above : List Line}
variable {row : List Cell} {front lines : List TextLine} {line : TextLine}

/-- A new screen, once lines of text are typed on it. -/
def typed (cols rows capacity : Nat) (lines : List TextLine) : Screen :=
  (initial cols rows capacity).performAll (typeLines lines)

/-- The grid, of `rows` rows, holds the last rows of a text and the scrollback all
those above. -/
structure Holds (cols rows : Nat) (text : List Line) (s : Screen) : Prop where
  lines_eq : s.scrollback.lines = text.take (text.length - rows)
  primary_eq : s.primary = fitRows cols rows (text.drop (text.length - rows))

/-! ## What is typed -/

/-- A screen holds what was typed on it. -/
theorem Typing.holds (h : s.Typing cols rows capacity above row) :
    s.Holds cols rows (s.history above { cells := Line.fit cols row }) := by
  have hrows := h.ready.rows_eq
  have hcols := h.ready.cols_eq
  have hlt := h.shows.row_lt
  have hlen : (above ++ [Line.mk (Line.fit cols row) false]).length = above.length + 1 :=
    List.length_append
  -- the rows above the grid are those that have scrolled off
  have hscrolled : (s.history above { cells := Line.fit cols row }).length - rows =
      s.scrollback.lines.length := by
    rw [history, List.length_append, hlen]
    rcases h.shows.scrolled with hnone | hlast
    · rw [hnone, List.length_nil]
      omega
    · omega
  refine ⟨?_, ?_⟩
  · rw [hscrolled, history, List.take_left]
  · rw [hscrolled, history, List.drop_left, fitRows, List.take_of_length_le (by omega), hlen,
      h.shows.primary_eq, hcols, hrows, List.append_assoc]
    rfl

theorem exists_typing_typed (hcols : 2 ≤ cols) (hrows : 1 ≤ rows)
    (htakes : ∀ l ∈ front ++ [line], TakesColumns l)
    (hcapacity : (layLines cols (front ++ [line])).length ≤ capacity + rows) :
    ∃ above full last, Reflow.cut cols [] (cellsOf line) = full ++ [last] ∧
      (typed cols rows capacity (front ++ [line])).Typing cols rows capacity above last ∧
      (typed cols rows capacity (front ++ [line])).history above { cells := Line.fit cols last } =
        layLines cols (front ++ [line]) := by
  refine (typing_initial hcols hrows capacity).typeLines hcols htakes ?_
  show 0 + _ ≤ _
  rw [Nat.zero_add]
  exact hcapacity

/-- **A text is typed to the rows of its lines.** -/
theorem holds_typed (hcols : 2 ≤ cols) (hrows : 1 ≤ rows)
    (htakes : ∀ l ∈ front ++ [line], TakesColumns l)
    (hcapacity : (layLines cols (front ++ [line])).length ≤ capacity + rows) :
    (typed cols rows capacity (front ++ [line])).Holds cols rows
      (layLines cols (front ++ [line])) := by
  obtain ⟨above, full, last, -, htyping, htext⟩ :=
    exists_typing_typed hcols hrows htakes hcapacity
  rw [← htext]
  exact htyping.holds

/-! ## What a new size makes of it -/

/-- **A new size** brings the rows, laid out anew, to the grid and the scrollback. -/
theorem resize_eq (hwidth : 1 ≤ width) (hheight : 1 ≤ height)
    (hsize : ¬ (width = s.cols ∧ height = s.rows)) {text : List Line} {q : Position}
    (hreflow : reflow width (s.scrollback.lines ++ s.primary) s.trackedCursor? = (text, some q))
    {first : Nat} (hfirst : firstShown text.length height (some q) = first) :
    s.resize width height =
      { s with
        cols := width
        rows := height
        primary := fitRows width height (text.drop first)
        alternate := fitRows width height (s.alternate.map (·.resize width))
        scrollback := s.scrollback.clear.pushAll (text.take first)
        cursor := Cursor.clamp { s.cursor with
          row := q.row - first, col := q.col, pendingWrap := q.pendingWrap } width height
        top := 0
        bottom := height - 1
        tabs := initialTabs width } := by
  unfold resize
  dsimp only
  rw [Nat.max_eq_left hwidth, Nat.max_eq_left hheight, if_neg (by simpa using hsize), hreflow]
  dsimp only
  rw [hfirst]

theorem resize_max_rows (s : Screen) (cols rows : Nat) :
    s.resize cols (max rows 1) = s.resize cols rows := by
  rw [resize, resize, Nat.max_assoc, Nat.max_self]

/-- The size that a screen has leaves it alone. -/
theorem resize_self (h : s.WellFormed) : s.resize s.cols s.rows = s := by
  unfold resize
  dsimp only
  rw [Nat.max_eq_left h.cols_pos, Nat.max_eq_left h.rows_pos, if_pos (by simp)]

theorem clamp_of_lt {c : Cursor} (hcol : c.col < width) (hrow : c.row < height) :
    c.clamp width height = c := by
  rw [Cursor.clamp, if_neg (by omega), Nat.min_eq_left (by omega)]

/-- With the cursor in the last row, as many rows are shown as there is room for. -/
theorem firstShown_last {count : Nat} {q : Position} (h : q.row + 1 = count)
    (hheight : 1 ≤ height) :
    firstShown count height (some q) = count - height := by
  show min (count - height) q.row = _
  omega

/-- A screen holds the rows that it was laid out anew to, if the cursor is in the
last one. -/
theorem holds_resize (hwidth : 1 ≤ width) (hheight : 1 ≤ height)
    (hsize : ¬ (width = s.cols ∧ height = s.rows)) {text : List Line} {q : Position}
    (hreflow : reflow width (s.scrollback.lines ++ s.primary) s.trackedCursor? = (text, some q))
    (hq : q.row + 1 = text.length) (hcapacity : text.length ≤ s.scrollback.capacity + height) :
    (s.resize width height).Holds width height text := by
  have hroom : s.scrollback.clear.lines.length + (text.take (text.length - height)).length ≤
      s.scrollback.clear.capacity := by
    show 0 + _ ≤ s.scrollback.capacity
    rw [List.length_take]
    omega
  rw [resize_eq hwidth hheight hsize hreflow (firstShown_last hq hheight)]
  exact ⟨Scrollback.lines_pushAll_of_le hroom, rfl⟩

/-- The rows of a screen that is typed on, laid out anew. -/
theorem Typing.exists_reflow_eq (h : s.Typing cols rows capacity above row) (hcols : 2 ≤ cols)
    (hwidth : 2 ≤ width) {full : List (List Cell)}
    (hcut : Reflow.cut cols [] (cellsOf line) = full ++ [row])
    (htext : s.history above { cells := Line.fit cols row } = layLines cols (front ++ [line])) :
    ∃ q, reflow width (s.scrollback.lines ++ s.primary) s.trackedCursor? =
        (layLines width (front ++ [line]), some q) ∧
      q.row + 1 = (layLines width (front ++ [line])).length ∧
      q.col = (Reflow.placeIn width s.cursor.pendingWrap (cellsOf line)
        (full.flatten.length + s.cursor.col)).col ∧
      q.pendingWrap = (Reflow.placeIn width s.cursor.pendingWrap (cellsOf line)
        (full.flatten.length + s.cursor.col)).pendingWrap := by
  have hcol := h.col_eq
  have hle := h.length_le
  have hcursor : s.trackedCursor? = some ⟨s.scrollback.lines.length + s.cursor.row, s.cursor.col,
      s.cursor.pendingWrap⟩ := by
    rw [trackedCursor?, h.ready.onPrimary]
    rfl
  have hrows := h.shows.rows_eq
  rw [htext, h.ready.cols_eq] at hrows
  have hlast : s.scrollback.lines.length + s.cursor.row + 1 =
      (layLines cols (front ++ [line])).length := by
    rw [← htext, history, List.length_append, List.length_append, h.shows.row_eq]
    rfl
  rw [hcursor, hrows]
  refine Reflow.exists_reflow_eq hcols hwidth hcut ?_ ?_ front hlast _
  · show s.cursor.col ≤ row.length
    omega
  · show row.length ≤ s.cursor.col + 1
    omega

/-- **A new size gives a text the rows of its lines at that size.** -/
theorem holds_resize_typed (hcols : 2 ≤ cols) (hrows : 1 ≤ rows) (hwidth : 2 ≤ width)
    (hheight : 1 ≤ height) (htakes : ∀ l ∈ front ++ [line], TakesColumns l)
    (hold : (layLines cols (front ++ [line])).length ≤ capacity + rows)
    (hnew : (layLines width (front ++ [line])).length ≤ capacity + height) :
    ((typed cols rows capacity (front ++ [line])).resize width height).Holds width height
      (layLines width (front ++ [line])) := by
  obtain ⟨above, full, last, hcut, htyping, htext⟩ :=
    exists_typing_typed hcols hrows htakes hold
  by_cases hsize : width = cols ∧ height = rows
  · obtain ⟨rfl, rfl⟩ := hsize
    -- a resize to the size that it has leaves a screen alone
    have hsame := resize_self (((wellFormed_initial width height capacity)).performAll
      (typeLines (front ++ [line])))
    change resize (typed _ _ _ _) (typed _ _ _ _).cols (typed _ _ _ _).rows = _ at hsame
    rw [htyping.ready.cols_eq, htyping.ready.rows_eq] at hsame
    rw [hsame]
    exact holds_typed hwidth hheight htakes hnew
  · obtain ⟨q, hreflow, hq, -⟩ := htyping.exists_reflow_eq hcols hwidth hcut htext
    refine holds_resize (by omega) hheight ?_ hreflow hq ?_
    · rw [htyping.ready.cols_eq, htyping.ready.rows_eq]
      exact hsize
    · rw [htyping.ready.capacity_eq]
      exact hnew

/-- **Typed at one size and brought to another, a text has the rows that it has
when typed at that size**, as long as the scrollback loses none at either. -/
theorem resize_typed (hcols : 2 ≤ cols) (hrows : 1 ≤ rows) (hwidth : 2 ≤ width)
    (hheight : 1 ≤ height) (htakes : ∀ line ∈ lines, TakesColumns line)
    (hold : (layLines cols lines).length ≤ capacity + rows)
    (hnew : (layLines width lines).length ≤ capacity + height) :
    ((typed cols rows capacity lines).resize width height).scrollback.lines =
        (typed width height capacity lines).scrollback.lines ∧
      ((typed cols rows capacity lines).resize width height).primary =
        (typed width height capacity lines).primary := by
  -- no lines at all are typed as one empty line is
  obtain ⟨front, line, htyped, htakes, hold, hnew⟩ : ∃ front line,
      typeLines lines = typeLines (front ++ [line]) ∧ (∀ l ∈ front ++ [line], TakesColumns l) ∧
      (layLines cols (front ++ [line])).length ≤ capacity + rows ∧
      (layLines width (front ++ [line])).length ≤ capacity + height := by
    rcases List.eq_nil_or_concat lines with rfl | ⟨front, line, rfl⟩
    · have hnone : ∀ l ∈ ([] ++ [[]] : List TextLine), TakesColumns l := by
        intro l hl
        obtain rfl := List.mem_singleton.mp hl
        exact fun p hp => absurd hp List.not_mem_nil
      refine ⟨[], [], rfl, hnone, ?_, ?_⟩
      · exact Nat.le_trans hrows (Nat.le_add_left rows capacity)
      · exact Nat.le_trans hheight (Nat.le_add_left height capacity)
    · rw [List.concat_eq_append] at htakes hold hnew ⊢
      exact ⟨front, line, rfl, htakes, hold, hnew⟩
  have hsame : ∀ c r, typed c r capacity lines = typed c r capacity (front ++ [line]) := by
    intro c r
    rw [typed, typed, htyped]
  have hresized := holds_resize_typed hcols hrows hwidth hheight htakes hold hnew
  have hdirect := holds_typed hwidth hheight htakes hnew
  rw [hsame, hsame]
  exact ⟨hresized.lines_eq.trans hdirect.lines_eq.symm,
    hresized.primary_eq.trans hdirect.primary_eq.symm⟩

/-- On five columns the wide character stands in the first row; on three it is
wrapped, and leaves a blank cell there. -/
theorem resize_typed_three_columns :
    let lines : List TextLine :=
      [[('a', {}), ('b', {}), ('世', { style := { bold := true } }), ('c', {}), ('d', {})], [],
        [('e', {})]]
    (∀ line ∈ lines, TakesColumns line) ∧ (layLines 5 lines).length = 4 ∧
      (layLines 3 lines).length = 5 ∧
      ((typed 5 2 3 lines).resize 3 2).scrollback.lines = (typed 3 2 3 lines).scrollback.lines ∧
      ((typed 5 2 3 lines).resize 3 2).primary = (typed 3 2 3 lines).primary := by
  intro lines
  have htakes : ∀ line ∈ lines, TakesColumns line := by decide +kernel
  have hold : (layLines 5 lines).length = 4 := by decide +kernel
  have hnew : (layLines 3 lines).length = 5 := by decide +kernel
  exact ⟨htakes, hold, hnew, resize_typed (by decide) (by decide) (by decide) (by decide) htakes
    (Nat.le_trans (Nat.le_of_eq hold) (by decide)) (Nat.le_of_eq hnew)⟩

end Teletype.Screen

import Teletype.Proofs.Reflow.Return
import Teletype.Proofs.Screen.Rewrap
import Teletype.Proofs.Screen.Written

/-!
# Another size and back

What was typed is laid out at another size, and then at its own again. The text is
kept (`transcript_resize_resize`) as long as three things are. The rows below the
cursor need room at the other size, for there they are dropped. And no row that
runs on may end in cells that nothing was printed in, at its own width
(`Line.Filled`) or at the other (`Reflow.Snug`): they are taken for what fills a
row up in front of a character of two columns, and are lost.
-/

namespace Teletype

/-! ## The text of rows -/

namespace Line

/-- The characters that cells show, with a space for each that holds none. -/
def shownIn (cells : List Cell) : List Char :=
  (cells.filter (!·.tail)).flatMap (·.shown.toList)

theorem toList_fullText (l : Line) : l.fullText.toList = shownIn l.cells := by
  rw [fullText, String.toList_join, List.flatMap_map]
  rfl

theorem shownIn_append (xs ys : List Cell) : shownIn (xs ++ ys) = shownIn xs ++ shownIn ys := by
  rw [shownIn, List.filter_append, List.flatMap_append]
  rfl

theorem shownIn_blanks (n : Nat) : shownIn (List.replicate n .blank) = List.replicate n ' ' := by
  have hblank : Cell.blank.shown.toList = [' '] := by decide
  rw [shownIn, List.filter_replicate_of_pos rfl, List.flatMap_replicate, hblank]
  exact List.flatten_replicate_singleton

theorem text_blank (cols : Nat) : (Line.blank cols).text = "" := by
  have hspaces : (Line.blank cols).fullText.toList = [] ++ List.replicate cols ' ' := by
    rw [toList_fullText]
    exact shownIn_blanks cols
  have htrimmed : Text.dropEndWhile (· == ' ') ([] ++ List.replicate cols ' ') = [] :=
    Text.dropEndWhile_append fun c hc => by rw [List.eq_of_mem_replicate hc]; rfl
  rw [Line.text, Text.trimSpaces, hspaces, htrimmed]

end Line

namespace Screen

variable {cols rows width height capacity : Nat} {s : Screen} {above : List Line} {line : Line}

/-- **Blank rows at the end do not count.** -/
theorem transcript_eq {lines : List Line} {n : Nat}
    (h : s.scrollback.lines ++ s.primary = lines ++ List.replicate n (.blank cols)) :
    s.transcript = Text.trimBlanks (String.join (lines.map fun l =>
      if l.wrapped then l.fullText else l.text ++ "\n")) := by
  have hnewline : (Line.blank cols).text ++ "\n" = "\n" := by
    rw [Line.text_blank, String.empty_append]
  have hblanks : ∀ c ∈ (List.replicate n "\n").flatMap String.toList, Text.isBlank c = true := by
    intro c hc
    obtain ⟨t, ht, hc⟩ := List.mem_flatMap.mp hc
    rw [List.eq_of_mem_replicate ht] at hc
    obtain rfl := List.mem_singleton.mp hc
    decide
  rw [transcript, h, List.map_append, List.map_replicate, String.join_append, Text.trimBlanks,
    String.toList_append]
  show String.ofList (Text.dropEndWhile _ (_ ++ (String.join (List.replicate n
    ((Line.blank cols).text ++ "\n"))).toList)) = _
  rw [hnewline, String.toList_join (l := List.replicate n "\n"), Text.dropEndWhile_append hblanks]
  rfl

/-! ## What a new size shows -/

/-- How many rows a new size brings to the scrollback. -/
def rowsAbove (s : Screen) (cols rows : Nat) : Nat :=
  let (lines, cursor) := reflow (max cols 1) (s.scrollback.lines ++ s.primary) s.trackedCursor?
  firstShown lines.length (max rows 1) cursor

/-- How many rows below the grid a new size drops. -/
def rowsDropped (s : Screen) (cols rows : Nat) : Nat :=
  let (lines, _) := reflow (max cols 1) (s.scrollback.lines ++ s.primary) s.trackedCursor?
  lines.length - (s.rowsAbove cols rows + max rows 1)

/-- A screen of the size that holds the rows `text`, and blank ones below, with the
cursor at `q` among them. -/
structure HoldsAt (width height capacity : Nat) (text : List Line) (q : Position) (s : Screen) :
    Prop where
  cols_eq : s.cols = width
  rows_eq : s.rows = height
  capacity_eq : s.scrollback.capacity = capacity
  onPrimary : s.onAlternate = false
  trackedCursor?_eq : s.trackedCursor? = some q
  exists_blanks : ∃ n, s.scrollback.lines ++ s.primary = text ++ List.replicate n (.blank width)

theorem rowsAbove_max_rows (s : Screen) (cols rows : Nat) :
    s.rowsAbove cols (max rows 1) = s.rowsAbove cols rows := by
  rw [rowsAbove, rowsAbove, Nat.max_assoc, Nat.max_self]

theorem rowsDropped_max_rows (s : Screen) (cols rows : Nat) :
    s.rowsDropped cols (max rows 1) = s.rowsDropped cols rows := by
  rw [rowsDropped, rowsDropped, rowsAbove_max_rows, Nat.max_assoc, Nat.max_self]

section Resized

variable {text : List Line} {q : Position}

theorem rowsAbove_eq (hwidth : 1 ≤ width) (hheight : 1 ≤ height)
    (h : reflow width (s.scrollback.lines ++ s.primary) s.trackedCursor? = (text, some q)) :
    s.rowsAbove width height = firstShown text.length height (some q) := by
  rw [rowsAbove, Nat.max_eq_left hwidth, Nat.max_eq_left hheight, h]

theorem rowsDropped_eq (hwidth : 1 ≤ width) (hheight : 1 ≤ height)
    (h : reflow width (s.scrollback.lines ++ s.primary) s.trackedCursor? = (text, some q)) :
    s.rowsDropped width height = text.length - (s.rowsAbove width height + height) := by
  rw [rowsDropped, Nat.max_eq_left hwidth, Nat.max_eq_left hheight, h]

/-- With the cursor in the last row, none is dropped. -/
theorem rowsDropped_last (hwidth : 1 ≤ width) (hheight : 1 ≤ height)
    (h : reflow width (s.scrollback.lines ++ s.primary) s.trackedCursor? = (text, some q))
    (hq : q.row + 1 = text.length) : s.rowsDropped width height = 0 := by
  rw [rowsDropped_eq hwidth hheight h, rowsAbove_eq hwidth hheight h, firstShown_last hq hheight]
  omega

/-- **A new size that loses no row** leaves the rows laid out anew. -/
theorem holdsAt_resize (hwidth : 1 ≤ width) (hheight : 1 ≤ height)
    (hsize : ¬ (width = s.cols ∧ height = s.rows)) (hon : s.onAlternate = false)
    (hreflow : reflow width (s.scrollback.lines ++ s.primary) s.trackedCursor? = (text, some q))
    (hq : q.row < text.length) (hcol : q.col < width)
    (hroom : s.rowsAbove width height ≤ s.scrollback.capacity)
    (hdropped : s.rowsDropped width height = 0) :
    (s.resize width height).HoldsAt width height s.scrollback.capacity text q := by
  have hfirst := (rowsAbove_eq hwidth hheight hreflow).symm
  rw [rowsDropped_eq hwidth hheight hreflow] at hdropped
  generalize s.rowsAbove width height = first at hroom hdropped hfirst
  have hle : first ≤ q.row ∧ q.row < first + height := by
    have hmin : min (text.length - height) q.row = first := hfirst
    omega
  have hlines : (s.scrollback.clear.pushAll (text.take first)).lines = text.take first := by
    refine Scrollback.lines_pushAll_of_le ?_
    show 0 + _ ≤ s.scrollback.capacity
    rw [List.length_take]
    omega
  have hshown : (text.drop first).length ≤ height := by
    rw [List.length_drop]
    omega
  rw [resize_eq hwidth hheight hsize hreflow hfirst,
    clamp_of_lt hcol (show q.row - first < height by omega)]
  refine ⟨rfl, rfl, Scrollback.capacity_pushAll _ _, hon, ?_, height - (text.drop first).length, ?_⟩
  · show (if s.onAlternate then none else some (Position.mk
      ((s.scrollback.clear.pushAll (text.take first)).lines.length + (q.row - first)) q.col
      q.pendingWrap)) = some q
    have hrow : min first text.length + (q.row - first) = q.row := by omega
    rw [hon, if_neg Bool.false_ne_true, hlines, List.length_take, hrow]
  · show (s.scrollback.clear.pushAll (text.take first)).lines ++ fitRows width height _ = _
    rw [hlines, fitRows, List.take_of_length_le hshown, ← List.append_assoc, List.take_append_drop]

end Resized

/-! ## There and back -/

/-- **What typing leaves are texts**, with the cursor in the last row of the last
one. -/
theorem Written.exists_texts (h : s.Written cols rows capacity above line) (hcols : 2 ≤ cols)
    (hfilled : (s.scrollback.lines ++ s.primary).IsChain (Line.Filled cols)) :
    ∃ ts t full last, s.history above line = Reflow.layTexts cols (ts ++ [t]) ∧
      (∀ u ∈ ts ++ [t], Reflow.Snug cols u) ∧ Reflow.cut cols [] t = full ++ [last] ∧
      line = { cells := Line.fit cols last } ∧
      (s.scrollback.lines ++ above).length = (Reflow.layTexts cols ts).length + full.length := by
  have hall : s.history above line = (s.scrollback.lines ++ above) ++ [line] := by
    rw [history, List.append_assoc]
  have hmem : ∀ l ∈ s.history above line, l ∈ s.scrollback.lines ∨ l ∈ s.primary := by
    intro l hl
    rw [← List.mem_append, h.shows.rows_eq]
    exact List.mem_append_left _ hl
  have htidy : ∀ l ∈ s.history above line, Tidy l.cells := fun l hl =>
    (hmem l hl).elim (h.tidy.scrollback l) (h.tidy.primary l)
  have hlen : ∀ l ∈ s.history above line, l.cells.length = cols := fun l hl => by
    rw [← h.ready.cols_eq]
    exact (hmem l hl).elim (h.wellFormed.scrollback l) (h.wellFormed.primary.length_cells l)
  rw [h.shows.rows_eq] at hfilled
  obtain ⟨first, others, htexts, hsnug⟩ := Reflow.exists_texts hcols (by simp [history]) htidy hlen
    hfilled.left_of_append (h.chain_history h.follows) fun l hl => by
      rw [hall, List.getLast?_concat] at hl
      rw [← Option.some.inj hl]
      exact h.ended
  -- the last text ends in the row of the cursor
  obtain ⟨ts, t, hsplit⟩ : ∃ ts t, first :: others = ts ++ [t] :=
    ⟨_, _, (List.dropLast_concat_getLast (List.cons_ne_nil first others)).symm⟩
  rw [hsplit] at htexts hsnug
  obtain ⟨full, last, hcut⟩ := Reflow.exists_cut_concat cols [] t
  have hends := hall.symm.trans htexts
  rw [Reflow.layTexts_append, Reflow.layTexts_singleton, Reflow.layText_eq hcut,
    ← List.append_assoc] at hends
  obtain ⟨habove, hline⟩ := List.append_inj' hends rfl
  refine ⟨ts, t, full, last, htexts, hsnug, hcut, (List.cons.inj hline).1, ?_⟩
  rw [habove, List.length_append, List.length_map]

/-- A row that shows has cells, and the first of them is no tail. -/
theorem Written.cells_of_shown (h : s.Written cols rows capacity above line) {last : List Cell}
    (hline : line = { cells := Line.fit cols last }) (hlen : last.length ≤ cols)
    (hshown : line.isBlank = false) : last ≠ [] ∧ Reflow.startsWithTail last = false := by
  have hlast : last ≠ [] := by
    rintro rfl
    rw [hline, ← Line.blank_eq, Reflow.isBlank_blank] at hshown
    cases hshown
  refine ⟨hlast, ?_⟩
  have htidy := h.tidy_cells.start
  rw [hline, Line.fit_eq hlen] at htidy
  obtain ⟨c, cells, rfl⟩ := List.exists_cons_of_ne_nil hlast
  exact htidy

/-- **Texts that keep their rows at another size get them back.** -/
theorem HoldsAt.transcript_there_and_back {ts : List (List Cell)} {t last : List Cell}
    {full : List (List Cell)} {p : Position}
    (h : s.HoldsAt cols rows capacity (Reflow.layTexts cols (ts ++ [t])) p)
    (hcols : 2 ≤ cols) (hrows : 1 ≤ rows) (hwidth : 2 ≤ width) (hheight : 1 ≤ height)
    (hsize : ¬ (width = cols ∧ height = rows)) (hts : ∀ u ∈ ts ++ [t], Reflow.Snug cols u)
    (hts' : ∀ u ∈ ts ++ [t], Reflow.Snug width u) (hcut : Reflow.cut cols [] t = full ++ [last])
    (hlast : last ≠ []) (hstart : Reflow.startsWithTail last = false)
    (hrow : p.row = (Reflow.layTexts cols ts).length + full.length)
    (hdropped : s.rowsDropped width height = 0) (hroom : s.rowsAbove width height ≤ capacity)
    (hback : (s.resize width height).rowsAbove cols rows ≤ capacity) :
    ((s.resize width height).resize cols rows).transcript = s.transcript := by
  obtain ⟨blanks, hall⟩ := h.exists_blanks
  obtain ⟨q, haway, hcol, hreturn⟩ :=
    Reflow.exists_reflow_reflow hcols hwidth hts hts' hcut hlast hstart hrow blanks
  rw [← hall, ← h.trackedCursor?_eq] at haway
  have hthere := holdsAt_resize (by omega) hheight (by rwa [h.cols_eq, h.rows_eq]) h.onPrimary haway
    (Reflow.lt_length_reach _ _) hcol (by rwa [h.capacity_eq]) hdropped
  rw [h.capacity_eq] at hthere
  generalize s.resize width height = away at hthere hback
  obtain ⟨more, hrows'⟩ := hthere.exists_blanks
  obtain ⟨r, hlaid, hcol', hbelow⟩ := hreturn more
  rw [← hrows', ← hthere.trackedCursor?_eq] at hlaid
  have hlength : (Reflow.reach cols r.row _).length = r.row + 1 := Reflow.length_reach hbelow
  have hagain := holdsAt_resize (by omega) hrows (fun hsame => hsize ?_) hthere.onPrimary hlaid
    (Reflow.lt_length_reach _ _) hcol' (by rwa [hthere.capacity_eq])
    (rowsDropped_last (by omega) hrows hlaid hlength.symm)
  · obtain ⟨others, hsame⟩ := hagain.exists_blanks
    rw [Reflow.reach, List.append_assoc, List.replicate_append_replicate] at hsame
    rw [transcript_eq hsame, transcript_eq hall]
  · rw [hthere.cols_eq, hthere.rows_eq] at hsame
    exact ⟨hsame.1.symm, hsame.2.symm⟩

theorem Written.holdsAt (h : s.Written cols rows capacity above line) :
    s.HoldsAt cols rows capacity (s.history above line)
      ⟨(s.scrollback.lines ++ above).length, s.cursor.col, s.cursor.pendingWrap⟩ where
  cols_eq := h.ready.cols_eq
  rows_eq := h.ready.rows_eq
  capacity_eq := h.ready.capacity_eq
  onPrimary := h.ready.onPrimary
  trackedCursor?_eq := by
    rw [trackedCursor?, h.ready.onPrimary, if_neg Bool.false_ne_true, h.shows.row_eq,
      List.length_append]
  exists_blanks := ⟨_, by rw [← h.ready.cols_eq]; exact h.shows.rows_eq⟩

/-- **Another size and back leaves the text as it was**, for what is typed on a new
screen with the cursor in a row that shows, as long as the scrollback has room, no
row below the cursor is dropped, and no row that runs on ends in cells that nothing
was printed in, at either width. -/
theorem transcript_resize_resize (hcols : 2 ≤ cols) (hwidth : 2 ≤ width) (rows height : Nat)
    {ops : List Operation} (hops : ∀ op ∈ ops, op.isTyping = true)
    (hs : (initial cols rows capacity).performAll ops = s)
    (hshown : (s.line? s.cursor.row).any (!·.isBlank) = true)
    (hfilled : (s.scrollback.lines ++ s.primary).IsChain (Line.Filled cols))
    (hsnug : ∀ t ∈ Reflow.texts (s.scrollback.lines ++ s.primary), Reflow.Snug width t)
    (hdropped : s.rowsDropped width height = 0) (hroom : s.rowsAbove width height ≤ capacity)
    (hback : (s.resize width height).rowsAbove cols rows ≤ capacity) :
    ((s.resize width height).resize cols rows).transcript = s.transcript := by
  have hinitial : initial cols (max rows 1) capacity = initial cols rows capacity := by
    rw [initial, initial, Nat.max_assoc, Nat.max_self]
  obtain ⟨above, line, h⟩ :=
    exists_written_performAll hcols (Nat.le_max_right rows 1) capacity hops
  rw [hinitial, hs] at h
  rw [← resize_max_rows s width height] at hback ⊢
  rw [← resize_max_rows _ cols rows]
  by_cases hsize : width = cols ∧ max height 1 = max rows 1
  · -- the size that it has leaves the screen alone
    have hself := resize_self h.wellFormed
    rw [h.ready.cols_eq, h.ready.rows_eq] at hself
    rw [hsize.1, hsize.2, hself, hself]
  · obtain ⟨ts, t, full, last, htexts, hts, hcut, hline, habove⟩ := h.exists_texts hcols hfilled
    have hholds := h.holdsAt
    obtain ⟨blanks, hall⟩ := hholds.exists_blanks
    rw [htexts] at hholds hall
    rw [h.shows.line?_eq h.ready, Option.any_some, Bool.not_eq_true'] at hshown
    obtain ⟨-, hlen, -⟩ := (hts t (List.mem_append_right _ List.mem_cons_self)).rows hcols hcut
    obtain ⟨hlast, hstart⟩ := h.cells_of_shown hline hlen hshown
    have hwide : ∀ u ∈ ts ++ [t], Reflow.Snug width u := fun u hu => hsnug u (by
      rw [hall, Reflow.texts_layTexts hcols hts]
      exact List.mem_append_left _ hu)
    exact hholds.transcript_there_and_back hcols (Nat.le_max_right rows 1) hwidth
      (Nat.le_max_right height 1) hsize hts hwide hcut hlast hstart habove
      (by rwa [rowsDropped_max_rows]) (by rwa [rowsAbove_max_rows]) (by rwa [rowsAbove_max_rows])

/-- On five columns the wide character ends the row, with a gap in front of the `b`; on
three it begins a row of its own. -/
theorem transcript_resize_resize_gap :
    let ops : List Operation := [.print 'x', .tabForward 1, .carriageReturn, .linefeed, .print 'a',
      .forward 1, .print 'b', .print '世', .print 'c']
    let s := (initial 5 2 3).performAll ops
    (∀ op ∈ ops, op.isTyping = true) ∧ (s.line? s.cursor.row).any (!·.isBlank) = true ∧
      (s.scrollback.lines ++ s.primary).IsChain (Line.Filled 5) ∧
      (∀ t ∈ Reflow.texts (s.scrollback.lines ++ s.primary), Reflow.Snug 3 t) ∧
      s.rowsDropped 3 2 = 0 ∧ s.rowsAbove 3 2 = 1 ∧ (s.resize 3 2).rowsAbove 5 2 = 1 ∧
      ((s.resize 3 2).resize 5 2).transcript = s.transcript ∧ s.transcript = "x\na b世c" := by
  intro ops s
  have hops : ∀ op ∈ ops, op.isTyping = true := by decide +kernel
  have hshown : (s.line? s.cursor.row).any (!·.isBlank) = true := by decide +kernel
  have hfilled : (s.scrollback.lines ++ s.primary).IsChain (Line.Filled 5) := by decide +kernel
  have hsnug : ∀ t ∈ Reflow.texts (s.scrollback.lines ++ s.primary), Reflow.Snug 3 t := by
    decide +kernel
  have hdropped : s.rowsDropped 3 2 = 0 := by decide +kernel
  have hroom : s.rowsAbove 3 2 = 1 := by decide +kernel
  have hback : (s.resize 3 2).rowsAbove 5 2 = 1 := by decide +kernel
  exact ⟨hops, hshown, hfilled, hsnug, hdropped, hroom, hback,
    transcript_resize_resize (by decide) (by decide) 2 2 hops rfl hshown hfilled hsnug hdropped
      (Nat.le_trans (Nat.le_of_eq hroom) (by decide))
      (Nat.le_trans (Nat.le_of_eq hback) (by decide)),
    by decide +kernel⟩

/-- Each of the three conditions is needed, for the rest holds of all three screens. A
return puts the cursor above rows that three columns have no room for. A gap comes
to stand at the end of a row of three. And a wide character printed behind a gap
leaves a row with nothing in it. -/
theorem resize_resize_loses_text :
    let returned : List Operation := "abcdef".toList.map .print ++ [.carriageReturn]
    let gap : List Operation := [.print 'a', .print 'b', .forward 2, .print 'c']
    let jump : List Operation := [.forward 3, .print '世']
    let s₁ := (initial 6 1 10).performAll returned
    let s₂ := (initial 6 2 10).performAll gap
    let s₃ := (initial 4 2 10).performAll jump
    (∀ op ∈ returned ++ gap ++ jump, op.isTyping = true) ∧
      (∀ s ∈ [s₁, s₂, s₃], (s.line? s.cursor.row).any (!·.isBlank) = true ∧
        s.rowsAbove 3 1 ≤ 10 ∧ (s.resize 3 1).rowsAbove s.cols s.rows ≤ 10) ∧
      (s₁.transcript = "abcdef" ∧ ((s₁.resize 3 1).resize 6 1).transcript = "abc") ∧
      (s₂.transcript = "ab  c" ∧ ((s₂.resize 3 1).resize 6 2).transcript = "ab c") ∧
      s₃.transcript = "    世" ∧ ((s₃.resize 3 1).resize 4 2).transcript = "世" := by
  decide +kernel

end Screen

end Teletype

import Teletype.Proofs.Reflow.Ends
import Teletype.Proofs.Screen.Rewrap

/-!
# A text at a new size

A line that was typed at one size is shown at another with the cursor at the place
that `Reflow.placeIn` gives its old one (`Typing.exists_resized`). That is right
behind the line, as if it had been typed there, with one exception
(`Typing.resized_cases`). A cursor that waits with a wrap pending is on the last
cell written and is moved one column on behind the place where that cell comes to
stand. If the cell is the right half of a character, that place is the left half,
and the cursor is left on the right one (`Stranded`).
-/

namespace Teletype.Screen

variable {cols rows width height capacity : Nat} {s : Screen} {above : List Line} {line : Line}
variable {row : List Cell} {ch : Char} {pen : Pen}

/-! ## What a new size shows -/

/-- Whether a wrap is pending behind a character of two columns. -/
def waitsOnTail (s : Screen) : Bool :=
  s.cursor.pendingWrap && (s.cell? s.cursor.col s.cursor.row).any (·.tail)

/-- The cursor is on the right half of the last character, with no wrap pending. -/
structure Stranded (cols rows capacity : Nat) (above : List Line) (pre : List Cell)
    (p : Char × Pen) (s : Screen) : Prop where
  ready : s.Ready cols rows capacity
  shows : s.Shows above { cells := Line.fit cols (pre ++ glyph p.1 p.2) }
  wide : Text.charWidth p.1 = 2
  length_le : pre.length + 2 ≤ cols
  col_eq : s.cursor.col = pre.length + 1
  pendingWrap_eq : s.cursor.pendingWrap = false

/-- A screen that holds a text shows its last row, with the cursor in it. -/
theorem Holds.exists_shows {lines : List Line} (h : s.Holds cols rows (lines ++ [line]))
    (hc : s.cols = cols) (hr : s.rows = rows) (hrows : 1 ≤ rows)
    (hrow : s.cursor.row = lines.length - (lines.length + 1 - rows)) :
    ∃ above, s.Shows above line ∧ s.scrollback.lines ++ above = lines := by
  have hlen : (lines ++ [line]).length = lines.length + 1 := List.length_append
  have hdrop : lines.length + 1 - rows ≤ lines.length := by omega
  have hlines := h.lines_eq
  have hprimary := h.primary_eq
  rw [hlen, List.take_append_of_le_length hdrop] at hlines
  rw [hlen, List.drop_append_of_le_length hdrop] at hprimary
  have habove : (lines.drop (lines.length + 1 - rows)).length =
      lines.length - (lines.length + 1 - rows) := List.length_drop
  have hshown : (lines.drop (lines.length + 1 - rows) ++ [line]).length =
      (lines.drop (lines.length + 1 - rows)).length + 1 := List.length_append
  refine ⟨lines.drop (lines.length + 1 - rows), ⟨?_, ?_, ?_, ?_⟩, ?_⟩
  · rw [hprimary, fitRows, hshown, List.take_of_length_le (by omega), hc, hr, List.append_assoc]
    rfl
  · rw [hrow, habove]
  · omega
  · rw [hlines]
    by_cases hfits : lines.length + 1 ≤ rows
    · left
      rw [Nat.sub_eq_zero_of_le hfits, List.take_zero]
    · right
      omega
  · rw [hlines, List.take_append_drop]

/-! ## Where the cursor comes to stand -/

section Spot

variable {text front : TextLine} {p : Char × Pen} {full full' : List (List Cell)} {last : List Cell}

/-- Right behind a text is behind its last row. -/
theorem placeIn_end (hwidth : 2 ≤ width)
    (hcut : Reflow.cut width [] (cellsOf text) = full ++ [last]) :
    Reflow.placeIn width false (cellsOf text) (cellsOf text).length =
      ⟨full.length, min last.length (width - 1), decide (last.length = width)⟩ := by
  obtain ⟨-, hlen, -⟩ := (snug_cellsOf width _).rows hwidth hcut
  have hplace := Reflow.locate_end 0 hwidth hcut hlen
  rw [List.length_nil, Nat.zero_add] at hplace
  rw [Reflow.placeIn, hplace]
  by_cases hfull : last.length = width
  · rw [if_pos hfull, decide_eq_true hfull, hfull, Nat.min_eq_right (by omega)]
    rfl
  · rw [if_neg hfull, decide_eq_false hfull, Nat.min_eq_left (by omega)]
    rfl

/-- A row that a text ends in ends with its last character. -/
theorem exists_last_eq (hwidth : 2 ≤ width) (hp : Text.charWidth p.1 = 1 ∨ Text.charWidth p.1 = 2)
    (hcut : Reflow.cut width [] (cellsOf (front ++ [p])) = full ++ [last]) :
    (∃ pre, last = pre ++ glyph p.1 p.2) ∧ ∀ off < (glyph p.1 p.2).length,
      Reflow.locate width 0 0 (cellsOf (front ++ [p])) ((cellsOf front).length + off) =
        ⟨full.length, last.length - (glyph p.1 p.2).length, false⟩ := by
  have hone : cellsOf [p] = glyph p.1 p.2 := List.flatMap_singleton _ _
  rw [cellsOf_append, hone] at hcut ⊢
  have hg := isGroup_glyph hp p.2 []
  have hlast : ∀ off < (glyph p.1 p.2).length, _ := fun off hoff =>
    Reflow.locate_last 0 hwidth hg rfl hcut hoff
  have hpos := hg.length_pos
  refine ⟨(hlast 0 hpos).1, fun off hoff => ?_⟩
  rw [← Nat.zero_add full.length]
  exact (hlast off hoff).2

/-- From the last cell of a text on, if its character is alone there, a pending wrap
goes with the end of the text. -/
theorem placeIn_last (hwidth : 2 ≤ width) (hp : Text.charWidth p.1 = 1)
    (hcut : Reflow.cut width [] (cellsOf (front ++ [p])) = full ++ [last]) :
    Reflow.placeIn width true (cellsOf (front ++ [p])) (cellsOf front).length =
      ⟨full.length, min last.length (width - 1), decide (last.length = width)⟩ := by
  obtain ⟨-, hlen, -⟩ := (snug_cellsOf width _).rows hwidth hcut
  obtain ⟨⟨pre, hpre⟩, hplace⟩ := exists_last_eq hwidth (.inl hp) hcut
  have hglyph := length_glyph (.inl hp) p.2
  have hspot := hplace 0 (by omega)
  rw [Nat.add_zero, hglyph, hp] at hspot
  have hcount : last.length = pre.length + 1 := by
    rw [hpre, List.length_append, hglyph, hp]
  rw [Reflow.placeIn, hspot, Reflow.keepBehind, if_neg Bool.false_ne_true]
  by_cases hroom : last.length < width
  · rw [if_pos (by simp; omega), decide_eq_false (by omega), Nat.min_eq_left (by omega)]
    congr 1
    show last.length - 1 + 1 = _
    omega
  · rw [if_neg (by simp; omega), decide_eq_true (by omega), Nat.min_eq_right (by omega)]
    congr 1
    show last.length - 1 = _
    omega

/-- From the right half of the last character, the cursor comes to stand on the right
half again. -/
theorem exists_placeIn_tail (hwidth : 2 ≤ width) (hp : Text.charWidth p.1 = 2)
    (hcut : Reflow.cut width [] (cellsOf (front ++ [p])) = full ++ [last]) :
    ∃ pre, last = pre ++ glyph p.1 p.2 ∧
      Reflow.placeIn width true (cellsOf (front ++ [p])) ((cellsOf front).length + 1) =
        ⟨full.length, pre.length + 1, false⟩ := by
  obtain ⟨-, hlen, -⟩ := (snug_cellsOf width _).rows hwidth hcut
  obtain ⟨⟨pre, hpre⟩, hplace⟩ := exists_last_eq hwidth (.inr hp) hcut
  have hglyph := length_glyph (.inr hp) p.2
  have hspot := hplace 1 (by omega)
  have hcount : last.length = pre.length + 2 := by
    rw [hpre, List.length_append, hglyph, hp]
  rw [hglyph, hp, hcount, Nat.add_sub_cancel] at hspot
  refine ⟨pre, hpre, ?_⟩
  rw [Reflow.placeIn, hspot, Reflow.keepBehind, if_neg Bool.false_ne_true, if_pos]
  simp only [Bool.true_and, decide_eq_true_eq]
  omega

/-- A row that a text fills ends with the last character of the text. -/
theorem exists_last_of_full (hcols : 2 ≤ cols) (htakes : TakesColumns text)
    (hcut : Reflow.cut cols [] (cellsOf text) = full ++ [row]) (hfull : row.length = cols) :
    ∃ front p pre, text = front ++ [p] ∧ (Text.charWidth p.1 = 1 ∨ Text.charWidth p.1 = 2) ∧
      row = pre ++ glyph p.1 p.2 ∧
      full.flatten.length + cols = (cellsOf front).length + Text.charWidth p.1 := by
  obtain ⟨hcells, -, -⟩ := (snug_cellsOf cols _).rows hcols hcut
  have hlen := congrArg List.length hcells
  rw [List.length_append, hfull] at hlen
  rcases List.eq_nil_or_concat text with rfl | ⟨front, p, rfl⟩
  · have hnone : full.flatten.length + cols = 0 := hlen
    omega
  rw [List.concat_eq_append] at *
  have hp := htakes p (List.mem_append_right _ List.mem_cons_self)
  obtain ⟨⟨pre, hpre⟩, -⟩ := exists_last_eq hcols hp hcut
  rw [cellsOf_append, List.length_append, show cellsOf [p] = glyph p.1 p.2 from
    List.flatMap_singleton _ _, length_glyph hp p.2] at hlen
  exact ⟨front, p, pre, rfl, hp, hpre, hlen⟩

/-- What ends with a character ends with a right half exactly if it takes two columns. -/
theorem any_tail_getLast? (h : Text.charWidth ch = 1 ∨ Text.charWidth ch = 2) (pre : List Cell) :
    (pre ++ glyph ch pen).getLast?.any (·.tail) = true ↔ Text.charWidth ch = 2 := by
  rcases h with h | h
  · rw [glyph, if_neg (by omega), List.getLast?_concat]
    exact iff_of_false Bool.false_ne_true (by omega)
  · rw [glyph, if_pos h, List.getLast?_append]
    exact iff_of_true rfl h

end Spot

/-! ## A new size -/

section NewSize

variable {text : TextLine} {full full' : List (List Cell)} {last : List Cell}
variable (h : s.Typing cols rows capacity above row) (hcols : 2 ≤ cols) (hwidth : 2 ≤ width)
variable (hheight : 1 ≤ height) (hsize : ¬ (width = cols ∧ height = rows))
variable (hcut : Reflow.cut cols [] (cellsOf text) = full ++ [row])
variable (hcut' : Reflow.cut width [] (cellsOf text) = full' ++ [last])
variable (htext : s.history above { cells := Line.fit cols row } = layLine cols text)
variable (hnew : (layLine width text).length ≤ capacity + height)

include h hcols

/-- A wrap waits behind a character of two columns exactly if the row is full and
ends with one. -/
theorem Typing.waitsOnTail_iff :
    s.waitsOnTail = true ↔ row.length = cols ∧ row.getLast?.any (·.tail) = true := by
  have hle := h.length_le
  have hcol := h.col_eq
  rw [waitsOnTail, h.pendingWrap_eq, Bool.and_eq_true, decide_eq_true_eq]
  refine and_congr_right fun hfull => ?_
  have hcell : s.cell? s.cursor.col s.cursor.row = row.getLast? := by
    rw [cell?, h.shows.line?_eq h.ready, Option.bind_some, Line.fit_eq hle, hfull, Nat.sub_self,
      List.replicate_zero, List.append_nil, List.getLast?_eq_getElem?, hcol, hfull,
      Nat.min_eq_right (by omega)]
  rw [hcell]

include hwidth hheight hsize hcut hcut' htext hnew

/-- **A text typed at one size is shown at another as if it had been typed there**,
but for the column of the cursor, which is that of its place in the line. -/
theorem Typing.exists_resized {spot : Position}
    (hspot : Reflow.placeIn width s.cursor.pendingWrap (cellsOf text)
      (full.flatten.length + s.cursor.col) = spot) (hcol : spot.col < width) :
    ∃ above', (s.resize width height).Ready width height capacity ∧
      (s.resize width height).Shows above' { cells := Line.fit width last } ∧
      (s.resize width height).history above' { cells := Line.fit width last } =
        layLine width text ∧
      (s.resize width height).cursor.col = spot.col ∧
      (s.resize width height).cursor.pendingWrap = spot.pendingWrap := by
  rw [← layLines_singleton, ← List.nil_append [text]] at htext
  obtain ⟨q, hreflow, hq, hqcol, hqpending⟩ := h.exists_reflow_eq hcols hwidth hcut htext
  rw [List.nil_append, layLines_singleton] at hreflow hq
  rw [hspot] at hqcol hqpending
  have hdiffers : ¬ (width = s.cols ∧ height = s.rows) := by
    rw [h.ready.cols_eq, h.ready.rows_eq]
    exact hsize
  have hholds := holds_resize (by omega) hheight hdiffers hreflow hq
    (by rw [h.ready.capacity_eq]; exact hnew)
  have hresized := resize_eq (by omega) hheight hdiffers hreflow (firstShown_last hq hheight)
  rw [clamp_of_lt (by rw [← hqcol] at hcol; exact hcol) (show q.row - _ < height by omega)]
    at hresized
  have hlines : layLine width text =
      full'.map (fullRow width) ++ [{ cells := Line.fit width last }] := by
    rw [layLine, hcut', Reflow.asLines_concat]
  rw [hlines] at hholds hq hresized ⊢
  have hlen : (full'.map (fullRow width) ++ [Line.mk (Line.fit width last) false]).length =
      (full'.map (fullRow width)).length + 1 := List.length_append
  have hcursor : (s.resize width height).cursor.row = (full'.map (fullRow width)).length -
      ((full'.map (fullRow width)).length + 1 - height) := by
    rw [hresized]
    show q.row - _ = _
    omega
  obtain ⟨above', hshows, habove⟩ :=
    hholds.exists_shows (by rw [hresized]) (by rw [hresized]) hheight hcursor
  refine ⟨above', ?_, hshows, ?_, ?_, ?_⟩
  · rw [hresized]
    exact {
      cols_eq := rfl
      rows_eq := rfl
      capacity_eq := (Scrollback.capacity_pushAll _ _).trans h.ready.capacity_eq
      onPrimary := h.ready.onPrimary
      top_eq := rfl
      bottom_eq := Nat.sub_add_cancel hheight
      autowrap := h.ready.autowrap
      insertMode := h.ready.insertMode
      linefeedMode := h.ready.linefeedMode }
  · rw [history, ← List.append_assoc, habove]
  · rw [hresized]
    exact hqcol
  · rw [hresized]
    exact hqpending

/-- With the cursor behind the text, it is as if the text had been typed there. -/
theorem Typing.exists_resized_typing
    (hspot : Reflow.placeIn width s.cursor.pendingWrap (cellsOf text)
      (full.flatten.length + s.cursor.col) =
        ⟨full'.length, min last.length (width - 1), decide (last.length = width)⟩) :
    ∃ above', (s.resize width height).history above' { cells := Line.fit width last } =
        layLine width text ∧
      (s.resize width height).Typing width height capacity above' last := by
  obtain ⟨-, hle, -⟩ := (snug_cellsOf width _).rows hwidth hcut'
  obtain ⟨above', hready, hshows, hhistory, hcol, hpending⟩ :=
    h.exists_resized hcols hwidth hheight hsize hcut hcut' htext hnew hspot
      (show min last.length (width - 1) < width by omega)
  exact ⟨above', hhistory, hready, hshows, hle, hcol, hpending⟩

/-- **Brought to a new size, a text is as if it had been typed there**, unless a wrap
is pending behind a character of two columns; then the cursor is left on its
right half. -/
theorem Typing.resized_cases (htakes : TakesColumns text) :
    ∃ above', (s.resize width height).history above' { cells := Line.fit width last } =
        layLine width text ∧
      ((s.waitsOnTail = false ∧
          (s.resize width height).Typing width height capacity above' last) ∨
        (s.waitsOnTail = true ∧ ∃ front p pre, text = front ++ [p] ∧
          last = pre ++ glyph p.1 p.2 ∧
          (s.resize width height).Stranded width height capacity above' pre p)) := by
  have hcol := h.col_eq
  have hpending := h.pendingWrap_eq
  have hwaits := h.waitsOnTail_iff hcols
  by_cases hfull : row.length = cols
  · obtain ⟨front, p, pre, rfl, hp, rfl, hlen⟩ := exists_last_of_full hcols htakes hcut hfull
    rw [decide_eq_true hfull] at hpending
    rw [any_tail_getLast? hp] at hwaits
    rcases hp with hp | hp
    · have hstays : s.waitsOnTail = false := by
        rw [← Bool.not_eq_true, hwaits]
        omega
      have htarget : full.flatten.length + s.cursor.col = (cellsOf front).length := by omega
      obtain ⟨above', hhistory, htyping⟩ :=
        h.exists_resized_typing hcols hwidth hheight hsize hcut hcut' htext hnew
          (by rw [hpending, htarget, placeIn_last hwidth hp hcut'])
      exact ⟨above', hhistory, .inl ⟨hstays, htyping⟩⟩
    · obtain ⟨pre', rfl, hspot⟩ := exists_placeIn_tail hwidth hp hcut'
      obtain ⟨-, hle, -⟩ := (snug_cellsOf width _).rows hwidth hcut'
      rw [List.length_append, length_glyph (.inr hp), hp] at hle
      have htarget : full.flatten.length + s.cursor.col = (cellsOf front).length + 1 := by omega
      rw [← htarget, ← hpending] at hspot
      obtain ⟨above', hready, hshows, hhistory, hcol', hpending'⟩ :=
        h.exists_resized hcols hwidth hheight hsize hcut hcut' htext hnew hspot
          (show pre'.length + 1 < width by omega)
      exact ⟨above', hhistory, .inr ⟨hwaits.mpr ⟨hfull, hp⟩, front, p, pre', rfl, rfl,
        hready, hshows, hp, hle, hcol', hpending'⟩⟩
  · have hstays : s.waitsOnTail = false := by
      rw [← Bool.not_eq_true, hwaits]
      exact fun hboth => hfull hboth.1
    obtain ⟨hcells, hle, -⟩ := (snug_cellsOf cols _).rows hcols hcut
    have hlen := congrArg List.length hcells
    rw [List.length_append] at hlen
    have htarget : full.flatten.length + s.cursor.col = (cellsOf text).length := by omega
    obtain ⟨above', hhistory, htyping⟩ :=
      h.exists_resized_typing hcols hwidth hheight hsize hcut hcut' htext hnew
        (by rw [hpending, decide_eq_false hfull, htarget, placeIn_end hwidth hcut'])
    exact ⟨above', hhistory, .inl ⟨hstays, htyping⟩⟩

end NewSize

end Teletype.Screen

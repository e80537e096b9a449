import Mathlib.Data.List.Basic
import Teletype.Proofs.Screen.Resumed
import Teletype.Proofs.Screen.RoundTrip

/-!
# What the transcript shows of a text

A text printed on a new screen comes to stand in rows that run on into each other,
and the transcript joins them again. It takes over every column of a row that runs
on. So a column that a wide character left free, because it had no room there, is
read as a space (`Text.spaced`), and the text is read as it was printed just if no
wide character meets a single free column (`transcript_printAll_iff`).
-/

namespace Teletype

namespace Text

/-- The characters as they are read on rows of `cols` columns, from behind the first
`used` ones: with a space for each column that is left free at the end of a row. -/
def spaced (cols used : Nat) : List Char → List Char
  | [] => []
  | c :: rest =>
    if cols < used + charWidth c then
      List.replicate (cols - used) ' ' ++ c :: spaced cols (charWidth c) rest
    else c :: spaced cols (used + charWidth c) rest

/-- Whether a row ends with a column left free. -/
def leavesGap (cols used : Nat) : List Char → Bool
  | [] => false
  | c :: rest =>
    if cols < used + charWidth c then used < cols || leavesGap cols (charWidth c) rest
    else leavesGap cols (used + charWidth c) rest

variable {cols used : Nat} {text : List Char} {c : Char}

theorem length_le_spaced (cols used : Nat) (text : List Char) :
    text.length ≤ (spaced cols used text).length := by
  induction text generalizing used with
  | nil => exact Nat.le_refl 0
  | cons c rest ih =>
    rw [spaced]
    split
    · have hrest := ih (charWidth c)
      rw [List.length_append, List.length_cons, List.length_cons]
      omega
    · have hrest := ih (used + charWidth c)
      rw [List.length_cons, List.length_cons]
      omega

/-- **Nothing is added just if there is no gap.** -/
theorem spaced_eq_self_iff (cols used : Nat) (text : List Char) :
    spaced cols used text = text ↔ leavesGap cols used text = false := by
  induction text generalizing used with
  | nil => exact iff_of_true rfl rfl
  | cons c rest ih =>
    rw [spaced, leavesGap]
    split
    next hfull =>
      by_cases hgap : used < cols
      · -- with a space put in, the text is longer
        have hlen := length_le_spaced cols (charWidth c) rest
        rw [decide_eq_true hgap, Bool.true_or]
        refine iff_of_false (fun h => ?_) Bool.noConfusion
        have hsame := congrArg List.length h
        rw [List.length_append, List.length_replicate, List.length_cons, List.length_cons] at hsame
        omega
      · have hnone : cols - used = 0 := by omega
        rw [decide_eq_false hgap, Bool.false_or, hnone, List.replicate_zero, List.nil_append,
          List.cons_inj_right]
        exact ih _
    next hroom =>
      rw [List.cons_inj_right]
      exact ih _

/-- The last character stays the last one. -/
theorem getLast?_spaced (cols used : Nat) (text : List Char) :
    (spaced cols used text).getLast? = text.getLast? := by
  induction text generalizing used with
  | nil => rfl
  | cons c rest ih =>
    rw [spaced]
    split
    · rw [List.getLast?_append, List.getLast?_cons, ih, List.getLast?_cons, Option.some_or]
    · rw [List.getLast?_cons, ih, List.getLast?_cons]

end Text

theorem Line.shownIn_glyph (c : Char) (pen : Pen) : shownIn (glyph c pen) = [c] := by
  have hshown : (Cell.written c pen).shown = String.singleton c := by
    simp [Cell.shown, Cell.written]
  have hhead : (Cell.written c pen).shown.toList = [c] := by
    rw [hshown, String.toList_singleton]
  rw [glyph, shownIn, List.filter_cons_of_pos rfl, List.flatMap_cons, hhead]
  split
  · rfl
  · rfl

namespace Screen

variable {cols rows capacity : Nat} {s : Screen} {row : List Cell} {line : TextLine}

/-- What the transcript takes over from rows. -/
def joined (lines : List Line) : List Char :=
  lines.flatMap fun l => if l.wrapped then l.fullText.toList else l.text.toList ++ ['\n']

theorem toList_join_eq_joined (lines : List Line) :
    (String.join (lines.map fun l => if l.wrapped then l.fullText else l.text ++ "\n")).toList =
      joined lines := by
  rw [String.toList_join, List.flatMap_map]
  refine congrArg (fun f => lines.flatMap f) (funext fun l => ?_)
  split
  · rfl
  · exact String.toList_append

/-- A last row is read without the blanks at its end. -/
theorem dropEndWhile_joined_last (hlen : row.length ≤ cols) :
    Text.dropEndWhile Text.isBlank (joined [{ cells := Line.fit cols row }]) =
      Text.dropEndWhile Text.isBlank (Line.shownIn row) := by
  let l : Line := { cells := Line.fit cols row }
  have hfull : l.fullText.toList = Line.shownIn row ++ List.replicate (cols - row.length) ' ' := by
    rw [Line.toList_fullText]
    show Line.shownIn (Line.fit cols row) = _
    rw [Line.fit_eq hlen, Line.shownIn_append, Line.shownIn_blanks]
  have htext : l.text.toList = Text.dropEndWhile (· == ' ') l.fullText.toList :=
    String.toList_ofList
  have hspace : ∀ c, (c == ' ') = true → Text.isBlank c = true := fun c hc => by
    rw [eq_of_beq hc]
    rfl
  obtain ⟨dropped, hsplit, hdropped⟩ :=
    Text.exists_dropEndWhile_append (· == ' ') l.fullText.toList
  calc Text.dropEndWhile Text.isBlank (joined [l])
      = Text.dropEndWhile Text.isBlank (l.text.toList ++ ['\n']) := by
        rw [joined, List.flatMap_singleton]
        rfl
    _ = Text.dropEndWhile Text.isBlank l.text.toList :=
        Text.dropEndWhile_append fun c hc => by rw [List.mem_singleton.mp hc]; rfl
    _ = Text.dropEndWhile Text.isBlank (l.text.toList ++ dropped) :=
        (Text.dropEndWhile_append fun c hc => hspace c (hdropped c hc)).symm
    _ = Text.dropEndWhile Text.isBlank
          (Line.shownIn row ++ List.replicate (cols - row.length) ' ') := by
        rw [htext, ← hsplit, hfull]
    _ = Text.dropEndWhile Text.isBlank (Line.shownIn row) :=
        Text.dropEndWhile_append fun c hc => by rw [List.eq_of_mem_replicate hc]; rfl

/-- A row that runs on is read with all its columns. -/
theorem joined_cons (hlen : row.length ≤ cols) {rest : List (List Cell)} (hrest : rest ≠ []) :
    joined (Reflow.asLines cols (row :: rest)) =
      Line.shownIn row ++ (List.replicate (cols - row.length) ' ' ++
        joined (Reflow.asLines cols rest)) := by
  rw [Reflow.asLines_cons row hrest, joined, List.flatMap_cons, if_pos rfl, Line.toList_fullText,
    Line.fit_eq hlen, Line.shownIn_append, Line.shownIn_blanks, List.append_assoc]
  rfl

/-- **Rows that a text is cut into are joined to the text**, with a space for every
column left free. -/
theorem dropEndWhile_joined (hcols : 2 ≤ cols) (htakes : TakesColumns line)
    (hlen : row.length ≤ cols) :
    Text.dropEndWhile Text.isBlank
        (joined (Reflow.asLines cols (Reflow.cut cols row (cellsOf line)))) =
      Text.dropEndWhile Text.isBlank
        (Line.shownIn row ++ Text.spaced cols row.length (line.map Prod.fst)) := by
  induction line generalizing row with
  | nil =>
    show _ = Text.dropEndWhile _ (_ ++ [])
    rw [List.append_nil]
    show Text.dropEndWhile _ (joined (Reflow.asLines cols (Reflow.cut cols row []))) = _
    rw [Reflow.cut_nil]
    exact dropEndWhile_joined_last hlen
  | cons p rest ih =>
    have hwidth := htakes p List.mem_cons_self
    have hrest : TakesColumns rest := fun q hq => htakes q (List.mem_cons_of_mem _ hq)
    have hgroup := isGroup_glyph hwidth p.2 rest
    have hglyph := length_glyph hwidth p.2
    rw [cellsOf_cons, Reflow.cut_group hcols hgroup, List.map_cons, Text.spaced, ← hglyph]
    by_cases hfull : cols < row.length + (glyph p.1 p.2).length
    · -- the row is read with the columns left free, and the character begins the next one
      have hbegun : Reflow.isFull cols (glyph p.1 p.2).length row = true := by
        cases row with
        | nil =>
          have hshort := hgroup.length_le
          rw [List.length_nil] at hfull
          omega
        | cons c cells => rw [Reflow.isFull, decide_eq_true hfull]; rfl
      rw [if_pos hbegun, if_pos hfull, joined_cons hlen (Reflow.cut_ne_nil _ _ _)]
      refine Text.dropEndWhile_append_congr (Text.dropEndWhile_append_congr ?_)
      rw [ih hrest (Nat.le_trans hgroup.length_le hcols), Line.shownIn_glyph]
      rfl
    · have hroom : ¬ Reflow.isFull cols (glyph p.1 p.2).length row = true := by
        rw [Reflow.isFull, decide_eq_false hfull]
        exact Bool.false_ne_true
      rw [if_neg hroom, if_neg hfull, ih hrest (hgroup.length_append_le hcols hlen hroom),
        Line.shownIn_append, Line.shownIn_glyph, List.append_assoc, List.length_append]
      rfl

/-! ## Printing -/

theorem pen_wrap (s : Screen) : s.wrap.cursor.pen = s.cursor.pen := by
  obtain ⟨row, hrow⟩ := exists_cursor_advance s.leaveRow
  rw [wrap_eq, hrow]
  show s.leaveRow.cursor.pen = _
  rw [s.leaveRow_eq.1]
  rfl

theorem pen_write (s : Screen) (c : Char) (width : Nat) :
    (s.write c width).cursor.pen = s.cursor.pen := by
  rw [write_eq]
  generalize Row.put s.cursor.insertMode s.cursor.col c width s.cursor.pen = put
  have hput : (s.mapCells s.cursor.row put).cursor.pen = s.cursor.pen :=
    congrArg Cursor.pen (cursor_mapCells _ _)
  show Cursor.pen (if _ then _ else _) = _
  split
  · exact hput
  · exact hput

theorem pen_combine (s : Screen) (mark : Char) : (s.combine mark).cursor.pen = s.cursor.pen := by
  rcases combine_cases s mark with h | ⟨col, h⟩
  · rw [h]
  · rw [h, cursor_mapCells]

/-- Printing leaves the pen alone. -/
theorem pen_print (s : Screen) (c : Char) : (s.print c).cursor.pen = s.cursor.pen := by
  have hbegun : ∀ t : Screen, t = s ∨ t = s.wrap → t.cursor.pen = s.cursor.pen := by
    rintro t (rfl | rfl)
    · rfl
    · exact pen_wrap s
  refine print_cases (pen_combine s c) hbegun (fun t w ht => ?_) fun t w ht => ?_
  · rw [pen_write]
    exact hbegun t ht
  · rw [pen_write, pen_wrap, cursor_mapCells]
    exact hbegun t ht

/-- A text that is printed is a line typed with the pen at hand. -/
theorem printAll_eq_typeLine (s : Screen) (text : List Char) :
    s.printAll text = s.performAll (typeLine (text.map fun c => (c, s.cursor.pen))) := by
  induction text generalizing s with
  | nil => rfl
  | cons c rest ih =>
    show (s.print c).printAll rest = (s.print c).performAll (typeLine (rest.map _))
    rw [ih, pen_print]

/-- **What the transcript shows of a text**, white space at its end apart. -/
theorem transcript_printAll (hcols : 2 ≤ cols) (rows : Nat) {text : List Char}
    (hwidths : ∀ c ∈ text, Text.charWidth c = 1 ∨ Text.charWidth c = 2)
    (hroom : (layLine cols (text.map fun c => (c, {}))).length ≤ capacity + max rows 1) :
    ((initial cols rows capacity).printAll text).transcript =
      Text.trimBlanks (String.ofList (Text.spaced cols 0 text)) := by
  let line : TextLine := text.map fun c => (c, {})
  have htakes : TakesColumns line := by
    intro p hp
    obtain ⟨c, hc, rfl⟩ := List.mem_map.mp hp
    exact hwidths c hc
  have hchars : line.map Prod.fst = text := by
    rw [List.map_map]
    exact List.map_id text
  have htyped : (initial cols rows capacity).printAll text = typed cols rows capacity [line] :=
    printAll_eq_typeLine _ text
  -- there is room for all rows, so those above and those on display are the text's
  obtain ⟨above, full, last, -, htyping, htext⟩ :=
    exists_typing_typed_single hcols htakes hroom
  have hrows := htyping.shows.rows_eq
  rw [htyping.ready.cols_eq, htext] at hrows
  have hempty : ([] : List Cell).length ≤ cols := Nat.zero_le cols
  have hjoined := dropEndWhile_joined hcols htakes hempty
  rw [htyped, transcript_eq hrows, Text.trimBlanks, Text.trimBlanks, String.toList_ofList,
    toList_join_eq_joined, ← hchars]
  exact congrArg String.ofList hjoined

/-- **The transcript shows just what was printed, unless a wide character meets a
single free column.** Then there is a space in front of it that was not printed. -/
theorem transcript_printAll_iff (hcols : 2 ≤ cols) (rows : Nat) {text : List Char}
    (hwidths : ∀ c ∈ text, Text.charWidth c = 1 ∨ Text.charWidth c = 2)
    (hend : ∀ c ∈ text.getLast?, Text.isBlank c = false)
    (hroom : (layLine cols (text.map fun c => (c, {}))).length ≤ capacity + max rows 1) :
    let shown := ((initial cols rows capacity).printAll text).transcript
    shown = String.ofList (Text.spaced cols 0 text) ∧
      (shown = String.ofList text ↔ Text.leavesGap cols 0 text = false) := by
  intro shown
  have hshown : shown = String.ofList (Text.spaced cols 0 text) := by
    refine (transcript_printAll hcols rows hwidths hroom).trans ?_
    -- the text does not end in white space, so neither does what is shown
    rw [Text.trimBlanks, String.toList_ofList, Text.dropEndWhile_eq_self]
    rwa [Text.getLast?_spaced]
  refine ⟨hshown, ?_⟩
  rw [hshown, String.ofList_inj, Text.spaced_eq_self_iff]

/-- Three rows of two columns, of which one has scrolled off. -/
theorem transcript_printAll_rows :
    let text := ['a', 'b', '世', 'c', 'd']
    (∀ c ∈ text, Text.charWidth c = 1 ∨ Text.charWidth c = 2) ∧
      (∀ c ∈ text.getLast?, Text.isBlank c = false) ∧
      (layLine 2 (text.map fun c => (c, {}))).length = 1 + max 2 1 ∧
      ((initial 2 2 1).printAll text).transcript = "ab世cd" := by
  intro text
  have hwidths : ∀ c ∈ text, Text.charWidth c = 1 ∨ Text.charWidth c = 2 := by
    rw [← List.forall_iff_forall_mem]
    decide +kernel
  have hend : ∀ c ∈ text.getLast?, Text.isBlank c = false := by
    intro c hc
    obtain rfl : 'd' = c := Option.some.inj hc
    decide +kernel
  have hroom : (layLine 2 (text.map fun c => (c, {}))).length = 1 + max 2 1 := by decide +kernel
  refine ⟨hwidths, hend, hroom, ?_⟩
  exact (transcript_printAll_iff (by decide) 2 hwidths hend (Nat.le_of_eq hroom)).2.mpr
    (by decide +kernel)

/-- A space that was not printed, and that a wider screen does not show. -/
theorem transcript_printAll_gap :
    let text := ['a', '中']
    (∀ c ∈ text, Text.charWidth c = 1 ∨ Text.charWidth c = 2) ∧
      (∀ c ∈ text.getLast?, Text.isBlank c = false) ∧
      (layLine 2 (text.map fun c => (c, {}))).length ≤ 5 + max 2 1 ∧
      ((initial 2 2 5).printAll text).transcript = "a 中" ∧
      ((initial 2 2 5).printAll text).transcript ≠ String.ofList text ∧
      (((initial 2 2 5).printAll text).resize 4 2).transcript = "a中" := by
  intro text
  refine ⟨?widths, ?last, by decide +kernel⟩
  case widths =>
    rw [← List.forall_iff_forall_mem]
    decide +kernel
  case last =>
    intro c hc
    obtain rfl : '中' = c := Option.some.inj hc
    decide +kernel

end Screen

end Teletype

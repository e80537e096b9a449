import Teletype.Proofs.Screen.Paired

/-!
# Marks that join a character

A mark is printed into the cell before the cursor, so it joins the character just
printed if the cursor went on past that character, or stopped on it with a wrap
pending. `joins_iff` says when it did.

The cursor does neither behind a character of one column in the last column while
wrapping is off. There it stands on the character with no wrap pending, and the mark
goes to the character before (`mark_misses_last_column`). The other way to miss is a
wrap that stays pending while the cursor moves on, which takes one that is pending in
the middle of a row.
-/

namespace Teletype.Screen

variable {s t : Screen} {c mark : Char} {col row width : Nat} {d : Cell}

/-- The screen that a character of `width` columns is written on, once every wrap
that it makes is made; none if the character is dropped. -/
def roomFor? (s : Screen) (width : Nat) : Option Screen :=
  let t := s.afterPendingWrap
  if width = 2 && t.cols ≤ t.cursor.col + 1 then
    if !t.cursor.autowrap || t.cols < 2 then none else some t.blankCursor.wrap
  else some t

/-- The screen with a mark added to one of its cells. -/
def withMark (s : Screen) (mark : Char) (col row : Nat) : Screen :=
  s.mapCells row (·.modify col fun d => { d with content := d.content.push mark })

/-- The column of the character that a mark joins: the one before the cursor, or its
left half. -/
def markColumn? (s : Screen) : Option Nat :=
  s.columnBefore?.map fun col =>
    if 0 < col && (s.cell? col s.cursor.row).any (·.tail) then col - 1 else col

/-- Whether a mark finds a character of `width` columns where it was written, `s` being
the screen that it was written on: in the last column it needs a pending wrap to be
found, or a right half to stand on, and elsewhere it is behind the cursor unless a wrap
was pending in the middle of the row. -/
def leavesBehind (s : Screen) (c : Char) (width : Nat) : Bool :=
  if s.cols ≤ s.cursor.col + width then s.cursor.autowrap || width == 2
  else !s.cursor.pendingWrap || (width == 1 &&
    ((s.write c width).cell? (s.cursor.col + 1) s.cursor.row).any (·.tail))

/-! ## Where a character is written -/

theorem print_eq_roomFor? (h : Text.charWidth c ≠ 0) : s.print c =
    match s.roomFor? (Text.charWidth c) with
    | some t => t.write c (Text.charWidth c)
    | none => s.afterPendingWrap := by
  rw [print_eq h, roomFor?]
  dsimp only
  split
  · split <;> rfl
  · rfl

/-! ## One cell changed -/

theorem cell?_mapCells (s : Screen) (col row : Nat) (f : List Cell → List Cell) :
    (s.mapCells row f).cell? col row = (s.line? row).bind fun l => (f l.cells)[col]? := by
  rw [cell?, line?, line?, mapCells, mapRow, grid_mapGrid, List.getElem?_modify_eq]
  cases s.grid[row]? <;> rfl

theorem modify_congr {α : Type} {f g : α → α} {i : Nat} {xs : List α}
    (h : ∀ x, xs[i]? = some x → f x = g x) : xs.modify i f = xs.modify i g := by
  refine List.ext_getElem? fun j => ?_
  rw [List.getElem?_modify, List.getElem?_modify]
  by_cases hi : i = j
  · subst hi
    cases hx : xs[i]? with
    | none => rfl
    | some x => simp [h x hx]
  · simp [hi]

/-- What is done to a cell matters only on the cell that is there. -/
theorem mapCells_modify_congr {f g : Cell → Cell} (hd : s.cell? col row = some d)
    (h : f d = g d) : s.mapCells row (·.modify col f) = s.mapCells row (·.modify col g) := by
  refine mapGrid_congr (modify_congr fun l hl => ?_)
  have hcells : l.cells.modify col f = l.cells.modify col g := by
    refine modify_congr fun x hx => ?_
    have hcell : s.cell? col row = some x := by
      rw [cell?, line?, hl]
      exact hx
    obtain rfl := Option.some.inj (hcell.symm.trans hd)
    exact h
  show { l with cells := l.cells.modify col f } = { l with cells := l.cells.modify col g }
  rw [hcells]

theorem cell?_withMark (hd : s.cell? col row = some d) (mark : Char) :
    (s.withMark mark col row).cell? col row =
      some { d with content := d.content.push mark } := by
  obtain ⟨l, hl, hcell⟩ := Option.bind_eq_some_iff.mp hd
  rw [withMark, cell?_mapCells, hl, Option.bind_some, List.getElem?_modify_eq, hcell]
  rfl

theorem combine_eq (s : Screen) (mark : Char) : s.combine mark =
    match s.markColumn? with
    | some col => s.mapCells s.cursor.row (·.modify col (·.combine mark))
    | none => s := by
  rw [combine, markColumn?]
  cases s.columnBefore? <;> rfl

/-- **A mark joins the character of the column that it is added in**, and nothing else
is changed. -/
theorem print_eq_withMark_iff (hmark : Text.charWidth mark = 0)
    (hd : s.cell? col s.cursor.row = some d) (hcontent : d.content.isEmpty = false) :
    s.print mark = s.withMark mark col s.cursor.row ↔ s.markColumn? = some col := by
  have hprint : s.print mark = s.combine mark := if_pos hmark
  have hgrows : d ≠ { d with content := d.content.push mark } := by
    intro heq
    have hlength := congrArg (fun c : Cell => c.content.toList.length) heq
    simp at hlength
  rw [hprint, combine_eq]
  constructor
  · intro hjoined
    have hcell := congrArg (·.cell? col s.cursor.row) hjoined
    rw [cell?_withMark hd] at hcell
    -- the cell has the mark, so it is the one that the mark was added to
    cases hcol : s.markColumn? with
    | none =>
      rw [hcol, hd] at hcell
      exact absurd (Option.some.inj hcell) hgrows
    | some other =>
      by_cases heq : other = col
      · rw [heq]
      obtain ⟨l, hl, hget⟩ := Option.bind_eq_some_iff.mp hd
      rw [hcol] at hcell
      dsimp only at hcell
      rw [cell?_mapCells, hl, Option.bind_some,
        List.getElem?_modify_ne _ _ heq, hget] at hcell
      exact absurd (Option.some.inj hcell) hgrows
  · intro hcol
    rw [hcol]
    refine mapCells_modify_congr hd ?_
    rw [Cell.combine, hcontent]
    rfl

/-! ## Where the cursor goes on -/

theorem cursor_write (s : Screen) (c : Char) (width : Nat) : (s.write c width).cursor =
    if s.cols ≤ s.cursor.col + width then
      { s.cursor with col := s.cols - 1, pendingWrap := s.cursor.autowrap }
    else { s.cursor with col := s.cursor.col + width } := by
  rw [write_eq, moveOn, mapCursor]
  dsimp only
  rw [cursor_mapCells, cols_mapCells]

theorem row_write (s : Screen) (c : Char) (width : Nat) :
    (s.write c width).cursor.row = s.cursor.row := by
  rw [cursor_write]
  split <;> rfl

/-- A character that ends in the last column has the cursor stop there. -/
theorem columnBefore?_write_last (h : s.cols ≤ s.cursor.col + width) :
    (s.write c width).columnBefore? =
      if s.cursor.autowrap then some (s.cols - 1)
      else if s.cols - 1 = 0 then none else some (s.cols - 1 - 1) := by
  rw [columnBefore?, cursor_write, if_pos h]

theorem columnBefore?_write_on (h : ¬ s.cols ≤ s.cursor.col + width) :
    (s.write c width).columnBefore? =
      if s.cursor.pendingWrap then some (s.cursor.col + width)
      else if s.cursor.col + width = 0 then none else some (s.cursor.col + width - 1) := by
  rw [columnBefore?, cursor_write, if_neg h]

section Written

variable (hw : s.WellFormed)

include hw

theorem cell?_write (c : Char) (width : Nat) :
    (s.write c width).cell? s.cursor.col s.cursor.row =
      some { content := c.toString, pen := s.cursor.pen } := by
  obtain ⟨l, hl, -, hlen, -⟩ := hw.exists_cursorLine
  have hcol : s.cursor.col < l.cells.length := by
    rw [hlen]
    exact hw.col_lt
  rw [cell?, line?, getElem?_grid_write hl, Option.bind_some]
  exact Row.getElem?_put hcol c width s.cursor.pen

theorem cell?_write_two (h : s.cursor.col + 1 < s.cols) (c : Char) :
    (s.write c 2).cell? (s.cursor.col + 1) s.cursor.row =
      some { content := "", pen := s.cursor.pen, tail := true } := by
  obtain ⟨l, hl, -, hlen, -⟩ := hw.exists_cursorLine
  rw [cell?, line?, getElem?_grid_write hl, Option.bind_some]
  exact Row.getElem?_put_two (by rwa [hlen]) c s.cursor.pen

/-- A mark that is put on the character joins it. -/
theorem markColumn?_of_head (h : (s.write c width).columnBefore? = some s.cursor.col) :
    (s.write c width).markColumn? = some s.cursor.col := by
  rw [markColumn?, h, row_write, Option.map_some, cell?_write hw]
  simp

/-- So does one that is put on the right half of the character. -/
theorem markColumn?_of_tail (hroom : s.cursor.col + 2 ≤ s.cols)
    (h : (s.write c 2).columnBefore? = some (s.cursor.col + 1)) :
    (s.write c 2).markColumn? = some s.cursor.col := by
  rw [markColumn?, h, row_write, Option.map_some, cell?_write_two hw (by omega)]
  simp

/-- **The character before the cursor is the one just written**, if it left the cursor
behind it. -/
theorem markColumn?_write_iff (hwidth : width = 1 ∨ width = 2)
    (hroom : s.cursor.col + width ≤ s.cols) (c : Char) :
    (s.write c width).markColumn? = some s.cursor.col ↔ s.leavesBehind c width = true := by
  unfold leavesBehind
  by_cases hlast : s.cols ≤ s.cursor.col + width
  · have hbefore := columnBefore?_write_last (c := c) hlast
    rw [if_pos hlast]
    cases hauto : s.cursor.autowrap with
    | true =>
      -- a wrap is pending, and the cursor on the character
      rw [hauto, if_pos rfl] at hbefore
      refine iff_of_true ?_ rfl
      rcases hwidth with rfl | rfl
      · exact markColumn?_of_head hw (hbefore.trans (congrArg some (by omega)))
      · exact markColumn?_of_tail hw hroom (hbefore.trans (congrArg some (by omega)))
    | false =>
      rw [hauto, if_neg Bool.false_ne_true] at hbefore
      rcases hwidth with rfl | rfl
      · -- the mark is put in front of the character
        refine iff_of_false ?_ Bool.false_ne_true
        rw [markColumn?, hbefore]
        split
        · exact fun heq => by cases heq
        · rw [Option.map_some]
          split <;> (intro heq; have := Option.some.inj heq; omega)
      · rw [if_neg (by omega)] at hbefore
        exact iff_of_true (markColumn?_of_head hw (hbefore.trans (congrArg some (by omega)))) rfl
  · have hbefore := columnBefore?_write_on (c := c) hlast
    rw [if_neg hlast]
    cases hpending : s.cursor.pendingWrap with
    | true =>
      -- the mark is put behind the character, unless what follows is a right half
      rw [hpending, if_pos rfl] at hbefore
      rw [markColumn?, hbefore, row_write, Option.map_some]
      rcases hwidth with rfl | rfl
      · cases ((s.write c 1).cell? (s.cursor.col + 1) s.cursor.row).any (·.tail) <;> simp
      · refine iff_of_false ?_ Bool.false_ne_true
        split <;> (intro heq; have := Option.some.inj heq; omega)
    | false =>
      rw [hpending, if_neg Bool.false_ne_true, if_neg (by omega)] at hbefore
      refine iff_of_true ?_ rfl
      rcases hwidth with rfl | rfl
      · exact markColumn?_of_head hw (hbefore.trans (congrArg some (by omega)))
      · exact markColumn?_of_tail hw hroom (hbefore.trans (congrArg some (by omega)))

end Written

/-! ## A character and its mark -/

/-- A character of one or two columns fits where it is written. -/
theorem room_of_roomFor? (hw : s.WellFormed) (hwidth : width = 1 ∨ width = 2)
    (h : s.roomFor? width = some t) : t.WellFormed ∧ t.cursor.col + width ≤ t.cols := by
  have hbegun := hw.afterPendingWrap
  have hcol := hbegun.col_lt
  rw [roomFor?] at h
  by_cases hlast : (width = 2 && s.afterPendingWrap.cols ≤ s.afterPendingWrap.cursor.col + 1) = true
  · rw [if_pos hlast] at h
    split at h
    · cases h
    · next hwraps =>
      obtain rfl := Option.some.inj h
      rw [Bool.or_eq_true, not_or, decide_eq_true_eq] at hwraps
      refine ⟨hbegun.wrap_blankCursor, ?_⟩
      rw [col_wrap, cols_wrap, blankCursor, cols_mapCells]
      omega
  · rw [if_neg hlast] at h
    obtain rfl := Option.some.inj h
    rw [Bool.and_eq_true, decide_eq_true_eq, decide_eq_true_eq] at hlast
    exact ⟨hbegun, by omega⟩

/-- **A mark joins the character printed before it** exactly if that character left the
cursor behind it. From any screen that a run reaches: a character of one or two columns
is dropped, or it is in the cell that it was written in, and then the mark is added to
that very cell, with nothing else changed, exactly if `leavesBehind`. -/
theorem mark_joins_iff (cols rows capacity : Nat) (ops : List Operation) (c mark : Char)
    (hwidth : Text.charWidth c = 1 ∨ Text.charWidth c = 2) (hmark : Text.charWidth mark = 0) :
    let s := (initial cols rows capacity).performAll ops
    let printed := s.print c
    match s.roomFor? (Text.charWidth c) with
    | none => printed = s.afterPendingWrap
    | some t =>
      printed = t.write c (Text.charWidth c) ∧
        printed.cell? t.cursor.col t.cursor.row =
          some { content := c.toString, pen := t.cursor.pen } ∧
        (printed.print mark = printed.withMark mark t.cursor.col t.cursor.row ↔
          t.leavesBehind c (Text.charWidth c) = true) := by
  intro s printed
  have hw : s.WellFormed := (wellFormed_initial cols rows capacity).performAll ops
  have hprinted : printed = _ := print_eq_roomFor? (by omega)
  cases hroom : s.roomFor? (Text.charWidth c) with
  | none => rwa [hroom] at hprinted
  | some t =>
    rw [hroom] at hprinted
    obtain ⟨ht, hfits⟩ := room_of_roomFor? hw hwidth hroom
    have hcell := cell?_write ht c (Text.charWidth c)
    dsimp only at hprinted ⊢
    rw [hprinted]
    refine ⟨rfl, hcell, ?_⟩
    rw [← markColumn?_write_iff ht hwidth hfits, ← row_write t c (Text.charWidth c)]
    rw [← row_write t c (Text.charWidth c)] at hcell
    exact print_eq_withMark_iff hmark hcell (by simp)

/-- Behind a wrap: the character of two columns finds one column free, is written in the
row below, and takes the mark there. -/
theorem mark_joins_wrapped :
    let s := (initial 3 2 0).performAll [.print 'a', .print 'b']
    let printed := s.print '中'
    Text.charWidth '中' = 2 ∧ Text.charWidth '\u0301' = 0 ∧
      printed.cell? 0 1 = some { content := "中", pen := {} } ∧
      printed.print '\u0301' = printed.withMark '\u0301' 0 1 := by
  have hwide : Text.charWidth '中' = 2 := by decide +kernel
  have hmark : Text.charWidth '\u0301' = 0 := by decide +kernel
  have hjoins := mark_joins_iff 3 2 0 [.print 'a', .print 'b'] '中' '\u0301' (.inr hwide) hmark
  have hroom : ((initial 3 2 0).performAll [.print 'a', .print 'b']).roomFor?
      (Text.charWidth '中') = some ((initial 3 2 0).performAll
        [.print 'a', .print 'b']).blankCursor.wrap := by decide +kernel
  dsimp only at hjoins
  rw [hroom] at hjoins
  obtain ⟨-, hcell, hiff⟩ := hjoins
  exact ⟨hwide, hmark, hcell, hiff.mpr (by decide +kernel)⟩

/-- With wrapping off, the mark misses the letter that it is printed behind. -/
theorem mark_misses_last_column :
    let s := (initial 2 1 0).performAll [.setFlag .autowrap false, .print 'a']
    Text.charWidth 'b' = 1 ∧ Text.charWidth '\u0301' = 0 ∧
      ((s.print 'b').cell? 1 0).map (·.content) = some "b" ∧
      (((s.print 'b').print '\u0301').cell? 1 0).map (·.content) = some "b" ∧
      (((s.print 'b').print '\u0301').cell? 0 0).map (·.content) = some "a\u0301" := by
  decide +kernel

end Teletype.Screen

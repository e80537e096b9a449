import Teletype.Proofs.Screen.WellFormed

/-!
# Behind the alternate grid

While the alternate grid is on display, the primary grid, its scrollback and the
cursor saved for it wait behind it (`Covers`). Every update of a screen picks
the grid on display, so an operation leaves what waits alone, except for the few
that are meant to reach it (`Operation.reachesBehind`). What is found behind at
the end of a run is what was there at its start (`Covers.performAll`), and
going back puts it on display again (`leaveAlternate_eq`).
-/

namespace Teletype.Screen

/-- The alternate grid is on display, and what waits behind it is what `s` has. -/
structure Covers (s t : Screen) : Prop where
  onAlternate : t.onAlternate = true
  cols_eq : t.cols = s.cols
  rows_eq : t.rows = s.rows
  primary_eq : t.primary = s.primary
  scrollback_eq : t.scrollback = s.scrollback
  saved_eq : t.savedPrimary = s.savedPrimary

/-- Whether an operation is meant to change what is behind the alternate grid, or
to show it. -/
def Operation.reachesBehind : Operation → Bool
  | .exitAlternate _ | .resize .. | .reset | .softReset => true
  | .eraseInDisplay mode => mode == 3
  | _ => false

variable {s t : Screen}

namespace Covers

variable (h : s.Covers t)

include h

/-! ## Updates -/

theorem withCursor (c : Cursor) : s.Covers { t with cursor := c } :=
  { h with }

theorem mapGrid (f : Grid → Grid) : s.Covers (t.mapGrid f) := by
  have hdisplayed : t.mapGrid f = { t with alternate := f t.alternate } := if_pos h.onAlternate
  rw [hdisplayed]
  exact { h with }

theorem mapRow (row : Nat) (f : Line → Line) : s.Covers (t.mapRow row f) :=
  h.mapGrid _

theorem mapCells (row : Nat) (f : List Cell → List Cell) : s.Covers (t.mapCells row f) :=
  h.mapGrid _

/-! ## Moving rows -/

/-- Rows that leave the top of the alternate grid are gone. -/
theorem scrollUp (n : Nat) : s.Covers (t.scrollUp n) := by
  have hg := h.mapGrid (·.shiftUp t.top t.bottom (min n (t.bottom - t.top + 1)) (.blank t.cols))
  refine { hg with scrollback_eq := ?_ }
  show t.scrollback.pushAll (if !t.onAlternate && t.top == 0 then _ else []) = s.scrollback
  rw [h.onAlternate]
  exact h.scrollback_eq

theorem scrollDown (n : Nat) : s.Covers (t.scrollDown n) := by
  simp only [Screen.scrollDown]
  split
  · exact h
  · split
    · exact h.mapGrid _
    · exact (h.mapGrid _).mapRow _ _

theorem insertLines (n : Nat) : s.Covers (t.insertLines n) := by
  unfold Screen.insertLines
  split
  · exact (h.mapGrid _).withCursor _
  · exact h

theorem deleteLines (n : Nat) : s.Covers (t.deleteLines n) := by
  unfold Screen.deleteLines
  split
  · exact (h.mapGrid _).withCursor _
  · exact h

theorem advance : s.Covers t.advance :=
  advance_cases (h.scrollUp 1) (fun _ => h.withCursor _) h

theorem reverseIndex : s.Covers t.reverseIndex := by
  have hsettled : s.Covers t.settle := h.withCursor _
  simp only [Screen.reverseIndex]
  split
  · exact hsettled.scrollDown 1
  · exact hsettled.withCursor _

theorem nextLine : s.Covers t.nextLine :=
  (h.withCursor _).advance.withCursor _

theorem linefeed : s.Covers t.linefeed := by
  unfold Screen.linefeed
  split
  · exact h.nextLine
  · exact (h.withCursor _).advance

/-! ## Printing and erasing -/

theorem wrap : s.Covers t.wrap :=
  ((h.mapRow _ _).withCursor _).advance

theorem combine (mark : Char) : s.Covers (t.combine mark) := by
  unfold Screen.combine
  split
  · exact h
  · exact h.mapCells _ _

theorem write (c : Char) (width : Nat) : s.Covers (t.write c width) := by
  have hopened : s.Covers (if t.cursor.insertMode then
      t.mapCells t.cursor.row (Row.openAt t.cursor.col width) else t) := by
    split
    · exact h.mapCells _ _
    · exact h
  exact (hopened.mapCells _ _).withCursor _

theorem print (c : Char) : s.Covers (t.print c) := by
  have hbegun : ∀ u, u = t ∨ u = t.wrap → s.Covers u := by
    rintro u (rfl | rfl)
    · exact h
    · exact h.wrap
  refine print_cases (h.combine c) hbegun (fun u w hu => (hbegun u hu).write c w) fun u w hu => ?_
  exact ((hbegun u hu).mapCells _ _).wrap.write c w

theorem eraseCells (row first last : Nat) : s.Covers (t.eraseCells row first last) := by
  simp only [Screen.eraseCells]
  split
  · exact h
  · exact (h.withCursor _).mapRow _ _

theorem eraseRows (first last : Nat) : s.Covers (t.eraseRows first last) := by
  unfold Screen.eraseRows
  generalize List.range' first (last - first) = rows
  induction rows generalizing t with
  | nil => exact h
  | cons row rest ih => exact ih (h.eraseCells row 0 t.cols)

/-- Erasing forgets the scrollback only where it is asked to. -/
theorem eraseInDisplay {mode : Nat} (hmode : mode ≠ 3) : s.Covers (t.eraseInDisplay mode) := by
  simp only [Screen.eraseInDisplay]
  split
  · exact (h.eraseCells ..).eraseRows ..
  · exact (h.eraseRows ..).eraseCells ..
  · exact h.eraseRows ..
  · exact absurd rfl hmode
  · exact h

theorem eraseInLine (mode : Nat) : s.Covers (t.eraseInLine mode) := by
  simp only [Screen.eraseInLine]
  split
  · exact h.eraseCells ..
  · exact h.eraseCells ..
  · exact h.eraseCells ..
  · exact h

/-! ## Cursors, margins and grids -/

theorem withMargins (top bottom : Nat) : s.Covers { t with top, bottom } :=
  { h with }

theorem setMargins (top bottom : Nat) : s.Covers (t.setMargins top bottom) := by
  simp only [Screen.setMargins]
  split
  · exact (h.withMargins _ _).withCursor _
  · exact (h.withMargins _ _).withCursor _

/-- The cursor is saved for the grid on display, beside the one that waits. -/
theorem saveCursor : s.Covers t.saveCursor := by
  have hsaved : t.saveCursor = { t with savedAlternate := t.cursor.save } := if_pos h.onAlternate
  rw [hsaved]
  exact { h with }

/-- The alternate grid is not entered twice. -/
theorem enterAlternate (clear : Bool) : s.Covers (t.enterAlternate clear) := by
  have hstays : t.enterAlternate clear = t := if_pos h.onAlternate
  rw [hstays]
  exact h

theorem alignmentTest : s.Covers t.alignmentTest :=
  ((h.mapGrid _).withMargins _ _).withCursor _

theorem setFlag (flag : Flag) (on : Bool) : s.Covers (t.setFlag flag on) := by
  cases flag <;> exact { h with }

/-! ## Runs -/

/-- **An operation leaves alone what is behind the alternate grid**, unless it is
meant to reach it. -/
theorem perform {op : Operation} (hop : op.reachesBehind = false) : s.Covers (t.perform op) := by
  cases op with
  | print c => exact h.print c
  | linefeed => exact h.linefeed
  | index => exact (h.withCursor _).advance
  | reverseIndex => exact h.reverseIndex
  | nextLine => exact h.nextLine
  | scrollUp n => exact h.scrollUp n
  | scrollDown n => exact h.scrollDown n
  | setMargins top bottom => exact h.setMargins top bottom
  | clearMargins => exact h.withMargins _ _
  | eraseInDisplay mode => exact h.eraseInDisplay (beq_eq_false_iff_ne.mp hop)
  | eraseInLine mode => exact h.eraseInLine mode
  | eraseChars n => exact h.eraseCells ..
  | insertLines n => exact h.insertLines n
  | deleteLines n => exact h.deleteLines n
  | insertChars n => exact (h.mapCells _ _).withCursor _
  | deleteChars n => exact (h.mapCells _ _).withCursor _
  | saveCursor => exact h.saveCursor
  | enterAlternate clear => exact h.enterAlternate clear
  | alignmentTest => exact h.alignmentTest
  | setFlag flag on => exact h.setFlag flag on
  | exitAlternate | resize | reset | softReset => cases hop
  -- tab stops and the cursor are no part of what waits
  | setTab | clearTab | clearTabs | setPen => exact { h with }
  | _ => exact h.withCursor _

/-- **What was behind the alternate grid at the start of a run is there at its
end**, unless one of its operations is meant to reach it. -/
theorem performAll {ops : List Operation} (hops : ∀ op ∈ ops, op.reachesBehind = false) :
    s.Covers (t.performAll ops) := by
  induction ops generalizing t with
  | nil => exact h
  | cons op rest ih =>
    obtain ⟨hop, hrest⟩ := List.forall_mem_cons.mp hops
    exact ih (h.perform hop) hrest

end Covers

/-! ## Printing and the grid on display -/

theorem onAlternate_advance (s : Screen) : s.advance.onAlternate = s.onAlternate :=
  advance_cases (onAlternate_mapGrid _ _) (fun _ => rfl) rfl

theorem onAlternate_wrap (s : Screen) : s.wrap.onAlternate = s.onAlternate :=
  (onAlternate_advance _).trans (onAlternate_mapGrid _ _)

theorem onAlternate_combine (s : Screen) (mark : Char) :
    (s.combine mark).onAlternate = s.onAlternate := by
  unfold combine
  split
  · rfl
  · exact onAlternate_mapGrid _ _

theorem onAlternate_write (s : Screen) (c : Char) (width : Nat) :
    (s.write c width).onAlternate = s.onAlternate := by
  refine (onAlternate_mapGrid _ _).trans ?_
  split
  · exact onAlternate_mapGrid _ _
  · rfl

/-- Printing shows the grid that is on display. -/
theorem onAlternate_print (s : Screen) (c : Char) : (s.print c).onAlternate = s.onAlternate := by
  have hbegun : ∀ t, t = s ∨ t = s.wrap → t.onAlternate = s.onAlternate := by
    rintro t (rfl | rfl)
    · rfl
    · exact onAlternate_wrap s
  refine print_cases (onAlternate_combine s c) hbegun
    (fun t w ht => (onAlternate_write t c w).trans (hbegun t ht)) fun t w ht => ?_
  rw [onAlternate_write, onAlternate_wrap]
  exact (onAlternate_mapGrid _ _).trans (hbegun t ht)

/-! ## There and back -/

/-- The cursor saved and the alternate grid, blanked, on display. -/
theorem covers_goAlternate (h : s.onAlternate = false) :
    { s with savedPrimary := s.cursor.save }.Covers (s.saveCursor.enterAlternate true) := by
  have hsaved : s.saveCursor = { s with savedPrimary := s.cursor.save } := by
    rw [saveCursor, h]
    rfl
  have hshown : s.saveCursor.enterAlternate true =
      { s.saveCursor.clearAlternate with onAlternate := true } := by
    rw [hsaved, enterAlternate, h]
    rfl
  rw [hshown, hsaved]
  exact ⟨rfl, rfl, rfl, rfl, rfl, rfl⟩

/-- **Going back shows what waited**, with the cursor as it was saved. -/
theorem Covers.leaveAlternate_eq (h : s.Covers t) :
    ((t.exitAlternate false).restoreCursor).onAlternate = false ∧
      ((t.exitAlternate false).restoreCursor).primary = s.primary ∧
      ((t.exitAlternate false).restoreCursor).scrollback = s.scrollback ∧
      ((t.exitAlternate false).restoreCursor).cursor =
        t.cursor.restore s.savedPrimary s.cols s.rows := by
  have hshown : t.exitAlternate false = { t with onAlternate := false } := if_pos h.onAlternate
  have hrestored : (t.exitAlternate false).restoreCursor = { t with
      onAlternate := false
      cursor := t.cursor.restore t.savedPrimary t.cols t.rows } := by
    rw [hshown]
    rfl
  rw [hrestored, h.cols_eq, h.rows_eq, h.saved_eq]
  exact ⟨rfl, h.primary_eq, h.scrollback_eq, rfl⟩

/-- A cursor inside the screen is taken up as it was saved. Whether it is seen and whether
characters are inserted does not travel with it. -/
theorem restore_save (h : s.WellFormed) (c : Cursor) :
    c.restore s.cursor.save s.cols s.rows = { s.cursor with
      visible := c.visible, insertMode := c.insertMode, pendingWrap := false } := by
  have hcol := h.col_lt
  have hrow := h.row_lt
  have hc : min s.cursor.col (s.cols - 1) = s.cursor.col := by omega
  have hr : min s.cursor.row (s.rows - 1) = s.cursor.row := by omega
  simp only [Cursor.save, Cursor.restore, Cursor.place, hc, hr]

end Teletype.Screen

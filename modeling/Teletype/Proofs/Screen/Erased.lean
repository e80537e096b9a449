import Teletype.Proofs.Row.Wiped
import Teletype.Proofs.Screen.Rows

/-!
# What erasing changes

Each way of erasing has the positions that it is meant for (`Erasure.covers`): those from
the cursor on, those up to it, or all of them, in a row or on the display, and some cells
from the cursor on. Wiping them out (`wipe`) changes the grid on display there, blanks what
is left of the characters cut at the edges, takes the soft wrap from each row wiped out
through its last column, and gives up a pending wrap. That is all that erasing does
(`erase_exactly`). The wipe is written out field by field; `wipe_eq` puts it into the words
that the erasures are carried out in.

A row is erased by itself, so an erasure that takes in several rows is the wipe of their
ranges one after the other, no row being met twice (`wipe_wipe`).
-/

namespace Teletype

/-- The row with columns wiped out. One that is wiped out through its last column runs on no
more. -/
def Line.wipe (covered : Nat → Bool) (bg : Color) (l : Line) : Line where
  cells := Row.wipe covered bg l.cells
  wrapped := l.wrapped && !covered (l.cells.length - 1)

/-- The grid with positions wiped out. -/
def Grid.wipe (covered : Nat → Nat → Bool) (bg : Color) (g : Grid) : Grid :=
  g.mapIdx fun row l => l.wipe (covered row) bg

/-- The screen with positions of the grid on display wiped out, in the color of the pen, and
without a pending wrap. -/
def Screen.wipe (s : Screen) (covered : Nat → Nat → Bool) : Screen :=
  { s with
    primary := if s.onAlternate then s.primary else s.primary.wipe covered s.cursor.pen.bg
    alternate := if s.onAlternate then s.alternate.wipe covered s.cursor.pen.bg else s.alternate
    cursor.pendingWrap := false }

/-- Right halves stand exactly behind their left halves, in all rows on display. -/
def Screen.Coupled (s : Screen) : Prop :=
  ∀ l ∈ s.grid, Row.Coupled l.cells

instance (s : Screen) : Decidable s.Coupled :=
  List.decidableBAll (fun l : Line => Row.Coupled l.cells) s.grid

/-- Which part of a row or of the display is erased. -/
inductive ErasedPart where
  | fromCursor
  | toCursor
  | whole
  deriving Repr, DecidableEq

/-- The mode that asks for a part. -/
def ErasedPart.mode : ErasedPart → Nat
  | .fromCursor => 0
  | .toCursor => 1
  | .whole => 2

/-- A way of erasing cells. -/
inductive Erasure where
  | display (part : ErasedPart)
  | line (part : ErasedPart)
  /-- Some cells from the cursor on. -/
  | cells (count : Nat) (pos : 0 < count)

namespace Erasure

/-- The operation that erases. -/
def operation : Erasure → Screen.Operation
  | .display part => .eraseInDisplay part.mode
  | .line part => .eraseInLine part.mode
  | .cells count _ => .eraseChars count

/-- Whether a position is meant to be erased. -/
def covers (e : Erasure) (c : Cursor) (row col : Nat) : Bool :=
  match e with
  | .display .fromCursor => c.row < row || row = c.row && c.col ≤ col
  | .display .toCursor => row < c.row || row = c.row && col ≤ c.col
  | .display .whole => true
  | .line .fromCursor => row = c.row && c.col ≤ col
  | .line .toCursor => row = c.row && col ≤ c.col
  | .line .whole => row = c.row
  | .cells count _ => row = c.row && c.col ≤ col && col < c.col + count

end Erasure

namespace Line

variable {l : Line} {covered other : Nat → Bool} {bg : Color}

theorem wipe_congr (hl : l.cells ≠ []) (h : ∀ col < l.cells.length, covered col = other col) :
    l.wipe covered bg = l.wipe other bg := by
  have hlast : l.cells.length - 1 < l.cells.length :=
    Nat.sub_lt (List.length_pos_iff.mpr hl) Nat.one_pos
  rw [wipe, wipe, Row.wipe_congr h, h _ hlast]

theorem wipe_nothing (bg : Color) (l : Line) : l.wipe (fun _ => false) bg = l := by
  rw [wipe, Row.wipe_nothing, Bool.not_false, Bool.and_true]

end Line

/-- Rows of which nothing was wiped out before are wiped out in one go with the others. -/
theorem Grid.wipe_wipe {covered other : Nat → Nat → Bool}
    (h : ∀ row, covered row = (fun _ => false) ∨ other row = fun _ => false) (bg : Color)
    (g : Grid) : (g.wipe covered bg).wipe other bg =
      g.wipe (fun row col => covered row col || other row col) bg := by
  have hline : ∀ row (l : Line), (l.wipe (covered row) bg).wipe (other row) bg =
      l.wipe (fun col => covered row col || other row col) bg := by
    intro row l
    rcases h row with hnone | hnone
    · simp only [hnone, Line.wipe_nothing, Bool.false_or]
    · simp only [hnone, Line.wipe_nothing, Bool.or_false]
  rw [wipe, wipe, List.mapIdx_mapIdx]
  exact congrArg (List.mapIdx · g) (funext fun row => funext (hline row))

namespace Screen

variable {s : Screen} {covered other : Nat → Nat → Bool} {row first last : Nat}

/-! ## Wiping -/

theorem mapGrid_settle (s : Screen) (f : Grid → Grid) :
    s.settle.mapGrid f = (s.mapGrid f).settle :=
  mapGrid_mapCursor s f _

theorem grid_wipe (s : Screen) (covered : Nat → Nat → Bool) :
    (s.wipe covered).grid = s.grid.wipe covered s.cursor.pen.bg := by
  cases h : s.onAlternate <;> simp [wipe, grid, h]

/-- Wiping in the words of the erasures: the grid on display is changed, and a pending wrap
given up. -/
theorem wipe_eq (s : Screen) (covered : Nat → Nat → Bool) :
    s.wipe covered = (s.mapGrid (·.wipe covered s.cursor.pen.bg)).settle := by
  cases h : s.onAlternate <;> simp [wipe, mapGrid, settle, mapCursor, h]

/-- **Wiping leaves no half alone.** -/
theorem Coupled.wipe (h : s.Coupled) (covered : Nat → Nat → Bool) : (s.wipe covered).Coupled := by
  intro l hl
  rw [grid_wipe, Grid.wipe, List.mem_mapIdx] at hl
  obtain ⟨i, hi, rfl⟩ := hl
  exact (h _ (List.getElem_mem hi)).wipe _ _

/-- Where all characters are whole no half is alone. -/
theorem AllRows.coupled (h : s.AllRows Row.Paired) : s.Coupled :=
  fun l hl => (h.grid l hl).coupled

theorem WellFormed.wipe (h : s.WellFormed) (covered : Nat → Nat → Bool) :
    (s.wipe covered).WellFormed := by
  rw [wipe_eq]
  exact (h.mapGrid fun _ hg => hg.mapIdx fun _ _ => Row.length_wipe ..).settle

/-- Only positions on the screen count. -/
theorem wipe_congr (hs : s.WellFormed)
    (h : ∀ row < s.rows, ∀ col < s.cols, covered row col = other row col) :
    s.wipe covered = s.wipe other := by
  rw [wipe_eq, wipe_eq]
  refine congrArg settle (mapGrid_congr (List.ext_getElem? fun row => ?_))
  rw [Grid.wipe, Grid.wipe, List.getElem?_mapIdx, List.getElem?_mapIdx]
  cases hl : s.grid[row]? with
  | none => rfl
  | some l =>
    have hcells : l.cells.length = s.cols := hs.grid.length_cells l (List.mem_of_getElem? hl)
    have hrow : row < s.rows := hs.grid.length_eq ▸ (List.getElem?_eq_some_iff.mp hl).1
    have hsome : 0 < l.cells.length := hcells ▸ hs.cols_pos
    rw [Option.map_some, Option.map_some,
      Line.wipe_congr (List.length_pos_iff.mp hsome) fun col hcol => h row hrow col (hcells ▸ hcol)]

theorem wipe_wipe (h : ∀ row, covered row = (fun _ => false) ∨ other row = fun _ => false) :
    (s.wipe covered).wipe other = s.wipe fun row col => covered row col || other row col := by
  cases hshown : s.onAlternate <;> simp [wipe, hshown, Grid.wipe_wipe h]

/-! ## Ranges of a row, and whole rows -/

theorem eraseCells_eq_wipe (hs : s.WellFormed) (hc : s.Coupled) (row : Nat)
    (hcols : first < s.cols) (h : first < last) : s.eraseCells row first last =
      s.wipe fun i col => i = row && (first ≤ col && col < last) := by
  have hsome : first < min last s.cols := Nat.lt_min.mpr ⟨h, hcols⟩
  have hmeant : (s.wipe fun i col => i = row && (first ≤ col && col < last)) =
      s.wipe fun i col => i = row && (first ≤ col && col < min last s.cols) := by
    refine wipe_congr hs fun i _ col hcol => ?_
    simp only [Nat.lt_min, hcol, and_true]
  rw [hmeant, wipe_eq]
  simp only [eraseCells]
  rw [if_neg (Nat.not_le.mpr hsome), mapRow, mapGrid_settle]
  refine congrArg settle (mapGrid_congr (List.ext_getElem? fun i => ?_))
  rw [Grid.wipe, List.getElem?_modify, List.getElem?_mapIdx]
  cases hl : s.grid[i]? with
  | none => rfl
  | some l =>
    by_cases hi : row = i
    · subst hi
      have hmem := List.mem_of_getElem? hl
      have hcells : l.cells.length = s.cols := hs.grid.length_cells l hmem
      have hrange : min last s.cols ≤ l.cells.length := hcells ▸ Nat.min_le_right _ _
      have hlast : (decide (first ≤ s.cols - 1) && decide (s.cols - 1 < min last s.cols)) =
          decide (min last s.cols = s.cols) := by
        rw [← Bool.decide_and, decide_eq_decide]
        omega
      simp only [if_true, Option.map_some, Option.map_eq_map,
        (hc l hmem).erase_eq_wipe hsome hrange, Line.wipe, decide_true, Bool.true_and, hcells,
        hlast, decide_not]
    · have hnone : ∀ col, (decide (i = row) && (decide (first ≤ col) &&
          decide (col < min last s.cols))) = false := by
        intro col
        rw [decide_eq_false (Ne.symm hi), Bool.false_and]
      simp only [if_neg hi, hnone, Line.wipe_nothing, Option.map_some, Option.map_eq_map]

theorem eraseRow_eq_wipe (hs : s.WellFormed) (hc : s.Coupled) (row : Nat) :
    s.eraseCells row 0 s.cols = s.wipe fun i _ => i = row := by
  rw [eraseCells_eq_wipe hs hc row hs.cols_pos hs.cols_pos]
  refine wipe_congr hs fun i _ col hcol => ?_
  simp [hcol]

/-- Rows are erased from the first one down, each by itself. -/
theorem eraseRows_eq_wipe (hs : s.WellFormed) (hc : s.Coupled) (h : first < last) :
    s.eraseRows first last = s.wipe fun row _ => first ≤ row && row < last := by
  obtain ⟨n, rfl⟩ : ∃ n, last = first + n + 1 := ⟨last - first - 1, by omega⟩
  have hcount : first + n + 1 - first = n + 1 := by omega
  rw [eraseRows, hcount]
  clear h hcount
  induction n with
  | zero =>
    have hone : ∀ row, decide (row = first) =
        (decide (first ≤ row) && decide (row < first + 0 + 1)) := by
      intro row
      rw [← Bool.decide_and, decide_eq_decide]
      omega
    rw [List.range'_one, List.foldl_cons, List.foldl_nil, eraseRow_eq_wipe hs hc]
    simp only [hone]
  | succ n ih =>
    have hapart : ∀ row, (fun _ : Nat => decide (first ≤ row) && decide (row < first + n + 1)) =
        (fun _ => false) ∨ (fun _ : Nat => decide (row = first + (n + 1))) = fun _ => false := by
      intro row
      by_cases hrow : row = first + (n + 1)
      · have hbehind : ¬ row < first + n + 1 := by omega
        exact .inl (funext fun _ => by simp only [hbehind, decide_false, Bool.and_false])
      · exact .inr (funext fun _ => decide_eq_false hrow)
    rw [List.range'_1_concat, List.foldl_append, ih, List.foldl_cons, List.foldl_nil,
      eraseRow_eq_wipe (hs.wipe _) (hc.wipe _), wipe_wipe hapart]
    refine wipe_congr hs fun row _ col _ => ?_
    rw [← Bool.decide_and, ← Bool.decide_and, ← Bool.decide_or, decide_eq_decide]
    omega

/-- No rows at all. -/
theorem eraseRows_of_le (h : last ≤ first) : s.eraseRows first last = s := by
  rw [eraseRows, Nat.sub_eq_zero_of_le h]
  rfl

/-! ## Each way of erasing -/

section Cursor

variable (hs : s.WellFormed) (hc : s.Coupled)
include hs hc

/-- The rest of the row of the cursor, and the rows below it. -/
theorem eraseInDisplay_fromCursor :
    s.eraseInDisplay 0 = s.wipe ((Erasure.display .fromCursor).covers s.cursor) := by
  show (s.eraseCells s.cursor.row s.cursor.col s.cols).eraseRows (s.cursor.row + 1) s.rows = _
  rw [eraseCells_eq_wipe hs hc _ hs.col_lt hs.col_lt]
  by_cases hbelow : s.cursor.row + 1 < s.rows
  · rw [eraseRows_eq_wipe (hs.wipe _) (hc.wipe _) hbelow, wipe_wipe fun row => ?apart]
    case apart =>
      by_cases hrow : row = s.cursor.row
      · have hnot : ¬ s.cursor.row + 1 ≤ row := by omega
        exact .inr (funext fun _ => by simp only [hnot, decide_false, Bool.false_and])
      · exact .inl (funext fun _ => by simp only [hrow, decide_false, Bool.false_and])
    refine wipe_congr hs fun row hrow col hcol => ?_
    simp only [Erasure.covers, hcol, hrow, decide_true, Bool.and_true]
    exact Bool.or_comm _ _
  · rw [eraseRows_of_le (Nat.not_lt.mp hbelow)]
    refine wipe_congr hs fun row hrow col hcol => ?_
    have hlast : ¬ s.cursor.row < row := by omega
    simp only [Erasure.covers, hcol, hlast, decide_true, decide_false, Bool.and_true,
      Bool.false_or]

/-- The rows above the cursor, and its own row up to it. -/
theorem eraseInDisplay_toCursor :
    s.eraseInDisplay 1 = s.wipe ((Erasure.display .toCursor).covers s.cursor) := by
  have hupTo : ∀ row col, ((Erasure.line .toCursor).covers s.cursor row col) =
      (decide (row = s.cursor.row) &&
        (decide (0 ≤ col) && decide (col < s.cursor.col + 1))) := by
    intro row col
    simp only [Erasure.covers, Nat.zero_le, decide_true, Bool.true_and, Nat.lt_succ_iff]
  show (s.eraseRows 0 s.cursor.row).eraseCells s.cursor.row 0 (s.cursor.col + 1) = _
  rcases Nat.eq_zero_or_pos s.cursor.row with htop | habove
  · rw [eraseRows_of_le (Nat.le_of_eq htop),
      eraseCells_eq_wipe hs hc _ hs.cols_pos (Nat.succ_pos _)]
    refine wipe_congr hs fun row _ col _ => ?_
    rw [← hupTo]
    simp only [Erasure.covers, htop, Nat.not_lt_zero, decide_false, Bool.false_or]
  · rw [eraseRows_eq_wipe hs hc habove,
      eraseCells_eq_wipe (hs.wipe _) (hc.wipe _) _ (hs.wipe _).cols_pos (Nat.succ_pos _),
      wipe_wipe fun row => ?apart]
    case apart =>
      by_cases hrow : row = s.cursor.row
      · exact .inl (funext fun _ => by simp [hrow])
      · exact .inr (funext fun _ => by simp [hrow])
    refine wipe_congr hs fun row _ col _ => ?_
    rw [← hupTo]
    simp only [Erasure.covers, Nat.zero_le, decide_true, Bool.true_and]

theorem perform_erasure (e : Erasure) :
    s.perform e.operation = s.wipe (e.covers s.cursor) := by
  have hcols := hs.cols_pos
  cases e with
  | display part =>
    cases part with
    | fromCursor => exact eraseInDisplay_fromCursor hs hc
    | toCursor => exact eraseInDisplay_toCursor hs hc
    | whole =>
      refine (eraseRows_eq_wipe hs hc hs.rows_pos).trans (wipe_congr hs fun row hrow col _ => ?_)
      simp [Erasure.covers, hrow]
  | line part =>
    cases part with
    | fromCursor =>
      refine (eraseCells_eq_wipe hs hc _ hs.col_lt hs.col_lt).trans
        (wipe_congr hs fun row _ col hcol => ?_)
      simp [Erasure.covers, hcol]
    | toCursor =>
      refine (eraseCells_eq_wipe hs hc _ hcols (Nat.succ_pos _)).trans
        (wipe_congr hs fun row _ col _ => ?_)
      simp only [Erasure.covers, Nat.zero_le, decide_true, Bool.true_and, Nat.lt_succ_iff]
    | whole => exact eraseRow_eq_wipe hs hc s.cursor.row
  | cells count pos =>
    refine (eraseCells_eq_wipe hs hc _ hs.col_lt (by omega)).trans
      (wipe_congr hs fun row _ col _ => ?_)
    simp only [Erasure.covers, Bool.and_assoc]

end Cursor

/-- **Erasing touches exactly its range.** On a well-formed screen without a half alone, each
way of erasing wipes out the positions that it is meant for and leaves no half alone; the
scrollback is erased by itself. -/
theorem erase_exactly (hs : s.WellFormed) (hc : s.Coupled) :
    (∀ e : Erasure, s.perform e.operation = s.wipe (e.covers s.cursor) ∧
      (s.perform e.operation).Coupled) ∧
    s.perform (.eraseInDisplay 3) = { s with scrollback.lines := [] } := by
  refine ⟨fun e => ?_, rfl⟩
  rw [perform_erasure hs hc e]
  exact ⟨rfl, hc.wipe _⟩

/-- The row of the cursor is erased from the right half of a character on, with a wrap
pending: its left half is gone too, on plain paper, and the row runs on no more. -/
theorem erase_exactly_half :
    let s := (initial 3 2 0).performAll [.print 'a', .print '世', .print 'b', .moveTo 0 1,
      .print '世', .setPen { bg := .indexed 4 }]
    s.WellFormed ∧ s.Coupled ∧ s.grid.map (·.wrapped) = [true, false] ∧
      s.cursor.pendingWrap = true ∧
      s.perform (Erasure.line .fromCursor).operation =
        { s with
          primary := [
            { cells := [{ content := "a" }, { content := "", pen := {}, tail := false },
                { content := "", pen := { bg := .indexed 4 }, tail := false }]
              wrapped := false },
            { cells := [{ content := "b" }, {}, {}] }]
          cursor.pendingWrap := false } := by
  intro s
  have hs : s.WellFormed := (wellFormed_initial 3 2 0).performAll _
  have hc : s.Coupled := by decide +kernel
  refine ⟨hs, hc, by decide +kernel, by decide +kernel, ?_⟩
  rw [((erase_exactly hs hc).1 (.line .fromCursor)).1]
  decide +kernel

end Screen

end Teletype

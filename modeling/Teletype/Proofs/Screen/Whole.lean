import Teletype.Proofs.Screen.Paired

/-!
# Runs that keep characters whole

The steps other than printing, and from them every run. A screen of whole
characters stays one under every step that splits none
(`AllRows.paired_perform`), and it is not even `Whole` behind a step that does
(`AllRows.not_whole_perform`). So a run of a new screen shows `Whole` screens
only, up to its end, exactly if it splits no character.
-/

namespace Teletype.Screen

variable {s : Screen} {op : Operation}

namespace AllRows

/-! ## Inserting and deleting -/

theorem paired_insertChars (h : s.AllRows Row.Paired) (hw : s.WellFormed) {n : Nat}
    (hwhole : s.opensInside n = false) : (s.insertChars n).AllRows Row.Paired := by
  obtain ⟨l, hl, hmem, hlen, hcells⟩ := hw.exists_cursorLine
  rw [opensInside, hcells] at hwhole
  refine (h.mapCells fun k hk => ?_).withCursor _
  obtain rfl : l = k := Option.some.inj (hl.symm.trans hk)
  exact (h.grid l hmem).paired_openAt (hlen ▸ hw.col_lt) hwhole

theorem not_whole_insertChars (h : s.AllRows Row.Paired) (hw : s.WellFormed) {n : Nat}
    (hsplit : s.opensInside n = true) : ¬ (s.insertChars n).Whole := by
  obtain ⟨l, hl, hmem, hlen, hcells⟩ := hw.exists_cursorLine
  rw [opensInside, hcells] at hsplit
  have hget := getElem?_grid_mapCells hl (Row.openAt s.cursor.col n)
  exact not_whole_of_read (List.mem_of_getElem? hget)
    ((h.grid l hmem).openAt_read_eq_none (hlen ▸ hw.col_lt) hsplit)

theorem paired_deleteChars (h : s.AllRows Row.Paired) (hw : s.WellFormed) {n : Nat}
    (hwhole : (n == 0 && s.cursorCells[s.cursor.col]?.any (·.width == 2)) = false) :
    (s.deleteChars n).AllRows Row.Paired := by
  obtain ⟨l, hl, hmem, hlen, hcells⟩ := hw.exists_cursorLine
  have hlt : s.cursor.col < l.cells.length := by
    rw [hlen]
    exact hw.col_lt
  have hcell := List.getElem?_eq_getElem hlt
  rw [hcells, hcell, Option.any_some] at hwhole
  refine (h.mapCells fun k hk => ?_).withCursor _
  obtain rfl : l = k := Option.some.inj (hl.symm.trans hk)
  refine (h.grid l hmem).closeAt hcell fun hn => ?_
  rw [hn, beq_self_eq_true, Bool.true_and] at hwhole
  exact beq_eq_false_iff_ne.mp hwhole

theorem not_whole_deleteChars (h : s.AllRows Row.Paired) (hw : s.WellFormed) {n : Nat}
    (hsplit : (n == 0 && s.cursorCells[s.cursor.col]?.any (·.width == 2)) = true) :
    ¬ (s.deleteChars n).Whole := by
  obtain ⟨l, hl, hmem, hlen, hcells⟩ := hw.exists_cursorLine
  obtain ⟨hn, hwide⟩ := Bool.and_eq_true_iff.mp hsplit
  rw [hcells] at hwide
  obtain ⟨c, hc, hwidth⟩ := (Option.any_eq_true _ _).mp hwide
  obtain rfl : n = 0 := beq_iff_eq.mp hn
  have hget := getElem?_grid_mapCells hl (Row.closeAt s.cursor.col 0)
  exact not_whole_of_read (List.mem_of_getElem? hget)
    ((h.grid l hmem).closeAt_zero hc (beq_iff_eq.mp hwidth))

/-! ## Grids and sizes -/

theorem paired_alignmentTest (h : s.AllRows Row.Paired) :
    s.alignmentTest.AllRows Row.Paired :=
  have hletter : (Cell.written 'E' {}).Proper :=
    { bare := fun ht => absurd ht Bool.false_ne_true, narrow := by decide }
  h.alignmentTest fun n => Row.paired_replicate hletter rfl (by decide) n

/-- **A resize keeps characters whole**, the one grid being laid out anew and
the other one cut. -/
theorem paired_resize (h : s.AllRows Row.Paired) {cols rows : Nat} (hcols : 2 ≤ max cols 1) :
    (s.resize cols rows).AllRows Row.Paired := by
  have hall : ∀ l ∈ s.scrollback.lines ++ s.primary, Row.Paired l.cells := fun l hl =>
    (List.mem_append.mp hl).elim (h.scrollback l) (h.primary l)
  exact h.resize Row.paired_blanks (paired_reflow hcols hall) fun l hl => hl.resize _

/-! ## Every operation -/

/-- **A step that splits no character keeps all of them whole.** -/
theorem paired_perform (h : s.AllRows Row.Paired) (hw : s.WellFormed) (hcols : 2 ≤ s.cols)
    (hcols' : 2 ≤ (s.perform op).cols) (hbase : s.BaseWidths)
    (hbase' : (s.perform op).BaseWidths) (hwhole : s.splits op = false) :
    (s.perform op).AllRows Row.Paired := by
  refine h.perform hw Row.paired_blanks
    (fun _ _ _ bg hfirst hlast hp => hp.erase hfirst hlast bg) fun hop => ?_
  cases op with
  | print c => exact paired_print hw h hcols hbase hbase' hwhole
  | insertChars n => exact h.paired_insertChars hw hwhole
  | deleteChars n => exact h.paired_deleteChars hw hwhole
  | alignmentTest => exact h.paired_alignmentTest
  | resize cols rows => exact h.paired_resize (by rwa [← cols_resize s cols rows])
  | _ => cases hop

/-- **A step that splits a character is seen at once.** -/
theorem not_whole_perform (h : s.AllRows Row.Paired) (hw : s.WellFormed) (hcols : 2 ≤ s.cols)
    (hsplit : s.splits op = true) : ¬ (s.perform op).Whole := by
  cases op with
  | print c => exact not_whole_print hw h hcols hsplit
  | insertChars n => exact h.not_whole_insertChars hw hsplit
  | deleteChars n => exact h.not_whole_deleteChars hw hsplit
  | _ => cases hsplit

end AllRows

/-! ## Runs -/

/-- From a screen of whole characters on. -/
theorem along_whole_iff_of_paired {ops : List Operation} (h : s.AllRows Row.Paired)
    (hw : s.WellFormed) (hcols : s.Along (2 ≤ ·.cols) ops) (hbase : s.Along BaseWidths ops) :
    s.Along Whole ops ↔ s.EachStep (fun t op => t.splits op = false) ops := by
  induction ops generalizing s with
  | nil => exact ⟨fun _ => trivial, fun _ => h.whole hw⟩
  | cons op rest ih =>
    obtain ⟨hcols, hcols'⟩ := hcols
    obtain ⟨hbase, hbase'⟩ := hbase
    cases hsplit : s.splits op with
    | true =>
      -- the step splits a character, and the screen behind it shows that
      have hnot := h.not_whole_perform hw hcols hsplit
      refine ⟨fun hall => absurd hall.2.first hnot, fun hall => ?_⟩
      cases hsplit.symm.trans hall.1
    | false =>
      -- the invariant is kept, so the rest of the run decides
      have hnext := h.paired_perform hw hcols hcols'.first hbase hbase'.first hsplit
      have hrest := ih hnext (hw.perform op) hcols' hbase'
      exact ⟨fun hall => ⟨hsplit, hrest.mp hall.2⟩, fun hall => ⟨h.whole hw, hrest.mpr hall.2⟩⟩

/-- **A run keeps its characters whole exactly if no step of it splits one**, on
every screen that never has fewer than two columns. -/
theorem along_whole_iff {cols rows capacity : Nat} {ops : List Operation}
    (hcols : (initial cols rows capacity).Along (2 ≤ ·.cols) ops)
    (hbase : (initial cols rows capacity).Along BaseWidths ops) :
    (initial cols rows capacity).Along Whole ops ↔
      (initial cols rows capacity).EachStep (fun s op => s.splits op = false) ops :=
  along_whole_iff_of_paired (.initial Row.paired_blanks cols rows capacity)
    (wellFormed_initial cols rows capacity) hcols hbase

/-- In three columns, the second character is wrapped and then cut in half by
opening a cell at its left half. -/
theorem along_whole_iff_three_columns :
    (initial 3 2 5).Along (2 ≤ ·.cols) [.print '中', .print '文', .moveToCol 0, .insertChars 1] ∧
      (initial 3 2 5).Along BaseWidths
        [.print '中', .print '文', .moveToCol 0, .insertChars 1] ∧
      ((initial 3 2 5).Along Whole [.print '中', .print '文', .moveToCol 0, .insertChars 1] ↔
        (initial 3 2 5).EachStep (fun s op => s.splits op = false)
          [.print '中', .print '文', .moveToCol 0, .insertChars 1]) :=
  ⟨by decide +kernel, by decide +kernel, along_whole_iff (by decide +kernel) (by decide +kernel)⟩

/-- A cell opened at the left half of a character leaves that half alone. -/
theorem insertChars_leaves_half :
    (initial 6 1 0).Along (2 ≤ ·.cols) [.print '中', .moveToCol 0, .insertChars 1] ∧
      (initial 6 1 0).Along BaseWidths [.print '中', .moveToCol 0, .insertChars 1] ∧
      ¬ ((initial 6 1 0).performAll [.print '中', .moveToCol 0, .insertChars 1]).Whole := by
  decide +kernel

end Teletype.Screen

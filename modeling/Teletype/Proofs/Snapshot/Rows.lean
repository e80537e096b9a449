import Teletype.Proofs.Emulator.Run
import Teletype.Proofs.Json.ReadBack

/-!
# The rows of a snapshot

A snapshot keeps other cells than the screen does, and it ends its text elsewhere: no row
behind the last one that is not empty is shown, and every row that is shown ends with a
newline (`ShowsRows`). Both texts tell the same rows all the same, and so does the text of
the snapshot that is read back (`Screen.snapshots_show_rows`).
-/

namespace Teletype

/-! ## Texts between separators -/

section Separated

variable {α : Type} {sep : List α}

/-- Texts that each end with the separator are the texts between separators, and one more
separator. -/
theorem flatMap_append_sep {texts : List (List α)} (h : texts ≠ []) :
    texts.flatMap (· ++ sep) = sep.intercalate texts ++ sep := by
  induction texts with
  | nil => exact absurd rfl h
  | cons first others ih =>
    cases others with
    | nil => simp
    | cons second rest =>
      rw [List.flatMap_cons, ih (List.cons_ne_nil _ _), List.intercalate_cons_cons]
      simp only [List.append_assoc]

/-- Of empty texts at the end only the separators are left. -/
theorem intercalate_append_empty {texts empties : List (List α)} (hne : texts ≠ [])
    (h : ∀ text ∈ empties, text = []) :
    sep.intercalate (texts ++ empties) = sep.intercalate texts ++ empties.flatMap fun _ => sep := by
  have hempties : empties.flatMap (sep ++ ·) = empties.flatMap fun _ => sep := by
    rw [List.flatMap_def, List.flatMap_def]
    refine congrArg List.flatten (List.map_congr_left fun text hmem => ?_)
    rw [h text hmem, List.append_nil]
  cases texts with
  | nil => exact absurd rfl hne
  | cons first others =>
    rw [List.cons_append, Json.intercalate_cons, Json.intercalate_cons, List.flatMap_append,
      hempties, List.append_assoc]

/-- The last text stands at the end. -/
theorem exists_intercalate_concat (front : List (List α)) (last : List α) :
    ∃ before, sep.intercalate (front ++ [last]) = before ++ last := by
  cases front with
  | nil => exact ⟨[], List.intercalate_singleton⟩
  | cons first others =>
    refine ⟨first ++ (others.flatMap (sep ++ ·) ++ sep), ?_⟩
    rw [List.cons_append, Json.intercalate_cons, List.flatMap_append]
    simp

end Separated

/-! ## Rows up to the last one that is not empty -/

/-- Whether a text shows the rows up to the last one that is not empty, but at least the
first one, each ended by a newline. -/
def ShowsRows (text : String) (rows : List String) : Prop :=
  ∃ shown hidden, rows = shown ++ hidden ∧ text = String.join (shown.map (· ++ "\n")) ∧
    (∀ row ∈ hidden, row = "") ∧ shown ≠ [] ∧
    ∀ row ∈ shown.getLast?, row = "" → shown.length = 1

/-- The text without the newlines at its end. -/
def trimNewlines (s : String) : String :=
  String.ofList (Text.dropEndWhile (· == '\n') s.toList)

/-- A row that is shown last is the only one, or the rows end with it and not with a newline. -/
theorem dropEndWhile_shown {shown : List String} (hrows : ∀ row ∈ shown, '\n' ∉ row.toList)
    (hlast : ∀ row ∈ shown.getLast?, row = "" → shown.length = 1) :
    Text.dropEndWhile (· == '\n') (['\n'].intercalate (shown.map String.toList)) =
      ['\n'].intercalate (shown.map String.toList) := by
  rcases List.eq_nil_or_concat shown with rfl | ⟨front, last, rfl⟩
  · rfl
  rw [List.concat_eq_append] at hrows hlast ⊢
  by_cases hempty : last = ""
  · have hfront : front = [] := by simpa using hlast last (by simp) hempty
    subst hfront hempty
    rfl
  · -- the last character is one of the last row
    have hnil : last.toList ≠ [] := fun heq => hempty (String.toList_inj.mp heq)
    obtain ⟨before, hbefore⟩ :
        ∃ before, ['\n'].intercalate (front.map String.toList ++ [last.toList]) =
          before ++ last.toList :=
      exists_intercalate_concat _ _
    rw [List.map_append, List.map_singleton, hbefore]
    refine Text.dropEndWhile_eq_self fun c hc => ?_
    rw [List.getLast?_append, List.getLast?_eq_some_getLast hnil, Option.some_or] at hc
    have hmem : c ∈ last.toList := Option.mem_some.mp hc ▸ List.getLast_mem hnil
    exact beq_eq_false_iff_ne.mpr fun heq => hrows last (by simp) (heq ▸ hmem)

/-- The newlines behind the last row that is shown are those of the rows that are not. -/
theorem ShowsRows.eq_trimNewlines {text : String} {rows : List String} (h : ShowsRows text rows)
    (hrows : ∀ row ∈ rows, '\n' ∉ row.toList) :
    text = trimNewlines ("\n".intercalate rows) ++ "\n" := by
  obtain ⟨shown, hidden, rfl, rfl, hempty, hne, hlast⟩ := h
  have hshown : (String.join (shown.map (· ++ "\n"))).toList =
      ['\n'].intercalate (shown.map String.toList) ++ ['\n'] := by
    rw [← flatMap_append_sep (by simpa using hne)]
    simp [String.toList_join, List.flatMap_map]
  have hall : ("\n".intercalate (shown ++ hidden)).toList =
      ['\n'].intercalate (shown.map String.toList) ++
        (hidden.map String.toList).flatMap fun _ => ['\n'] := by
    rw [String.toList_intercalate, List.map_append]
    exact intercalate_append_empty (by simpa using hne) (by simpa using hempty)
  have htrim := dropEndWhile_shown (fun row hmem => hrows row (List.mem_append_left _ hmem)) hlast
  rw [← String.toList_inj, hshown, String.toList_append, trimNewlines, String.toList_ofList, hall,
    Text.dropEndWhile_append (by simp), htrim]
  rfl

/-! ## The text of a snapshot -/

namespace Snapshot

/-- The first row is shown also where all are empty. -/
theorem showsRows_text {s : Snapshot} (h : s.grid ≠ []) :
    ShowsRows s.text (s.grid.map rowText) := by
  have hne : s.grid.map rowText ≠ [] := by simpa using h
  have hlast : ∀ row ∈ (Text.dropEndWhile String.isEmpty (s.grid.map rowText)).getLast?,
      row.isEmpty = false := fun row => Text.eq_false_of_mem_getLast?_dropEndWhile
  obtain ⟨hidden, hrows, hempty⟩ :=
    Text.exists_dropEndWhile_append String.isEmpty (s.grid.map rowText)
  unfold text
  dsimp only
  generalize Text.dropEndWhile String.isEmpty (s.grid.map rowText) = kept at *
  rw [hrows] at hne ⊢
  cases kept with
  | nil =>
    -- all rows are empty, and the first of them is shown
    cases hidden with
    | nil => exact absurd rfl hne
    | cons first others =>
      refine ⟨[first], others, rfl, rfl, fun row hmem => ?_, List.cons_ne_nil _ _, fun _ _ _ => rfl⟩
      exact String.isEmpty_iff.mp (hempty row (List.mem_cons_of_mem _ hmem))
  | cons first others =>
    have hused : max 1 (first :: others).length = (first :: others).length :=
      Nat.max_eq_right (Nat.succ_pos _)
    refine ⟨first :: others, hidden, rfl, ?_, fun row hmem => ?_, List.cons_ne_nil _ _,
      fun row hmem heq => ?_⟩
    · rw [hused, List.take_left]
    · exact String.isEmpty_iff.mp (hempty row hmem)
    · exact absurd (String.isEmpty_iff.mpr heq) (by simp [hlast row hmem])

/-- A cell has no columns just where it is the right half of a character. -/
theorem width_ofCell_ne_zero (c : Cell) :
    decide ((CellSnapshot.ofCell c).width ≠ 0) = !c.tail := by
  cases htail : c.tail with
  | true => simp [CellSnapshot.ofCell, htail]
  | false =>
    have hwidth : max 1 (min c.width 2) = 1 ∨ max 1 (min c.width 2) = 2 := by omega
    rcases hwidth with hwidth | hwidth <;> simp [CellSnapshot.ofCell, htail, hwidth]

/-- **The cells of a row that a snapshot keeps have the text of the row.** -/
theorem rowText_ofCell (l : Line) : rowText (l.cells.map .ofCell) = l.text := by
  have hfilter : (l.cells.map CellSnapshot.ofCell).filter (·.width ≠ 0) =
      (l.cells.filter (!·.tail)).map .ofCell := by
    rw [List.filter_map]
    exact congrArg _ (List.filter_congr fun c _ => width_ofCell_ne_zero c)
  rw [rowText, hfilter, List.map_map]
  rfl

variable {s : Screen}

/-- The rows of a snapshot are those on display. -/
theorem grid_ofScreen (h : s.WellFormed) (title : String) :
    (ofScreen s title).grid = s.grid.map fun l => l.cells.map .ofCell := by
  have hlen := h.grid.length_eq
  refine List.ext_getElem (by simp [ofScreen, hlen]) fun row hrow hrow' => ?_
  rw [List.length_map] at hrow'
  have hline : s.line? row = some s.grid[row] := List.getElem?_eq_getElem hrow'
  simp [ofScreen, hline]

theorem map_rowText_ofScreen (h : s.WellFormed) (title : String) :
    (ofScreen s title).grid.map rowText = s.grid.map Line.text := by
  rw [grid_ofScreen h, List.map_map]
  exact List.map_congr_left fun l _ => rowText_ofCell l

/-- A row has no newline unless one of its cells does. -/
theorem newline_not_mem_text {l : Line} (h : ∀ c ∈ l.cells, '\n' ∉ c.content.toList) :
    '\n' ∉ l.text.toList := by
  intro hmem
  obtain ⟨spaces, htext, -⟩ := Text.exists_dropEndWhile_append (· == ' ') l.fullText.toList
  have hfull : '\n' ∈ l.fullText.toList := by
    rw [htext]
    refine List.mem_append_left _ ?_
    simpa [Line.text, Text.trimSpaces] using hmem
  rw [Line.fullText, String.toList_join, List.flatMap_map] at hfull
  obtain ⟨c, hc, hshown⟩ := List.mem_flatMap.mp hfull
  have hcontent := h c (List.mem_filter.mp hc).1
  unfold Cell.shown at hshown
  split at hshown
  · revert hshown
    decide
  · exact hcontent hshown

end Snapshot

/-! ## Both texts of a screen -/

namespace Screen

/-- Whether a text shows the rows on display. Where no cell holds a newline it is the text
of the screen, without the newlines at its end and with one behind it. -/
structure ShownBy (s : Screen) (text : String) : Prop where
  rows : ShowsRows text (s.grid.map Line.text)
  text : (∀ l ∈ s.grid, ∀ c ∈ l.cells, '\n' ∉ c.content.toList) →
    text = trimNewlines s.text ++ "\n"

/-- Whether the counts that a snapshot takes of a screen are numbers of 64 bits. -/
structure Countable (s : Screen) : Prop where
  cols : s.cols < UInt64.size
  rows : s.rows < UInt64.size
  capacity : s.scrollback.capacity < UInt64.size

/-- Whether the snapshot of a screen shows what the screen does, also once it was written
and read back. -/
structure TextsAgree (s : Screen) (title : String) : Prop where
  taken : s.ShownBy (Snapshot.ofScreen s title).text
  readBack : s.Countable → ∃ back,
    Snapshot.parse? (Snapshot.ofScreen s title).render = some back ∧ s.ShownBy back.text

namespace WellFormed

variable {s : Screen}

theorem shownBy_ofScreen (h : s.WellFormed) (title : String) :
    s.ShownBy (Snapshot.ofScreen s title).text := by
  have hrows : ShowsRows (Snapshot.ofScreen s title).text (s.grid.map Line.text) := by
    have hne : (Snapshot.ofScreen s title).grid ≠ [] := by
      have hpos := h.rows_pos
      have hlen := h.grid.length_eq
      rw [Snapshot.grid_ofScreen h]
      intro hnil
      rw [List.map_eq_nil_iff.mp hnil] at hlen
      exact absurd hlen.symm (Nat.ne_of_gt hpos)
    have hshown := Snapshot.showsRows_text hne
    rwa [Snapshot.map_rowText_ofScreen h] at hshown
  refine ⟨hrows, fun hcells => hrows.eq_trimNewlines fun row hmem => ?_⟩
  obtain ⟨l, hl, rfl⟩ := List.mem_map.mp hmem
  exact Snapshot.newline_not_mem_text (hcells l hl)

theorem fits_ofScreen (h : s.WellFormed) (hs : s.Countable) (title : String) :
    (Snapshot.ofScreen s title).Fits where
  cols := hs.cols
  rows := hs.rows
  col := Nat.lt_trans h.col_lt hs.cols
  row := Nat.lt_trans h.row_lt hs.rows
  scrollbackLines := Nat.lt_of_le_of_lt h.bounded hs.capacity

theorem textsAgree (h : s.WellFormed) (title : String) : s.TextsAgree title where
  taken := h.shownBy_ofScreen title
  readBack hs :=
    ⟨_, Snapshot.parse?_render (h.fits_ofScreen hs title), h.shownBy_ofScreen title⟩

end WellFormed

/-- **The two texts of a screen agree.** Whatever was done to a new screen of any size, or
reached an emulator, the text of a snapshot shows the rows on display up to the last one that
is not empty, and so does the text of the snapshot that is read back from what is written of
it. -/
theorem snapshots_show_rows (cols rows capacity : Nat) (title : String) :
    (∀ ops : List Operation,
      ((initial cols rows capacity).performAll ops).TextsAgree title) ∧
    ∀ inputs : List Emulator.Input,
      ((Emulator.initial cols rows capacity).takeAll inputs).screen.TextsAgree title := by
  have h := wellFormed_initial cols rows capacity
  have hemulator : (Emulator.initial cols rows capacity).screen.WellFormed := h
  refine ⟨fun ops => (h.performAll ops).textsAgree title, fun inputs => ?_⟩
  exact (Emulator.takeAll?_eq hemulator inputs).2.textsAgree title

/-- A wide character, a mark, and blank rows in between and at the end. -/
theorem snapshots_show_rows_wide :
    let s := (initial 4 4 0).performAll
      [.print '字', .print 'e', .print '\u0301', .moveTo 2 1, .print 'x']
    s.text = "字e\u0301\n\n x\n" ∧ s.Countable ∧
      ∃ back, Snapshot.parse? (Snapshot.ofScreen s "\"").render = some back ∧
        back.text = "字e\u0301\n\n x\n" := by
  intro s
  have htext : s.text = "字e\u0301\n\n x\n" := by decide +kernel
  have htrimmed : trimNewlines s.text ++ "\n" = "字e\u0301\n\n x\n" := by decide +kernel
  have hcells : ∀ l ∈ s.grid, ∀ c ∈ l.cells, '\n' ∉ c.content.toList := by decide +kernel
  have hcount : s.Countable := ⟨by decide +kernel, by decide +kernel, by decide +kernel⟩
  have hagree := (snapshots_show_rows 4 4 0 "\"").1
    [.print '字', .print 'e', .print '\u0301', .moveTo 2 1, .print 'x']
  obtain ⟨back, hback, hshown⟩ := hagree.readBack hcount
  exact ⟨htext, hcount, back, hback, (hshown.text hcells).trans htrimmed⟩

end Screen

end Teletype

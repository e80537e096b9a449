import Teletype.Proofs.Screen.Operation

/-!
# Well-formed screens

A screen is well formed when both grids have its size, every row above them has
its width, and the cursor, the margins and the tab stops are inside. A new
screen is, every operation keeps it (`WellFormed.perform`), and so every run
does.

Rows change in three ways only: a row keeps its length, rows of a grid change
places with new rows of the same width, or a resize lays all of them out anew.
Each way has one lemma, and the operations are read off them.
-/

namespace Teletype

/-- So many rows of so many cells. -/
structure Grid.HasSize (g : Grid) (cols rows : Nat) : Prop where
  length_eq : g.length = rows
  length_cells : ∀ l ∈ g, l.cells.length = cols

/-- Only the element at the index is another one. -/
theorem mem_modify {α : Type} {f : α → α} {xs : List α} {i : Nat} {x : α}
    (h : x ∈ xs.modify i f) : (∃ y, xs[i]? = some y ∧ x = f y) ∨ x ∈ xs := by
  obtain ⟨j, hj⟩ := List.mem_iff_getElem?.mp h
  rw [List.getElem?_modify] at hj
  obtain ⟨y, hy, rfl⟩ := Option.map_eq_some_iff.mp hj
  by_cases hi : i = j
  · subst hi
    rw [if_pos rfl]
    exact .inl ⟨y, hy, rfl⟩
  · rw [if_neg hi]
    exact .inr (List.mem_of_getElem? hy)

/-! ## Grids -/

namespace Grid

variable {g : Grid} {l fill : Line} {top bottom n : Nat}

/-- Rows that are moved are rows of the grid or new ones. -/
theorem mem_shiftUp (h : l ∈ g.shiftUp top bottom n fill) : l ∈ g ∨ l = fill := by
  simp only [shiftUp, List.mem_append] at h
  rcases h with h | h | h | h
  · exact .inl (List.mem_of_mem_take h)
  · exact .inl (List.mem_of_mem_take (List.mem_of_mem_drop h))
  · exact .inr (List.eq_of_mem_replicate h)
  · exact .inl (List.mem_of_mem_drop h)

theorem mem_shiftDown (h : l ∈ g.shiftDown top bottom n fill) : l ∈ g ∨ l = fill := by
  simp only [shiftDown, List.mem_append] at h
  rcases h with h | h | h | h
  · exact .inl (List.mem_of_mem_take h)
  · exact .inr (List.eq_of_mem_replicate h)
  · exact .inl (List.mem_of_mem_take (List.mem_of_mem_drop h))
  · exact .inl (List.mem_of_mem_drop h)

theorem mem_fitRows {cols rows : Nat} (h : l ∈ Screen.fitRows cols rows g) :
    l ∈ g ∨ l = .blank cols := by
  rcases List.mem_append.mp h with h | h
  · exact .inl (List.mem_of_mem_take h)
  · exact .inr (List.eq_of_mem_replicate h)

end Grid

namespace Grid.HasSize

variable {g : Grid} {cols rows : Nat}

theorem ofBlank (cols rows : Nat) : (Grid.blank cols rows).HasSize cols rows where
  length_eq := List.length_replicate
  length_cells l hl := by
    rw [List.eq_of_mem_replicate hl, Line.length_blank]

theorem map (h : g.HasSize cols rows) {f : Line → Line}
    (hf : ∀ l, (f l).cells.length = l.cells.length) : Grid.HasSize (g.map f) cols rows where
  length_eq := by rw [List.length_map, h.length_eq]
  length_cells l hl := by
    obtain ⟨k, hk, rfl⟩ := List.mem_map.mp hl
    rw [hf, h.length_cells k hk]

theorem mapIdx (h : g.HasSize cols rows) {f : Nat → Line → Line}
    (hf : ∀ i l, (f i l).cells.length = l.cells.length) : Grid.HasSize (g.mapIdx f) cols rows where
  length_eq := by rw [List.length_mapIdx, h.length_eq]
  length_cells l hl := by
    obtain ⟨i, hi, rfl⟩ := List.mem_mapIdx.mp hl
    rw [hf, h.length_cells _ (List.getElem_mem hi)]

theorem modify (h : g.HasSize cols rows) {f : Line → Line} (row : Nat)
    (hf : ∀ l, l.cells.length = cols → (f l).cells.length = cols) :
    Grid.HasSize (g.modify row f) cols rows where
  length_eq := by rw [List.length_modify, h.length_eq]
  length_cells l hl := by
    rcases mem_modify hl with ⟨k, hk, rfl⟩ | hl
    · exact hf k (h.length_cells k (List.mem_of_getElem? hk))
    · exact h.length_cells l hl

/-- Rows that change places with blank rows of the same width. -/
theorem shiftUp (h : g.HasSize cols rows) {top bottom n : Nat} (hn : top + n ≤ bottom + 1)
    (hb : bottom < rows) : Grid.HasSize (g.shiftUp top bottom n (.blank cols)) cols rows where
  length_eq := by rw [length_shiftUp _ hn (h.length_eq ▸ hb), h.length_eq]
  length_cells l hl := by
    rcases mem_shiftUp hl with hl | rfl
    · exact h.length_cells l hl
    · exact Line.length_blank cols

theorem shiftDown (h : g.HasSize cols rows) {top bottom n : Nat} (hn : top + n ≤ bottom + 1)
    (hb : bottom < rows) : Grid.HasSize (g.shiftDown top bottom n (.blank cols)) cols rows where
  length_eq := by rw [length_shiftDown _ hn (h.length_eq ▸ hb), h.length_eq]
  length_cells l hl := by
    rcases mem_shiftDown hl with hl | rfl
    · exact h.length_cells l hl
    · exact Line.length_blank cols

/-- A grid cut or filled has the size whatever its number of rows was. -/
theorem fitRows (hg : ∀ l ∈ g, l.cells.length = cols) :
    (Screen.fitRows cols rows g).HasSize cols rows where
  length_eq := by
    simp only [Screen.fitRows, List.length_append, List.length_take, List.length_replicate]
    omega
  length_cells l hl := by
    rcases mem_fitRows hl with hl | rfl
    · exact hg l hl
    · exact Line.length_blank cols

end Grid.HasSize

/-! ## The scrollback -/

namespace Scrollback

theorem mem_of_mem_push {s : Scrollback} {line l : Line} (h : l ∈ (s.push line).lines) :
    l ∈ s.lines ∨ l = line := by
  simpa using List.mem_of_mem_drop h

/-- The transcript holds nothing but what it held and what was pushed. -/
theorem mem_of_mem_pushAll {s : Scrollback} {lines : List Line} {l : Line}
    (h : l ∈ (s.pushAll lines).lines) : l ∈ s.lines ∨ l ∈ lines := by
  induction lines generalizing s with
  | nil => exact .inl h
  | cons line rest ih =>
    rcases ih h with h | h
    · rcases mem_of_mem_push h with h | rfl
      · exact .inl h
      · exact .inr List.mem_cons_self
    · exact .inr (List.mem_cons_of_mem _ h)

theorem length_pushAll_le {s : Scrollback} (h : s.lines.length ≤ s.capacity) (lines : List Line) :
    (s.pushAll lines).lines.length ≤ s.capacity := by
  rw [lines_pushAll]
  split
  · exact h
  · exact length_newest_le _ _

end Scrollback

/-! ## Reflow -/

namespace Reflow

theorem length_of_mem_asLines {cols : Nat} {rows : List (List Cell)} {l : Line}
    (h : l ∈ asLines cols rows) : l.cells.length = cols := by
  induction rows with
  | nil => cases h
  | cons row rest ih =>
    cases rest with
    | nil =>
      rw [List.mem_singleton.mp h]
      exact Line.length_fit cols row
    | cons next others =>
      rcases List.mem_cons.mp h with rfl | h
      · exact Line.length_fit cols row
      · exact ih h

theorem length_of_mem_layAll {cols : Nat} {pendingWrap : Bool} {ps : List Paragraph} {l : Line}
    (h : l ∈ (layAll cols pendingWrap ps).1) : l.cells.length = cols := by
  induction ps with
  | nil => cases h
  | cons p rest ih =>
    rcases List.mem_append.mp h with h | h
    · exact length_of_mem_asLines h
    · exact ih h

end Reflow

/-- Every row that is laid out anew has the new width. -/
theorem length_of_mem_reflow {cols : Nat} {rows : List Line} {cursor : Option Position} {l : Line}
    (h : l ∈ (reflow cols rows cursor).1) : l.cells.length = cols := by
  rcases mem_of_mem_reflow h with h | rfl
  · exact Reflow.length_of_mem_layAll h
  · exact Line.length_blank cols

/-! ## The cursor -/

namespace Cursor

theorem col_clamp_lt (c : Cursor) {cols rows : Nat} (h : 0 < cols) :
    (c.clamp cols rows).col < cols := by
  unfold clamp
  split
  · exact Nat.sub_lt h Nat.one_pos
  · next hc => exact Nat.lt_of_not_le hc

theorem row_clamp_lt (c : Cursor) {cols rows : Nat} (h : 0 < rows) :
    (c.clamp cols rows).row < rows := by
  show min _ (rows - 1) < rows
  omega

end Cursor

namespace Screen

/-- Everything is inside the screen. -/
structure WellFormed (s : Screen) : Prop where
  cols_pos : 0 < s.cols
  rows_pos : 0 < s.rows
  primary : s.primary.HasSize s.cols s.rows
  alternate : s.alternate.HasSize s.cols s.rows
  scrollback : ∀ l ∈ s.scrollback.lines, l.cells.length = s.cols
  bounded : s.scrollback.lines.length ≤ s.scrollback.capacity
  col_lt : s.cursor.col < s.cols
  row_lt : s.cursor.row < s.rows
  top_le : s.top ≤ s.bottom
  bottom_lt : s.bottom < s.rows
  tabs : s.tabs.length = s.cols

variable {s : Screen}

/-- A new screen is well formed, whatever size was asked for. -/
theorem wellFormed_initial (cols rows capacity : Nat) :
    (initial cols rows capacity).WellFormed where
  cols_pos := Nat.le_max_right _ _
  rows_pos := Nat.le_max_right _ _
  primary := .ofBlank _ _
  alternate := .ofBlank _ _
  scrollback l hl := by cases hl
  bounded := Nat.zero_le _
  col_lt := Nat.le_max_right _ _
  row_lt := Nat.le_max_right _ _
  top_le := Nat.zero_le _
  bottom_lt := Nat.sub_lt (Nat.le_max_right _ _) Nat.one_pos
  tabs := by simp [initial, initialTabs]

namespace WellFormed

theorem grid (h : s.WellFormed) : s.grid.HasSize s.cols s.rows := by
  unfold Screen.grid
  split
  · exact h.alternate
  · exact h.primary

/-! ## Updates -/

theorem withCursor (h : s.WellFormed) {c : Cursor} (hc : c.col < s.cols) (hr : c.row < s.rows) :
    { s with cursor := c }.WellFormed :=
  { h with col_lt := hc, row_lt := hr }

theorem mapGrid (h : s.WellFormed) {f : Grid → Grid}
    (hf : ∀ g : Grid, g.HasSize s.cols s.rows → (f g).HasSize s.cols s.rows) :
    (s.mapGrid f).WellFormed := by
  unfold Screen.mapGrid
  split
  · exact { h with alternate := hf _ h.alternate }
  · exact { h with primary := hf _ h.primary }

theorem mapRow (h : s.WellFormed) (row : Nat) {f : Line → Line}
    (hf : ∀ l, l.cells.length = s.cols → (f l).cells.length = s.cols) :
    (s.mapRow row f).WellFormed :=
  h.mapGrid fun _ hg => hg.modify row hf

theorem mapCells (h : s.WellFormed) (row : Nat) {f : List Cell → List Cell}
    (hf : ∀ cells, cells.length = s.cols → (f cells).length = s.cols) :
    (s.mapCells row f).WellFormed :=
  h.mapRow row fun l hl => hf l.cells hl

theorem pushAll (h : s.WellFormed) {lines : List Line}
    (hl : ∀ l ∈ lines, l.cells.length = s.cols) :
    { s with scrollback := s.scrollback.pushAll lines }.WellFormed :=
  { h with
    scrollback := fun l hm => (Scrollback.mem_of_mem_pushAll hm).elim (h.scrollback l) (hl l)
    bounded := by
      rw [Scrollback.capacity_pushAll]
      exact Scrollback.length_pushAll_le h.bounded lines }

theorem withMargins (h : s.WellFormed) {top bottom : Nat} (ht : top ≤ bottom)
    (hb : bottom < s.rows) : { s with top, bottom }.WellFormed :=
  { h with top_le := ht, bottom_lt := hb }

end WellFormed

/-- A stop looked up among columns of the screen is a column of the screen. -/
theorem getD_stops_lt {stops : List Nat} {cols last : Nat} (hs : ∀ i ∈ stops, i < cols)
    (hl : last < cols) (n : Nat) : stops.getD n last < cols := by
  rw [List.getD_eq_getElem?_getD]
  cases hn : stops[n]? with
  | none => exact hl
  | some i => exact hs i (List.mem_of_getElem? hn)

/-- What can become of a screen when a character is printed. A pending wrap comes
first, if there is one. -/
@[elab_as_elim]
theorem print_cases {motive : Screen → Prop} {c : Char} (combine : motive (s.combine c))
    (keep : ∀ t, t = s ∨ t = s.wrap → motive t)
    (write : ∀ t w, t = s ∨ t = s.wrap → motive (t.write c w))
    (wrapped : ∀ t w, t = s ∨ t = s.wrap →
      motive ((t.mapCells t.cursor.row (·.set t.cursor.col .blank)).wrap.write c w)) :
    motive (s.print c) := by
  have hbegun : ∀ b : Bool, (if b then s.wrap else s) = s ∨ (if b then s.wrap else s) = s.wrap := by
    intro b
    cases b with
    | false => exact .inl rfl
    | true => exact .inr rfl
  simp only [print]
  split
  · exact combine
  · have ht := hbegun (s.cursor.pendingWrap && s.cursor.autowrap)
    generalize (if s.cursor.pendingWrap && s.cursor.autowrap then s.wrap else s) = t at ht
    split
    · split
      · exact keep t ht
      · exact wrapped t _ ht
    · exact write t _ ht

/-! ## What updates leave alone -/

@[simp] theorem cols_mapGrid (f : Grid → Grid) : (s.mapGrid f).cols = s.cols := by
  unfold mapGrid
  split <;> rfl

@[simp] theorem rows_mapGrid (f : Grid → Grid) : (s.mapGrid f).rows = s.rows := by
  unfold mapGrid
  split <;> rfl

@[simp] theorem top_mapGrid (f : Grid → Grid) : (s.mapGrid f).top = s.top := by
  unfold mapGrid
  split <;> rfl

@[simp] theorem bottom_mapGrid (f : Grid → Grid) : (s.mapGrid f).bottom = s.bottom := by
  unfold mapGrid
  split <;> rfl

@[simp] theorem cols_mapCells (row : Nat) (f : List Cell → List Cell) :
    (s.mapCells row f).cols = s.cols :=
  cols_mapGrid _

@[simp] theorem cursor_mapCells (row : Nat) (f : List Cell → List Cell) :
    (s.mapCells row f).cursor = s.cursor :=
  cursor_mapGrid s _

@[simp] theorem cols_scrollUp (n : Nat) : (s.scrollUp n).cols = s.cols :=
  cols_mapGrid _

@[simp] theorem cols_advance : s.advance.cols = s.cols :=
  advance_cases (cols_scrollUp 1) (fun _ => rfl) rfl

@[simp] theorem cols_wrap : s.wrap.cols = s.cols := by
  simp [wrap, mapCursor, mapRow]

@[simp] theorem rows_advance : s.advance.rows = s.rows :=
  advance_cases (rows_mapGrid _) (fun _ => rfl) rfl

@[simp] theorem rows_wrap : s.wrap.rows = s.rows := by
  simp [wrap, mapCursor, mapRow]

theorem cols_resize (s : Screen) (cols rows : Nat) : (s.resize cols rows).cols = max cols 1 := by
  simp only [resize]
  split
  · next heq =>
    rw [Bool.and_eq_true, decide_eq_true_eq] at heq
    exact heq.1.symm
  · rfl

namespace WellFormed

/-! ## Moving the cursor -/

theorem moveTo (h : s.WellFormed) (row col : Nat) : (s.moveTo row col).WellFormed := by
  have hc := h.cols_pos
  have hr := h.rows_pos
  have hb := h.bottom_lt
  have hrow : (if s.cursor.originMode then min (s.top + row) s.bottom
      else min row (s.rows - 1)) < s.rows := by
    split <;> omega
  exact h.withCursor (show min col (s.cols - 1) < s.cols by omega) hrow

theorem moveToCol (h : s.WellFormed) (col : Nat) : (s.moveToCol col).WellFormed := by
  have hc := h.cols_pos
  refine h.withCursor ?_ h.row_lt
  show min col (s.cols - 1) < s.cols
  omega

theorem up (h : s.WellFormed) (n : Nat) : (s.up n).WellFormed := by
  have hr := h.row_lt
  have ht := h.top_le
  have hb := h.bottom_lt
  refine h.withCursor h.col_lt ?_
  show max (s.cursor.row - n) (if s.cursor.row < s.top then 0 else s.top) < s.rows
  split <;> omega

theorem down (h : s.WellFormed) (n : Nat) : (s.down n).WellFormed := by
  have hr := h.row_lt
  have hb := h.bottom_lt
  refine h.withCursor h.col_lt ?_
  show min (s.cursor.row + n) (if s.bottom < s.cursor.row then s.rows - 1 else s.bottom) < s.rows
  split <;> omega

theorem forward (h : s.WellFormed) (n : Nat) : (s.forward n).WellFormed := by
  have hc := h.cols_pos
  refine h.withCursor ?_ h.row_lt
  show min (s.cursor.col + n) (s.cols - 1) < s.cols
  omega

theorem backward (h : s.WellFormed) (n : Nat) : (s.backward n).WellFormed :=
  h.withCursor (Nat.lt_of_le_of_lt (Nat.sub_le _ _) h.col_lt) h.row_lt

theorem carriageReturn (h : s.WellFormed) : s.carriageReturn.WellFormed :=
  h.withCursor h.cols_pos h.row_lt

theorem settle (h : s.WellFormed) : s.settle.WellFormed :=
  h.withCursor h.col_lt h.row_lt

theorem tabForward (h : s.WellFormed) (n : Nat) : (s.tabForward n).WellFormed := by
  have hc := h.cols_pos
  refine h.withCursor ?_ h.row_lt
  show (if n = 0 then s.cursor.col else _) < s.cols
  split
  · exact h.col_lt
  · refine getD_stops_lt (fun i hi => ?_) (by omega) _
    simp only [tabStops, List.mem_filter, List.mem_range] at hi
    exact hi.1.1

theorem tabBackward (h : s.WellFormed) (n : Nat) : (s.tabBackward n).WellFormed := by
  refine h.withCursor ?_ h.row_lt
  show (if n = 0 then s.cursor.col else _) < s.cols
  split
  · exact h.col_lt
  · refine getD_stops_lt (fun i hi => ?_) h.cols_pos _
    simp only [tabStops, List.mem_reverse, List.mem_filter, List.mem_range] at hi
    exact hi.1.1

theorem withTabs (h : s.WellFormed) {tabs : List Bool} (ht : tabs.length = s.tabs.length) :
    { s with tabs }.WellFormed :=
  { h with tabs := by rw [ht, h.tabs] }

theorem clearMargins (h : s.WellFormed) : s.clearMargins.WellFormed :=
  h.withMargins (Nat.zero_le _) (Nat.sub_lt h.rows_pos Nat.one_pos)

theorem setMargins (h : s.WellFormed) (top bottom : Nat) :
    (s.setMargins top bottom).WellFormed := by
  have hr := h.rows_pos
  simp only [Screen.setMargins]
  split
  · exact (h.withMargins (by omega) (by omega)).moveTo 0 0
  · exact h.clearMargins.moveTo 0 0

theorem saveCursor (h : s.WellFormed) : s.saveCursor.WellFormed := by
  unfold Screen.saveCursor
  split <;> exact { h with }

/-- Whatever was saved, and on whatever size, the cursor comes back inside. -/
theorem restoreCursor (h : s.WellFormed) : s.restoreCursor.WellFormed := by
  have hc := h.cols_pos
  have hr := h.rows_pos
  refine h.withCursor ?_ ?_
  · show min _ (s.cols - 1) < s.cols
    omega
  · show min _ (s.rows - 1) < s.rows
    omega

/-! ## Moving rows -/

theorem shiftUp (h : s.WellFormed) (top n : Nat) (hn : top + n ≤ s.bottom + 1) :
    (s.mapGrid (·.shiftUp top s.bottom n (.blank s.cols))).WellFormed :=
  h.mapGrid fun _ hg => hg.shiftUp hn h.bottom_lt

theorem shiftDown (h : s.WellFormed) (top n : Nat) (hn : top + n ≤ s.bottom + 1) :
    (s.mapGrid (·.shiftDown top s.bottom n (.blank s.cols))).WellFormed :=
  h.mapGrid fun _ hg => hg.shiftDown hn h.bottom_lt

theorem scrollUp (h : s.WellFormed) (n : Nat) : (s.scrollUp n).WellFormed := by
  have ht := h.top_le
  have hg := h.shiftUp s.top (min n (s.bottom - s.top + 1)) (by omega)
  have hl : ∀ l ∈ (if !s.onAlternate && s.top == 0 then
      s.primary.take (min n (s.bottom - s.top + 1)) else []), l.cells.length = s.cols := by
    intro l hl
    split at hl
    · exact h.primary.length_cells l (List.mem_of_mem_take hl)
    · cases hl
  have hp := hg.pushAll (by rwa [cols_mapGrid])
  rw [scrollback_mapGrid] at hp
  exact hp

theorem scrollDown (h : s.WellFormed) (n : Nat) : (s.scrollDown n).WellFormed := by
  have ht := h.top_le
  have hg := h.shiftDown s.top (min n (s.bottom - s.top + 1)) (by omega)
  simp only [Screen.scrollDown]
  split
  · exact h
  · split
    · exact hg
    · exact hg.mapRow _ fun l hl => hl

theorem insertLines (h : s.WellFormed) (n : Nat) : (s.insertLines n).WellFormed := by
  unfold Screen.insertLines
  split
  · next hm =>
    simp only [inMargins, Bool.and_eq_true, decide_eq_true_eq] at hm
    exact (h.shiftDown _ _ (by omega)).carriageReturn
  · exact h

theorem deleteLines (h : s.WellFormed) (n : Nat) : (s.deleteLines n).WellFormed := by
  unfold Screen.deleteLines
  split
  · next hm =>
    simp only [inMargins, Bool.and_eq_true, decide_eq_true_eq] at hm
    exact (h.shiftUp _ _ (by omega)).carriageReturn
  · exact h

theorem advance (h : s.WellFormed) : s.advance.WellFormed :=
  advance_cases (h.scrollUp 1) (fun hr => h.withCursor h.col_lt hr) h

theorem index (h : s.WellFormed) : s.index.WellFormed :=
  h.settle.advance

theorem reverseIndex (h : s.WellFormed) : s.reverseIndex.WellFormed := by
  simp only [Screen.reverseIndex]
  split
  · exact h.settle.scrollDown 1
  · exact h.settle.withCursor h.col_lt (Nat.lt_of_le_of_lt (Nat.sub_le _ _) h.row_lt)

theorem nextLine (h : s.WellFormed) : s.nextLine.WellFormed :=
  h.index.withCursor h.index.cols_pos h.index.row_lt

theorem linefeed (h : s.WellFormed) : s.linefeed.WellFormed := by
  unfold Screen.linefeed
  split
  · exact h.nextLine
  · exact h.index

/-! ## Printing and erasing -/

theorem wrap (h : s.WellFormed) : s.wrap.WellFormed := by
  have hm := h.mapRow s.cursor.row (f := fun l => { l with wrapped := true }) fun l hl => hl
  exact hm.carriageReturn.advance

theorem combine (h : s.WellFormed) (mark : Char) : (s.combine mark).WellFormed := by
  unfold Screen.combine
  split
  · exact h
  · exact h.mapCells _ fun cells hl => by rw [List.length_modify, hl]

theorem moveOn (h : s.WellFormed) (width : Nat) : (s.moveOn width).WellFormed := by
  have hc := h.cols_pos
  refine h.withCursor ?_ ?_
  · dsimp only
    split
    · exact Nat.sub_lt hc Nat.one_pos
    · next hw => exact Nat.lt_of_not_le hw
  · dsimp only
    split <;> exact h.row_lt

theorem write (h : s.WellFormed) (c : Char) (width : Nat) : (s.write c width).WellFormed := by
  have hopen : (if s.cursor.insertMode then
      s.mapCells s.cursor.row (Row.openAt s.cursor.col width) else s).WellFormed := by
    split
    · exact h.mapCells _ fun cells hl => by rw [Row.length_openAt, hl]
    · exact h
  exact (hopen.mapCells _ fun cells hl => by rw [Row.length_write, hl]).moveOn width

theorem print (h : s.WellFormed) (c : Char) : (s.print c).WellFormed := by
  have hbegun : ∀ t, t = s ∨ t = s.wrap → t.WellFormed := by
    rintro t (rfl | rfl)
    · exact h
    · exact h.wrap
  refine print_cases (h.combine c) hbegun (fun t w ht => (hbegun t ht).write c w) fun t w ht => ?_
  have hblanked := (hbegun t ht).mapCells t.cursor.row
    (f := (·.set t.cursor.col .blank)) fun cells hl => by rw [List.length_set, hl]
  exact hblanked.wrap.write c w

theorem eraseCells (h : s.WellFormed) (row first last : Nat) :
    (s.eraseCells row first last).WellFormed := by
  simp only [Screen.eraseCells]
  split
  · exact h
  · refine h.settle.mapRow row fun l hl => ?_
    replace hl : l.cells.length = s.cols := hl
    show (Row.erase first (min last s.cols) _ l.cells).length = s.cols
    rw [Row.length_erase _ (by omega) (by omega), hl]

theorem eraseRows (h : s.WellFormed) (first last : Nat) : (s.eraseRows first last).WellFormed := by
  unfold Screen.eraseRows
  generalize List.range' first (last - first) = rows
  induction rows generalizing s with
  | nil => exact h
  | cons row rest ih => exact ih (h.eraseCells row 0 s.cols)

theorem eraseInDisplay (h : s.WellFormed) (mode : Nat) : (s.eraseInDisplay mode).WellFormed := by
  simp only [Screen.eraseInDisplay]
  split
  · exact (h.eraseCells ..).eraseRows ..
  · exact (h.eraseRows ..).eraseCells ..
  · exact h.eraseRows ..
  · exact { h with
      scrollback := fun l hl => by cases hl
      bounded := Nat.zero_le _ }
  · exact h

theorem eraseInLine (h : s.WellFormed) (mode : Nat) : (s.eraseInLine mode).WellFormed := by
  simp only [Screen.eraseInLine]
  split
  · exact h.eraseCells ..
  · exact h.eraseCells ..
  · exact h.eraseCells ..
  · exact h

theorem insertChars (h : s.WellFormed) (n : Nat) : (s.insertChars n).WellFormed :=
  (h.mapCells _ fun cells hl => by rw [Row.length_openAt, hl]).settle

theorem deleteChars (h : s.WellFormed) (n : Nat) : (s.deleteChars n).WellFormed := by
  have hc := h.col_lt
  exact (h.mapCells _ fun cells hl => by rw [Row.length_closeAt n (by omega), hl]).settle

/-! ## Grids, resets and sizes -/

theorem clearAlternate (h : s.WellFormed) : s.clearAlternate.WellFormed :=
  { h with alternate := h.alternate.map Line.length_clear }

theorem enterAlternate (h : s.WellFormed) (clear : Bool) : (s.enterAlternate clear).WellFormed := by
  unfold Screen.enterAlternate
  split
  · exact h
  · cases clear with
    | false => exact { h with }
    | true => exact { h.clearAlternate with }

theorem exitAlternate (h : s.WellFormed) (clear : Bool) : (s.exitAlternate clear).WellFormed := by
  unfold Screen.exitAlternate
  split
  · cases clear with
    | false => exact { h with }
    | true => exact { h.clearAlternate with }
  · exact h

theorem alignmentTest (h : s.WellFormed) : s.alignmentTest.WellFormed :=
  (h.mapGrid fun g hg => hg.map fun l => by simp).clearMargins.moveTo 0 0

theorem reset (h : s.WellFormed) : s.reset.WellFormed where
  cols_pos := h.cols_pos
  rows_pos := h.rows_pos
  primary := h.primary.map Line.length_clear
  alternate := h.alternate.map Line.length_clear
  scrollback l hl := by cases hl
  bounded := Nat.zero_le _
  col_lt := h.cols_pos
  row_lt := h.rows_pos
  top_le := Nat.zero_le _
  bottom_lt := Nat.sub_lt h.rows_pos Nat.one_pos
  tabs := by simp [Screen.reset, initialTabs]

theorem softReset (h : s.WellFormed) : s.softReset.WellFormed :=
  { h.clearMargins with col_lt := h.col_lt, row_lt := h.row_lt }

/-- A resize keeps nothing of the old shape: each part is made for the new size. -/
theorem resize (h : s.WellFormed) (cols rows : Nat) : (s.resize cols rows).WellFormed := by
  have hc : 0 < max cols 1 := Nat.le_max_right _ _
  have hr : 0 < max rows 1 := Nat.le_max_right _ _
  have hlaid : ∀ l ∈ (reflow (max cols 1) (s.scrollback.lines ++ s.primary) s.trackedCursor?).1,
      l.cells.length = max cols 1 := fun l hl => length_of_mem_reflow hl
  simp only [Screen.resize]
  split
  · exact h
  · generalize reflow (max cols 1) (s.scrollback.lines ++ s.primary) s.trackedCursor? = r at hlaid
    exact {
      cols_pos := hc
      rows_pos := hr
      primary := .fitRows fun l hl => hlaid l (List.mem_of_mem_drop hl)
      alternate := .fitRows fun l hl => by
        obtain ⟨k, -, rfl⟩ := List.mem_map.mp hl
        exact Line.length_resize k _
      scrollback := fun l hl => by
        rcases Scrollback.mem_of_mem_pushAll hl with hl | hl
        · cases hl
        · exact hlaid l (List.mem_of_mem_take hl)
      bounded := by
        rw [Scrollback.capacity_pushAll]
        exact Scrollback.length_pushAll_le (Nat.zero_le _) _
      col_lt := Cursor.col_clamp_lt _ hc
      row_lt := Cursor.row_clamp_lt _ hr
      top_le := Nat.zero_le _
      bottom_lt := Nat.sub_lt hr Nat.one_pos
      tabs := by simp [initialTabs] }

theorem setFlag (h : s.WellFormed) (flag : Flag) (on : Bool) : (s.setFlag flag on).WellFormed := by
  cases flag <;> exact { h with }

/-- **Every operation keeps a screen well formed**, whatever its arguments. -/
theorem perform (h : s.WellFormed) (op : Operation) : (s.perform op).WellFormed := by
  cases op with
  | print c => exact h.print c
  | linefeed => exact h.linefeed
  | carriageReturn => exact h.carriageReturn
  | index => exact h.index
  | reverseIndex => exact h.reverseIndex
  | nextLine => exact h.nextLine
  | tabForward n => exact h.tabForward n
  | tabBackward n => exact h.tabBackward n
  | scrollUp n => exact h.scrollUp n
  | scrollDown n => exact h.scrollDown n
  | setMargins top bottom => exact h.setMargins top bottom
  | clearMargins => exact h.clearMargins
  | setTab => exact h.withTabs List.length_set
  | clearTab => exact h.withTabs List.length_set
  | clearTabs => exact h.withTabs (List.length_map _)
  | eraseInDisplay mode => exact h.eraseInDisplay mode
  | eraseInLine mode => exact h.eraseInLine mode
  | eraseChars n => exact h.eraseCells ..
  | insertLines n => exact h.insertLines n
  | deleteLines n => exact h.deleteLines n
  | insertChars n => exact h.insertChars n
  | deleteChars n => exact h.deleteChars n
  | moveTo row col => exact h.moveTo row col
  | moveToCol col => exact h.moveToCol col
  | moveToRow row => exact h.moveTo row _
  | up n => exact h.up n
  | down n => exact h.down n
  | forward n => exact h.forward n
  | backward n => exact h.backward n
  | saveCursor => exact h.saveCursor
  | restoreCursor => exact h.restoreCursor
  | enterAlternate clear => exact h.enterAlternate clear
  | exitAlternate clear => exact h.exitAlternate clear
  | alignmentTest => exact h.alignmentTest
  | resize cols rows => exact h.resize cols rows
  | reset => exact h.reset
  | softReset => exact h.softReset
  | setPen pen => exact { h with }
  | setFlag flag on => exact h.setFlag flag on

theorem performAll (h : s.WellFormed) (ops : List Operation) : (s.performAll ops).WellFormed :=
  performAll_induction (fun _ op hs => hs.perform op) h ops

end WellFormed

/-! ## The bound of the scrollback

It is set once, with the screen. -/

@[simp] theorem capacity_mapCursor (f : Cursor → Cursor) :
    (s.mapCursor f).scrollback.capacity = s.scrollback.capacity :=
  rfl

@[simp] theorem capacity_mapGrid (f : Grid → Grid) :
    (s.mapGrid f).scrollback.capacity = s.scrollback.capacity := by
  rw [scrollback_mapGrid]

@[simp] theorem capacity_mapRow (row : Nat) (f : Line → Line) :
    (s.mapRow row f).scrollback.capacity = s.scrollback.capacity :=
  capacity_mapGrid _

@[simp] theorem capacity_mapCells (row : Nat) (f : List Cell → List Cell) :
    (s.mapCells row f).scrollback.capacity = s.scrollback.capacity :=
  capacity_mapGrid _

@[simp] theorem capacity_settle : s.settle.scrollback.capacity = s.scrollback.capacity := rfl

@[simp] theorem capacity_scrollUp (n : Nat) :
    (s.scrollUp n).scrollback.capacity = s.scrollback.capacity :=
  Scrollback.capacity_pushAll _ _

@[simp] theorem capacity_scrollDown (n : Nat) :
    (s.scrollDown n).scrollback.capacity = s.scrollback.capacity := by
  simp only [scrollDown]
  split
  · rfl
  · split <;> simp

@[simp] theorem capacity_advance : s.advance.scrollback.capacity = s.scrollback.capacity :=
  advance_cases (capacity_scrollUp 1) (fun _ => rfl) rfl

@[simp] theorem capacity_wrap : s.wrap.scrollback.capacity = s.scrollback.capacity := by
  simp [wrap]

@[simp] theorem capacity_combine (mark : Char) :
    (s.combine mark).scrollback.capacity = s.scrollback.capacity := by
  unfold combine
  split
  · rfl
  · exact capacity_mapCells _ _

@[simp] theorem capacity_write (c : Char) (width : Nat) :
    (s.write c width).scrollback.capacity = s.scrollback.capacity := by
  simp only [write, moveOn, capacity_mapCursor, capacity_mapCells]
  split
  · exact capacity_mapCells _ _
  · rfl

@[simp] theorem capacity_print (c : Char) :
    (s.print c).scrollback.capacity = s.scrollback.capacity := by
  have hbegun : ∀ t, t = s ∨ t = s.wrap → t.scrollback.capacity = s.scrollback.capacity := by
    rintro t (rfl | rfl)
    · rfl
    · exact capacity_wrap
  refine print_cases (capacity_combine c) hbegun (fun t w ht => ?_) fun t w ht => ?_
  · rw [capacity_write, hbegun t ht]
  · rw [capacity_write, capacity_wrap, capacity_mapCells, hbegun t ht]

@[simp] theorem capacity_eraseCells (row first last : Nat) :
    (s.eraseCells row first last).scrollback.capacity = s.scrollback.capacity := by
  simp only [eraseCells]
  split
  · rfl
  · simp

@[simp] theorem capacity_eraseRows (first last : Nat) :
    (s.eraseRows first last).scrollback.capacity = s.scrollback.capacity := by
  unfold eraseRows
  generalize List.range' first (last - first) = rows
  induction rows generalizing s with
  | nil => rfl
  | cons row rest ih => exact ih.trans (capacity_eraseCells row 0 s.cols)

/-- **No operation changes how many rows the scrollback may hold.** -/
theorem capacity_perform (op : Operation) :
    (s.perform op).scrollback.capacity = s.scrollback.capacity := by
  cases op with
  | print c => exact capacity_print c
  | linefeed =>
    show s.linefeed.scrollback.capacity = _
    unfold linefeed
    split <;> simp [nextLine, index]
  | index => exact capacity_advance
  | reverseIndex =>
    show s.reverseIndex.scrollback.capacity = _
    simp only [reverseIndex]
    split <;> simp
  | nextLine => exact capacity_advance
  | scrollUp n => exact capacity_scrollUp n
  | scrollDown n => exact capacity_scrollDown n
  | setMargins top bottom =>
    show (s.setMargins top bottom).scrollback.capacity = _
    simp only [setMargins]
    split <;> rfl
  | eraseInDisplay mode =>
    show (s.eraseInDisplay mode).scrollback.capacity = _
    simp only [eraseInDisplay]
    split <;> simp [Scrollback.clear]
  | eraseInLine mode =>
    show (s.eraseInLine mode).scrollback.capacity = _
    simp only [eraseInLine]
    split <;> simp
  | eraseChars n => exact capacity_eraseCells _ _ _
  | insertLines n =>
    show (s.insertLines n).scrollback.capacity = _
    unfold insertLines
    split <;> simp [carriageReturn]
  | deleteLines n =>
    show (s.deleteLines n).scrollback.capacity = _
    unfold deleteLines
    split <;> simp [carriageReturn]
  | insertChars n => exact capacity_mapCells _ _
  | deleteChars n => exact capacity_mapCells _ _
  | saveCursor =>
    show s.saveCursor.scrollback.capacity = _
    unfold saveCursor
    split <;> rfl
  | enterAlternate clear =>
    show (s.enterAlternate clear).scrollback.capacity = _
    unfold enterAlternate
    split
    · rfl
    · cases clear <;> rfl
  | exitAlternate clear =>
    show (s.exitAlternate clear).scrollback.capacity = _
    unfold exitAlternate
    split
    · cases clear <;> rfl
    · rfl
  | alignmentTest => exact capacity_mapGrid _
  | resize cols rows =>
    show (s.resize cols rows).scrollback.capacity = _
    simp only [resize]
    split
    · rfl
    · exact Scrollback.capacity_pushAll _ _
  | setFlag flag on => cases flag <;> rfl
  | _ => rfl

theorem capacity_performAll (ops : List Operation) :
    (s.performAll ops).scrollback.capacity = s.scrollback.capacity :=
  performAll_induction (P := fun t => t.scrollback.capacity = s.scrollback.capacity)
    (fun _ op ht => (capacity_perform op).trans ht) rfl ops

end Screen

end Teletype

import Teletype.Proofs.Screen.WellFormed

/-!
# What holds of every row

A property of cells may hold of every row of a screen, those of both grids and
those in the scrollback (`AllRows`). Operations that only move rows keep such a
property if blank rows have it, since they bring in no others. The rest change
one row on display, and what they make of it is all that is left to look at
(`AllRows.mapRow`).
-/

namespace Teletype

namespace Grid

variable {g : Grid} {l fill : Line} {f : Line → Line} {row top bottom n i : Nat}

/-- The row that comes to stand in row `i` when the rows from `top` to `bottom` are
shifted up by `n`; none where there is a new row. -/
def above? (top bottom n i : Nat) : Option Nat :=
  if i < top ∨ bottom < i then some i else if i + n ≤ bottom then some (i + n) else none

/-- The row that comes to stand in row `i` when the rows from `top` to `bottom` are
shifted down by `n`; none where there is a new row. -/
def below? (top bottom n i : Nat) : Option Nat :=
  if i < top ∨ bottom < i then some i else if top + n ≤ i then some (i - n) else none

/-- The rows of a grid after a shift up. -/
theorem getElem?_shiftUp_eq (fill : Line) (hn : top + n ≤ bottom + 1) (hb : bottom < g.length) :
    (g.shiftUp top bottom n fill)[i]? = (above? top bottom n i).elim (some fill) (g[·]?) := by
  have hkept : ((g.take (bottom + 1)).drop (top + n)).length = bottom + 1 - (top + n) := by
    rw [List.length_drop, List.length_take]
    omega
  have hfront : (g.take top).length = top := by
    rw [List.length_take]
    omega
  unfold above? shiftUp
  by_cases htop : i < top
  · rw [if_pos (.inl htop), List.getElem?_append_left (by omega), List.getElem?_take_of_lt htop]
    rfl
  rw [List.getElem?_append_right (by omega), hfront]
  by_cases hbottom : bottom < i
  · rw [if_pos (.inr hbottom), List.getElem?_append_right (by omega), hkept,
      List.getElem?_append_right (by rw [List.length_replicate]; omega), List.length_replicate,
      List.getElem?_drop]
    show _ = g[i]?
    congr 1
    omega
  rw [if_neg (by omega)]
  split
  next hstays =>
    rw [List.getElem?_append_left (by omega), List.getElem?_drop,
      List.getElem?_take_of_lt (by omega)]
    show _ = g[i + n]?
    congr 1
    omega
  next hnew =>
    rw [List.getElem?_append_right (by omega), hkept,
      List.getElem?_append_left (by rw [List.length_replicate]; omega),
      List.getElem?_replicate_of_lt (by omega)]
    rfl

/-- The rows of a grid after a shift down. -/
theorem getElem?_shiftDown_eq (fill : Line) (hn : top + n ≤ bottom + 1) (hb : bottom < g.length) :
    (g.shiftDown top bottom n fill)[i]? = (below? top bottom n i).elim (some fill) (g[·]?) := by
  have hkept : ((g.take (bottom + 1 - n)).drop top).length = bottom + 1 - n - top := by
    rw [List.length_drop, List.length_take]
    omega
  have hfront : (g.take top).length = top := by
    rw [List.length_take]
    omega
  unfold below? shiftDown
  by_cases htop : i < top
  · rw [if_pos (.inl htop), List.getElem?_append_left (by omega), List.getElem?_take_of_lt htop]
    rfl
  rw [List.getElem?_append_right (by omega), hfront]
  by_cases hbottom : bottom < i
  · rw [if_pos (.inr hbottom), List.getElem?_append_right (by rw [List.length_replicate]; omega),
      List.length_replicate, List.getElem?_append_right (by omega), hkept, List.getElem?_drop]
    show _ = g[i]?
    congr 1
    omega
  rw [if_neg (by omega)]
  split
  next hstays =>
    rw [List.getElem?_append_right (by rw [List.length_replicate]; omega), List.length_replicate,
      List.getElem?_append_left (by omega), List.getElem?_drop,
      List.getElem?_take_of_lt (by omega)]
    show _ = g[i - n]?
    congr 1
    omega
  next hnew =>
    rw [List.getElem?_append_left (by rw [List.length_replicate]; omega),
      List.getElem?_replicate_of_lt (by omega)]
    rfl

/-- A row that stays inside the block comes to stand `n` rows higher. -/
theorem getElem?_shiftUp (fill : Line) (htop : top ≤ i) (hi : i + n ≤ bottom)
    (hb : bottom < g.length) : (g.shiftUp top bottom n fill)[i]? = g[i + n]? := by
  rw [getElem?_shiftUp_eq fill (by omega) hb, above?, if_neg (by omega), if_pos hi]
  rfl

/-- A block of one row loses it, whatever became of it before. -/
theorem shiftUp_modify (g : Grid) (row : Nat) (f : Line → Line) (fill : Line) :
    (Grid.shiftUp (g.modify row f) row row 1 fill) = g.shiftUp row row 1 fill := by
  have hnone : ∀ h : Grid, (h.take (row + 1)).drop (row + 1) = [] := fun h =>
    List.drop_eq_nil_of_le (by rw [List.length_take]; omega)
  rw [shiftUp, shiftUp, hnone, hnone, List.take_modify,
    List.modify_eq_self (by rw [List.length_take]; omega),
    List.drop_modify_of_lt _ _ _ _ (by omega)]

end Grid

theorem Scrollback.mem_push_self {s : Scrollback} (h : 0 < s.capacity) (line : Line) :
    line ∈ (s.push line).lines := by
  have hlen : (s.lines ++ [line]).length = s.lines.length + 1 := List.length_append
  show line ∈ (s.lines ++ [line]).drop ((s.lines ++ [line]).length - s.capacity)
  rw [List.drop_append_of_le_length (by omega)]
  exact List.mem_append_right _ (List.mem_singleton_self _)

/-- Rows are only pushed out at the other end. -/
theorem Scrollback.pushAll_suffix (s : Scrollback) (lines : List Line) :
    (s.pushAll lines).lines <:+ s.lines ++ lines := by
  rw [lines_pushAll]
  split
  · next hnone =>
    obtain rfl := List.isEmpty_iff.mp hnone
    exact ⟨[], (List.append_nil s.lines).symm⟩
  · exact List.drop_suffix _ _

namespace Screen

theorem mapGrid_congr {s : Screen} {f g : Grid → Grid} (h : f s.grid = g s.grid) :
    s.mapGrid f = s.mapGrid g := by
  unfold mapGrid
  unfold grid at h
  split at h
  · next halternate => rw [if_pos halternate, if_pos halternate, h]
  · next hprimary => rw [if_neg hprimary, if_neg hprimary, h]

theorem mapGrid_mapGrid (s : Screen) (f g : Grid → Grid) :
    (s.mapGrid f).mapGrid g = s.mapGrid (g ∘ f) := by
  cases h : s.onAlternate <;> simp [mapGrid, h]

theorem mapGrid_mapCursor (s : Screen) (f : Grid → Grid) (k : Cursor → Cursor) :
    (s.mapCursor k).mapGrid f = (s.mapGrid f).mapCursor k := by
  cases h : s.onAlternate <;> simp [mapGrid, mapCursor, h]

theorem mapRow_mapRow (s : Screen) (row : Nat) (f g : Line → Line) :
    (s.mapRow row f).mapRow row g = s.mapRow row (g ∘ f) := by
  rw [mapRow, mapRow, mapGrid_mapGrid]
  congr 1
  exact funext fun grid => List.modify_modify_eq f g row grid

section Scroll

variable (s : Screen) (n : Nat)

@[simp] theorem cursor_scrollUp : (s.scrollUp n).cursor = s.cursor :=
  cursor_mapGrid _ _

theorem grid_scrollUp : (s.scrollUp n).grid =
    s.grid.shiftUp s.top s.bottom (min n (s.bottom - s.top + 1)) (.blank s.cols) :=
  grid_mapGrid _ _

theorem scrollback_scrollUp : (s.scrollUp n).scrollback = s.scrollback.pushAll
    (if !s.onAlternate && s.top == 0 then s.primary.take (min n (s.bottom - s.top + 1)) else []) :=
  rfl

theorem col_advance : s.advance.cursor.col = s.cursor.col :=
  advance_cases (congrArg Cursor.col (cursor_scrollUp s 1)) (fun _ => rfl) rfl

/-- A wrap ends in the first column. -/
theorem col_wrap : s.wrap.cursor.col = 0 :=
  col_advance _

end Scroll

/-- The cells of every row have the property `P`. -/
structure AllRows (P : List Cell → Prop) (s : Screen) : Prop where
  primary : ∀ l ∈ s.primary, P l.cells
  alternate : ∀ l ∈ s.alternate, P l.cells
  scrollback : ∀ l ∈ s.scrollback.lines, P l.cells

variable {P Q : List Cell → Prop} {s : Screen} {row : Nat}

theorem allRows_iff : s.AllRows P ↔ (∀ l ∈ s.primary, P l.cells) ∧
    (∀ l ∈ s.alternate, P l.cells) ∧ ∀ l ∈ s.scrollback.lines, P l.cells :=
  ⟨fun h => ⟨h.primary, h.alternate, h.scrollback⟩, fun ⟨hp, ha, hs⟩ => ⟨hp, ha, hs⟩⟩

instance [DecidablePred P] : Decidable (s.AllRows P) :=
  decidable_of_iff _ allRows_iff.symm

namespace AllRows

theorem mono (h : s.AllRows P) (hPQ : ∀ cells, P cells → Q cells) : s.AllRows Q where
  primary l hl := hPQ _ (h.primary l hl)
  alternate l hl := hPQ _ (h.alternate l hl)
  scrollback l hl := hPQ _ (h.scrollback l hl)

theorem grid (h : s.AllRows P) : ∀ l ∈ s.grid, P l.cells := by
  unfold Screen.grid
  split
  · exact h.alternate
  · exact h.primary

theorem mapGrid (h : s.AllRows P) {f : Grid → Grid} (hf : ∀ l ∈ f s.grid, P l.cells) :
    (s.mapGrid f).AllRows P := by
  unfold Screen.mapGrid
  unfold Screen.grid at hf
  split at hf
  · next ha =>
    rw [if_pos ha]
    exact { h with alternate := hf }
  · next ha =>
    rw [if_neg ha]
    exact { h with primary := hf }

/-- Only the row that changes is to be looked at. -/
theorem mapRow (h : s.AllRows P) {f : Line → Line}
    (hf : ∀ l, s.grid[row]? = some l → P (f l).cells) : (s.mapRow row f).AllRows P := by
  refine h.mapGrid fun l hl => ?_
  rcases mem_modify hl with ⟨k, hk, rfl⟩ | hl
  · exact hf k hk
  · exact h.grid l hl

theorem mapCells (h : s.AllRows P) {f : List Cell → List Cell}
    (hf : ∀ l, s.grid[row]? = some l → P (f l.cells)) : (s.mapCells row f).AllRows P :=
  h.mapRow hf

theorem withCursor (h : s.AllRows P) (c : Cursor) : { s with cursor := c }.AllRows P :=
  { h with }

theorem pushAll (h : s.AllRows P) {lines : List Line} (hl : ∀ l ∈ lines, P l.cells) :
    { s with scrollback := s.scrollback.pushAll lines }.AllRows P :=
  { h with
    scrollback := fun l hm => (Scrollback.mem_of_mem_pushAll hm).elim (h.scrollback l) (hl l) }

/-! ## Moving rows -/

theorem shiftUp (h : s.AllRows P) (hblank : ∀ n, P (List.replicate n .blank)) (top n : Nat) :
    (s.mapGrid (·.shiftUp top s.bottom n (.blank s.cols))).AllRows P := by
  refine h.mapGrid fun l hl => ?_
  rcases Grid.mem_shiftUp hl with hl | rfl
  · exact h.grid l hl
  · exact hblank s.cols

theorem shiftDown (h : s.AllRows P) (hblank : ∀ n, P (List.replicate n .blank)) (top n : Nat) :
    (s.mapGrid (·.shiftDown top s.bottom n (.blank s.cols))).AllRows P := by
  refine h.mapGrid fun l hl => ?_
  rcases Grid.mem_shiftDown hl with hl | rfl
  · exact h.grid l hl
  · exact hblank s.cols

theorem scrollUp (h : s.AllRows P) (hblank : ∀ n, P (List.replicate n .blank)) (n : Nat) :
    (s.scrollUp n).AllRows P := by
  have hl : ∀ l ∈ (if !s.onAlternate && s.top == 0 then
      s.primary.take (min n (s.bottom - s.top + 1)) else []), P l.cells := by
    intro l hl
    split at hl
    · exact h.primary l (List.mem_of_mem_take hl)
    · cases hl
  have hp := (h.shiftUp hblank s.top (min n (s.bottom - s.top + 1))).pushAll hl
  rw [scrollback_mapGrid] at hp
  exact hp

theorem scrollDown (h : s.AllRows P) (hblank : ∀ n, P (List.replicate n .blank)) (n : Nat) :
    (s.scrollDown n).AllRows P := by
  have hg := h.shiftDown hblank s.top (min n (s.bottom - s.top + 1))
  simp only [Screen.scrollDown]
  split
  · exact h
  · split
    · exact hg
    · exact hg.mapRow fun l hl => hg.grid l (List.mem_of_getElem? hl)

theorem insertLines (h : s.AllRows P) (hblank : ∀ n, P (List.replicate n .blank)) (n : Nat) :
    (s.insertLines n).AllRows P := by
  unfold Screen.insertLines
  split
  · exact (h.shiftDown hblank _ _).withCursor _
  · exact h

theorem deleteLines (h : s.AllRows P) (hblank : ∀ n, P (List.replicate n .blank)) (n : Nat) :
    (s.deleteLines n).AllRows P := by
  unfold Screen.deleteLines
  split
  · exact (h.shiftUp hblank _ _).withCursor _
  · exact h

theorem advance (h : s.AllRows P) (hblank : ∀ n, P (List.replicate n .blank)) :
    s.advance.AllRows P :=
  advance_cases (h.scrollUp hblank 1) (fun _ => h.withCursor _) h

theorem wrap (h : s.AllRows P) (hblank : ∀ n, P (List.replicate n .blank)) :
    s.wrap.AllRows P := by
  have hm : (s.mapRow s.cursor.row fun l => { l with wrapped := true }).AllRows P :=
    h.mapRow fun l hl => h.grid l (List.mem_of_getElem? hl)
  exact (hm.withCursor _).advance hblank

theorem index (h : s.AllRows P) (hblank : ∀ n, P (List.replicate n .blank)) :
    s.index.AllRows P :=
  (h.withCursor _).advance hblank

theorem linefeed (h : s.AllRows P) (hblank : ∀ n, P (List.replicate n .blank)) :
    s.linefeed.AllRows P := by
  unfold Screen.linefeed
  split
  · exact (h.index hblank).withCursor _
  · exact h.index hblank

theorem reverseIndex (h : s.AllRows P) (hblank : ∀ n, P (List.replicate n .blank)) :
    s.reverseIndex.AllRows P := by
  simp only [Screen.reverseIndex]
  split
  · exact (h.withCursor _).scrollDown hblank 1
  · exact (h.withCursor _).withCursor _

/-! ## Grids and sizes -/

theorem forall_mem_clear (hblank : ∀ n, P (List.replicate n .blank)) (g : Grid) :
    ∀ l ∈ g.map Line.clear, P l.cells := by
  intro l hl
  obtain ⟨k, -, rfl⟩ := List.mem_map.mp hl
  rw [Line.clear_eq_blank]
  exact hblank _

theorem clearAlternate (h : s.AllRows P) (hblank : ∀ n, P (List.replicate n .blank)) :
    s.clearAlternate.AllRows P :=
  { h with alternate := forall_mem_clear hblank s.alternate }

theorem enterAlternate (h : s.AllRows P) (hblank : ∀ n, P (List.replicate n .blank))
    (clear : Bool) : (s.enterAlternate clear).AllRows P := by
  unfold Screen.enterAlternate
  split
  · exact h
  · cases clear with
    | false => exact { h with }
    | true => exact { h.clearAlternate hblank with }

theorem exitAlternate (h : s.AllRows P) (hblank : ∀ n, P (List.replicate n .blank))
    (clear : Bool) : (s.exitAlternate clear).AllRows P := by
  unfold Screen.exitAlternate
  split
  · cases clear with
    | false => exact { h with }
    | true => exact { h.clearAlternate hblank with }
  · exact h

theorem reset (hblank : ∀ n, P (List.replicate n .blank)) (s : Screen) : s.reset.AllRows P :=
  ⟨forall_mem_clear hblank _, forall_mem_clear hblank _, fun l hl => by cases hl⟩

theorem initial (hblank : ∀ n, P (List.replicate n .blank)) (cols rows capacity : Nat) :
    (Screen.initial cols rows capacity).AllRows P := by
  have hgrid : ∀ l ∈ Grid.blank (max cols 1) (max rows 1), P l.cells := by
    intro l hl
    rw [List.eq_of_mem_replicate hl]
    exact hblank _
  exact ⟨hgrid, hgrid, fun l hl => by cases hl⟩

theorem alignmentTest (h : s.AllRows P)
    (hletter : ∀ n, P (List.replicate n (.written 'E' {}))) : s.alignmentTest.AllRows P := by
  have hfilled : (s.mapGrid (·.map fun l => { cells := l.cells.map fun _ => .written 'E' {} }
      )).AllRows P := by
    refine h.mapGrid fun l hl => ?_
    obtain ⟨k, -, rfl⟩ := List.mem_map.mp hl
    show P (k.cells.map fun _ => Cell.written 'E' {})
    rw [List.map_const']
    exact hletter _
  exact { hfilled with }

theorem forall_mem_fitRows (hblank : ∀ n, P (List.replicate n .blank)) {g : Grid}
    (h : ∀ l ∈ g, P l.cells) (cols rows : Nat) : ∀ l ∈ fitRows cols rows g, P l.cells := by
  intro l hl
  rcases Grid.mem_fitRows hl with hl | rfl
  · exact h l hl
  · exact hblank cols

/-- A resize is looked at as what it makes of the rows that it lays out anew, and of
those that it cuts. -/
theorem resize (h : s.AllRows P) (hblank : ∀ n, P (List.replicate n .blank)) {cols rows : Nat}
    (hlaid : ∀ l ∈ (reflow (max cols 1) (s.scrollback.lines ++ s.primary) s.trackedCursor?).1,
      P l.cells)
    (hcut : ∀ l : Line, P l.cells → P (l.resize (max cols 1)).cells) :
    (s.resize cols rows).AllRows P := by
  simp only [Screen.resize]
  split
  · exact h
  · generalize reflow (max cols 1) (s.scrollback.lines ++ s.primary) s.trackedCursor? = r at hlaid
    refine ⟨?_, ?_, ?_⟩
    · exact forall_mem_fitRows hblank (fun l hl => hlaid l (List.mem_of_mem_drop hl)) _ _
    · refine forall_mem_fitRows hblank (fun l hl => ?_) _ _
      obtain ⟨k, hk, rfl⟩ := List.mem_map.mp hl
      exact hcut k (h.alternate k hk)
    · intro l hl
      rcases Scrollback.mem_of_mem_pushAll hl with hl | hl
      · cases hl
      · exact hlaid l (List.mem_of_mem_take hl)

/-! ## Erasing -/

section Erase

variable (herase : ∀ cells first last bg, first < last → last ≤ cells.length → P cells →
  P (Row.erase first last bg cells))

include herase

theorem eraseCells (h : s.AllRows P) (hw : s.WellFormed) (row first last : Nat) :
    (s.eraseCells row first last).AllRows P := by
  simp only [Screen.eraseCells]
  split
  · exact h
  · next hsome =>
    have hsettled : s.settle.AllRows P := h.withCursor _
    refine hsettled.mapRow fun l hl => ?_
    have hmem : l ∈ s.grid := List.mem_of_getElem? hl
    have hlen := hw.grid.length_cells l hmem
    exact herase _ _ _ _ (by omega) (by omega) (h.grid l hmem)

theorem eraseRows (h : s.AllRows P) (hw : s.WellFormed) (first last : Nat) :
    (s.eraseRows first last).AllRows P := by
  unfold Screen.eraseRows
  generalize List.range' first (last - first) = rows
  induction rows generalizing s with
  | nil => exact h
  | cons row rest ih => exact ih (h.eraseCells herase hw row 0 s.cols) (hw.eraseCells row 0 s.cols)

theorem eraseInDisplay (h : s.AllRows P) (hw : s.WellFormed) (mode : Nat) :
    (s.eraseInDisplay mode).AllRows P := by
  simp only [Screen.eraseInDisplay]
  split
  · exact (h.eraseCells herase hw ..).eraseRows herase (hw.eraseCells ..) ..
  · exact (h.eraseRows herase hw ..).eraseCells herase (hw.eraseRows ..) ..
  · exact h.eraseRows herase hw ..
  · exact { h with scrollback := fun l hl => by cases hl }
  · exact h

theorem eraseInLine (h : s.AllRows P) (hw : s.WellFormed) (mode : Nat) :
    (s.eraseInLine mode).AllRows P := by
  simp only [Screen.eraseInLine]
  split
  · exact h.eraseCells herase hw ..
  · exact h.eraseCells herase hw ..
  · exact h.eraseCells herase hw ..
  · exact h

end Erase

end AllRows

/-- Whether an operation puts cells of a row in other places or makes new ones, blank
rows apart. -/
def Operation.changesCells : Operation → Bool
  | .print _ | .insertChars _ | .deleteChars _ | .alignmentTest | .resize .. => true
  | _ => false

/-- **Rows that an operation leaves whole keep what holds of them**, and so do erased
ones if erasing keeps it. -/
theorem AllRows.perform (h : s.AllRows P) (hw : s.WellFormed)
    (hblank : ∀ n, P (List.replicate n .blank))
    (herase : ∀ cells first last bg, first < last → last ≤ cells.length → P cells →
      P (Row.erase first last bg cells)) {op : Operation}
    (hop : op.changesCells = true → (s.perform op).AllRows P) : (s.perform op).AllRows P := by
  cases op with
  | print | insertChars | deleteChars | alignmentTest | resize => exact hop rfl
  | linefeed => exact h.linefeed hblank
  | index => exact h.index hblank
  | nextLine => exact (h.index hblank).withCursor _
  | reverseIndex => exact h.reverseIndex hblank
  | scrollUp n => exact h.scrollUp hblank n
  | scrollDown n => exact h.scrollDown hblank n
  | setMargins top bottom =>
    show (s.setMargins top bottom).AllRows P
    simp only [setMargins]
    split <;> exact { h with }
  | eraseInDisplay mode => exact h.eraseInDisplay herase hw mode
  | eraseInLine mode => exact h.eraseInLine herase hw mode
  | eraseChars n => exact h.eraseCells herase hw ..
  | insertLines n => exact h.insertLines hblank n
  | deleteLines n => exact h.deleteLines hblank n
  | saveCursor =>
    show s.saveCursor.AllRows P
    unfold saveCursor
    split <;> exact { h with }
  | enterAlternate clear => exact h.enterAlternate hblank clear
  | exitAlternate clear => exact h.exitAlternate hblank clear
  | reset => exact .reset hblank s
  | setFlag flag on => cases flag <;> exact { h with }
  | _ => exact { h with }

end Screen

end Teletype

import Teletype.Proofs.Screen.Moved

/-!
# Blocks that are shifted

Scrolling, inserting and deleting rows shift the rows of a block up or down, as far as asked
for and at most as far as the block goes. All rows of the block that have a place in it
afterwards stand there in order, as they were, and the rest of it is blank
(`RowMotion.moved`). Outside of the block no cell changes, and nothing does on the other grid
(`RowMotion.shifted_perform`).
-/

namespace Teletype

namespace Grid

/-- The rows from `first` to `bottom`. -/
def block (g : Grid) (first bottom : Nat) : Grid :=
  (g.take (bottom + 1)).drop first

/-- The rows from `first` to `bottom` have become `rows`, and the cells of all others are as
they were. -/
structure Shifted (g g' : Grid) (first bottom : Nat) (rows : Grid) : Prop where
  above : (g'.take first).map Line.cells = (g.take first).map Line.cells
  block_eq : g'.block first bottom = rows
  below : g'.drop (bottom + 1) = g.drop (bottom + 1)

variable {g : Grid} {first bottom n : Nat}

theorem length_block (hb : bottom < g.length) :
    (g.block first bottom).length = bottom + 1 - first := by
  rw [block, List.length_drop, List.length_take_of_le hb]

/-- Rows put together from three parts. -/
theorem shifted_append {rows : Grid} (hf : first ≤ bottom + 1) (hb : bottom < g.length)
    (hlen : rows.length = bottom + 1 - first) :
    g.Shifted (g.take first ++ (rows ++ g.drop (bottom + 1))) first bottom rows := by
  have hfirst : (g.take first).length = first := List.length_take_of_le (by omega)
  have hfront : (g.take first ++ rows).length = bottom + 1 := by
    rw [List.length_append]
    omega
  refine ⟨?_, ?_, ?_⟩
  · rw [List.take_left' hfirst]
  · rw [block, ← List.append_assoc, List.take_left' hfront, List.drop_left' hfirst]
  · rw [← List.append_assoc, List.drop_left' hfront]

theorem shifted_shiftUp (fill : Line) (hn : first + n ≤ bottom + 1) (hb : bottom < g.length) :
    g.Shifted (g.shiftUp first bottom n fill) first bottom
      ((g.block first bottom).drop n ++ List.replicate n fill) := by
  have hparts : g.shiftUp first bottom n fill = g.take first ++
      (((g.block first bottom).drop n ++ List.replicate n fill) ++ g.drop (bottom + 1)) := by
    rw [shiftUp, block, List.drop_drop, List.append_assoc]
  rw [hparts]
  refine shifted_append (by omega) hb ?_
  rw [List.length_append, List.length_drop, length_block hb, List.length_replicate]
  omega

theorem shifted_shiftDown (fill : Line) (hn : first + n ≤ bottom + 1) (hb : bottom < g.length) :
    g.Shifted (g.shiftDown first bottom n fill) first bottom
      (List.replicate n fill ++ (g.block first bottom).take (bottom + 1 - first - n)) := by
  have hkept : (g.block first bottom).take (bottom + 1 - first - n) =
      (g.take (bottom + 1 - n)).drop first := by
    rw [block, List.take_drop, List.take_take]
    congr 2
    omega
  have hparts : g.shiftDown first bottom n fill = g.take first ++ ((List.replicate n fill ++
      (g.block first bottom).take (bottom + 1 - first - n)) ++ g.drop (bottom + 1)) := by
    rw [shiftDown, hkept, List.append_assoc]
  rw [hparts]
  refine shifted_append (by omega) hb ?_
  rw [List.length_append, List.length_take, length_block hb, List.length_replicate]
  omega

/-- Nothing is shifted. -/
theorem shifted_self (g : Grid) (first bottom : Nat) :
    g.Shifted g first bottom (g.block first bottom) :=
  ⟨rfl, rfl, rfl⟩

/-- A row above the block may change in what is not a cell. -/
theorem Shifted.modify {g' rows : Grid} (h : g.Shifted g' first bottom rows) {i : Nat}
    (hi : i < first) (hb : first ≤ bottom) {f : Line → Line} (hf : ∀ l, (f l).cells = l.cells) :
    g.Shifted (g'.modify i f) first bottom rows where
  above := by
    rw [← h.above, List.take_modify]
    refine List.ext_getElem? fun j => ?_
    rw [List.getElem?_map, List.getElem?_map, List.getElem?_modify]
    cases (g'.take first)[j]? with
    | none => rfl
    | some l =>
      show some (Line.cells (if i = j then f l else l)) = some l.cells
      split
      · rw [hf]
      · rfl
  block_eq := by
    rw [← h.block_eq, block, block, List.take_modify, List.drop_modify_of_lt _ _ _ _ hi]
  below := by
    rw [← h.below, List.drop_modify_of_lt _ _ _ _ (by omega)]

end Grid

/-- The grid that is not on display. -/
def Screen.hidden (s : Screen) : Grid :=
  if s.onAlternate then s.primary else s.alternate

theorem Screen.hidden_mapGrid (s : Screen) (f : Grid → Grid) : (s.mapGrid f).hidden = s.hidden := by
  cases h : s.onAlternate <;> simp [hidden, mapGrid, h]

namespace RowMotion

open Screen

variable {m : RowMotion} {s : Screen} {n : Nat}

/-- What becomes of the block: the rows that have a place in it, in order, and blank ones
where they leave room. -/
def moved (m : RowMotion) (s : Screen) (n : Nat) : Grid :=
  let block := s.grid.block (m.first s) s.bottom
  let blanks := List.replicate (m.distance s n) (.blank s.cols)
  if m.raises then block.drop (m.distance s n) ++ blanks
  else blanks ++ block.take (block.length - m.distance s n)

theorem moved_of_raises (hm : m.raises = true) : m.moved s n =
    (s.grid.block (m.first s) s.bottom).drop (m.distance s n) ++
      List.replicate (m.distance s n) (.blank s.cols) :=
  if_pos hm

theorem moved_of_lowers (hs : s.WellFormed) (hm : m.raises = false) : m.moved s n =
    List.replicate (m.distance s n) (.blank s.cols) ++
      (s.grid.block (m.first s) s.bottom).take (s.bottom + 1 - m.first s - m.distance s n) := by
  have hbottom : s.bottom < s.grid.length := hs.grid.length_eq ▸ hs.bottom_lt
  rw [← Grid.length_block hbottom]
  exact if_neg (Bool.eq_false_iff.mp hm)

/-- **A motion shifts the rows of its block**, and touches no cell of another row. -/
theorem shifted_perform (hs : s.WellFormed) (ha : m.applies s = true) (n : Nat) :
    s.grid.Shifted (s.perform (m.operation n)).grid (m.first s) s.bottom (m.moved s n) := by
  have hbottom : s.bottom < s.grid.length := hs.grid.length_eq ▸ hs.bottom_lt
  have hfits := first_add_distance_le (n := n) hs ha
  cases hm : m.raises with
  | true =>
    rw [grid_perform_of_raises ha hm, moved_of_raises hm]
    exact Grid.shifted_shiftUp _ hfits hbottom
  | false =>
    rw [moved_of_lowers hs hm]
    have hshift := Grid.shifted_shiftDown (.blank s.cols) hfits hbottom
    cases m with
    | scrollUp | deleteLines => cases hm
    | insertLines =>
      have hin : s.inMargins = true := ha
      show s.grid.Shifted (s.insertLines n).grid _ _ _
      rw [Screen.insertLines, if_pos hin]
      show s.grid.Shifted (s.mapGrid _).grid _ _ _
      rw [grid_mapGrid]
      exact hshift
    | scrollDown =>
      show s.grid.Shifted (s.scrollDown n).grid _ _ _
      simp only [Screen.scrollDown, top_mapGrid]
      split
      next hnone =>
        have hzero : RowMotion.scrollDown.distance s n = 0 := hnone
        rw [hzero, List.replicate_zero, List.nil_append, Nat.sub_zero,
          List.take_of_length_le (Nat.le_of_eq (Grid.length_block hbottom))]
        exact Grid.shifted_self _ _ _
      next =>
        split
        next => rw [grid_mapGrid]; exact hshift
        next htop =>
          rw [mapRow, grid_mapGrid, grid_mapGrid]
          exact hshift.modify (Nat.sub_lt (Nat.pos_of_ne_zero htop) Nat.one_pos) hs.top_le
            fun _ => rfl

/-- The other grid is not touched. -/
theorem hidden_perform (m : RowMotion) (s : Screen) (n : Nat) :
    (s.perform (m.operation n)).hidden = s.hidden := by
  cases m with
  | scrollUp => exact hidden_mapGrid s _
  | scrollDown =>
    show (s.scrollDown n).hidden = _
    simp only [Screen.scrollDown]
    split
    next => rfl
    next =>
      split
      next => exact hidden_mapGrid s _
      next => exact (hidden_mapGrid _ _).trans (hidden_mapGrid s _)
  | insertLines =>
    show (s.insertLines n).hidden = _
    unfold Screen.insertLines
    split
    next => exact hidden_mapGrid s _
    next => rfl
  | deleteLines =>
    show (s.deleteLines n).hidden = _
    unfold Screen.deleteLines
    split
    next => exact hidden_mapGrid s _
    next => rfl

end RowMotion

end Teletype

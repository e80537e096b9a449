import Teletype.Proofs.Screen.Rows

/-!
# Which rows run on into which

Scrolling, inserting and deleting rows move the rows of a block, all by the same
distance (`RowMotion.source?`, `RowMotion.line?_perform`). A row that is moved
keeps the row below it, except at the two ends: the row above the block gets
another one below it, and so does the last row that stays in the block. A soft
wrap there joins what does not belong together. Scrolling down takes it away at the
upper end, and nothing else does (`RowMotion.staysJoined_iff`).
-/

namespace Teletype

namespace Grid

variable {top bottom n i j : Nat}

theorem above?_eq_some_iff : above? top bottom n i = some j ↔
    (i < top ∨ bottom < i) ∧ i = j ∨ (top ≤ i ∧ i + n ≤ bottom) ∧ i + n = j := by
  unfold above?
  split
  · rw [Option.some_inj]
    omega
  split
  · rw [Option.some_inj]
    omega
  · simp only [reduceCtorEq, false_iff]
    omega

theorem below?_eq_some_iff : below? top bottom n i = some j ↔
    (i < top ∨ bottom < i) ∧ i = j ∨ (top + n ≤ i ∧ i ≤ bottom) ∧ i - n = j := by
  unfold below?
  split
  · rw [Option.some_inj]
    omega
  split
  · rw [Option.some_inj]
    omega
  · simp only [reduceCtorEq, false_iff]
    omega

/-- The row below a row comes along, but for those at the ends of the block. -/
theorem above?_succ (hn : 0 < n) (hb : top ≤ bottom) (h : above? top bottom n i = some j) :
    above? top bottom n (i + 1) = some (j + 1) ↔
      i + 1 ≠ top ∧ ¬(top + n ≤ bottom ∧ i = bottom - n) := by
  rw [above?_eq_some_iff] at h ⊢
  omega

/-- The row below a row comes along, but for those at the ends of the block. -/
theorem below?_succ (hn : 0 < n) (hb : top ≤ bottom) (h : below? top bottom n i = some j) :
    below? top bottom n (i + 1) = some (j + 1) ↔
      i + 1 ≠ top ∧ ¬(top + n ≤ bottom ∧ i = bottom) := by
  rw [below?_eq_some_iff] at h ⊢
  omega

end Grid

/-- Whether a row on display runs on into the row below it. -/
def Screen.runsOn (s : Screen) (row : Nat) : Bool :=
  (s.line? row).any (·.wrapped)

/-- A way of moving rows. -/
inductive RowMotion where
  | scrollUp
  | scrollDown
  | insertLines
  | deleteLines
  deriving Repr, DecidableEq

namespace RowMotion

open Screen

/-- The operation that moves rows by `n`. -/
def operation (m : RowMotion) (n : Nat) : Operation :=
  match m with
  | .scrollUp => .scrollUp n
  | .scrollDown => .scrollDown n
  | .insertLines => .insertLines n
  | .deleteLines => .deleteLines n

/-- Whether rows are moved at all. -/
def applies (m : RowMotion) (s : Screen) : Bool :=
  match m with
  | .scrollUp | .scrollDown => true
  | .insertLines | .deleteLines => s.inMargins

/-- Whether rows are moved to the top. -/
def raises (m : RowMotion) : Bool :=
  match m with
  | .scrollUp | .deleteLines => true
  | .scrollDown | .insertLines => false

/-- The first row of the block that is moved; its last one is the bottom margin. -/
def first (m : RowMotion) (s : Screen) : Nat :=
  match m with
  | .scrollUp | .scrollDown => s.top
  | .insertLines | .deleteLines => s.cursor.row

/-- How far rows are moved, at most as far as the block goes. -/
def distance (m : RowMotion) (s : Screen) (n : Nat) : Nat :=
  min n (s.bottom - m.first s + 1)

/-- The row that comes to stand in row `i`; none where there is a new one. -/
def source? (m : RowMotion) (s : Screen) (n i : Nat) : Option Nat :=
  if !m.applies s then some i
  else if m.raises then Grid.above? (m.first s) s.bottom (m.distance s n) i
  else Grid.below? (m.first s) s.bottom (m.distance s n) i

/-- Whether the motion leaves no soft wrap in row `i`, directly above the block. -/
def cutsAbove (m : RowMotion) (s : Screen) (i : Nat) : Bool :=
  m = .scrollDown && i + 1 = s.top

/-- Whether every row that runs on, and is not the last one, stood directly above the
row that is below it now. -/
def StaysJoined (m : RowMotion) (s : Screen) (n : Nat) : Prop :=
  ∀ i, i + 1 < s.rows → (s.perform (m.operation n)).runsOn i = true →
    ∃ j, m.source? s n i = some j ∧ m.source? s n (i + 1) = some (j + 1)

/-- The last row that stays in the block, if any does. -/
def lastKept (m : RowMotion) (s : Screen) (n : Nat) : Nat :=
  if m.raises then s.bottom else s.bottom - m.distance s n

/-- Where it comes to stand. -/
def lastPlace (m : RowMotion) (s : Screen) (n : Nat) : Nat :=
  if m.raises then s.bottom - m.distance s n else s.bottom

/-- Whether the row above the block runs on, and the motion leaves it so. -/
def TearsAbove (m : RowMotion) (s : Screen) : Prop :=
  m ≠ .scrollDown ∧ 0 < m.first s ∧ s.runsOn (m.first s - 1) = true

/-- Whether rows stay in the block and the last of them runs on, but gets another row
below it. -/
def TearsBelow (m : RowMotion) (s : Screen) (n : Nat) : Prop :=
  m.first s + m.distance s n ≤ s.bottom ∧ m.lastPlace s n + 1 < s.rows ∧
    s.runsOn (m.lastKept s n) = true

variable {m : RowMotion} {s : Screen} {n i j : Nat}

instance : Decidable (m.TearsAbove s) :=
  inferInstanceAs (Decidable (_ ∧ _))

instance : Decidable (m.TearsBelow s n) :=
  inferInstanceAs (Decidable (_ ∧ _))

theorem staysJoined_iff_forall_lt : m.StaysJoined s n ↔
    ∀ i < s.rows - 1, (s.perform (m.operation n)).runsOn i = true →
      ∃ j ∈ m.source? s n i, m.source? s n (i + 1) = some (j + 1) := by
  refine forall_congr' fun i => ?_
  rw [Nat.lt_sub_iff_add_lt]
  rfl

instance : Decidable (m.StaysJoined s n) :=
  decidable_of_iff _ staysJoined_iff_forall_lt.symm

theorem first_le (hs : s.WellFormed) (ha : m.applies s = true) : m.first s ≤ s.bottom := by
  cases m with
  | scrollUp | scrollDown => exact hs.top_le
  | insertLines | deleteLines =>
    have hin : (s.top ≤ s.cursor.row && s.cursor.row ≤ s.bottom) = true := ha
    simp only [Bool.and_eq_true, decide_eq_true_eq] at hin
    exact hin.2

theorem distance_pos (hn : 0 < n) : 0 < m.distance s n := by
  unfold distance
  omega

theorem first_add_distance_le (hs : s.WellFormed) (ha : m.applies s = true) :
    m.first s + m.distance s n ≤ s.bottom + 1 := by
  have hfirst := first_le hs ha
  unfold distance
  omega

theorem cutsAbove_scrollDown : cutsAbove .scrollDown s i = decide (i + 1 = s.top) := rfl

theorem cutsAbove_of_ne (hm : m ≠ .scrollDown) : m.cutsAbove s i = false := by
  rw [cutsAbove, decide_eq_false hm]
  rfl

/-- Nothing is moved where the motion does not apply. -/
theorem perform_eq_self (ha : m.applies s = false) : s.perform (m.operation n) = s := by
  cases m with
  | scrollUp | scrollDown => cases ha
  | insertLines | deleteLines =>
    have hin : ¬ s.inMargins = true := Bool.eq_false_iff.mp ha
    exact if_neg hin

/-- The rows after a motion to the top. -/
theorem grid_perform_of_raises (ha : m.applies s = true) (hm : m.raises = true) :
    (s.perform (m.operation n)).grid =
      s.grid.shiftUp (m.first s) s.bottom (m.distance s n) (.blank s.cols) := by
  cases m with
  | scrollUp => exact grid_scrollUp s n
  | deleteLines =>
    have hin : s.inMargins = true := ha
    show (s.deleteLines n).grid = _
    rw [Screen.deleteLines, if_pos hin]
    exact grid_mapGrid _ _
  | scrollDown | insertLines => cases hm

/-- The rows after a motion to the bottom, but for a wrap that is taken away. -/
theorem getElem?_grid_perform_of_lowers (ha : m.applies s = true) (hm : m.raises = false)
    (hn : 0 < n) : (s.perform (m.operation n)).grid[i]? =
      (s.grid.shiftDown (m.first s) s.bottom (m.distance s n) (.blank s.cols))[i]?.map
        fun l => if m.cutsAbove s i then { l with wrapped := false } else l := by
  cases m with
  | scrollUp | deleteLines => cases hm
  | insertLines =>
    have hin : s.inMargins = true := ha
    show (s.insertLines n).grid[i]? = _
    rw [Screen.insertLines, if_pos hin]
    show (s.mapGrid _).grid[i]? = _
    rw [grid_mapGrid]
    exact Option.map_id'.symm
  | scrollDown =>
    -- the only motion that takes a wrap away, and only if there is a row above the block
    have hmoved : min n (s.bottom - s.top + 1) ≠ 0 := by omega
    show (s.scrollDown n).grid[i]? = _
    simp only [Screen.scrollDown, if_neg hmoved, top_mapGrid]
    split
    next htop =>
      have hkeeps : cutsAbove .scrollDown s i = false := by
        rw [cutsAbove_scrollDown, htop]
        exact decide_eq_false (by omega)
      rw [grid_mapGrid, hkeeps]
      exact Option.map_id'.symm
    next htop =>
      have hcut : cutsAbove .scrollDown s i = decide (s.top - 1 = i) := by
        rw [cutsAbove_scrollDown, decide_eq_decide]
        omega
      rw [mapRow, grid_mapGrid, grid_mapGrid, List.getElem?_modify, hcut]
      simp only [decide_eq_true_eq]
      rfl

/-- **Where every row comes from.** -/
theorem line?_perform (hs : s.WellFormed) (hn : 0 < n) :
    (s.perform (m.operation n)).line? i =
      ((m.source? s n i).elim (some (.blank s.cols)) s.line?).map fun l =>
        if m.cutsAbove s i then { l with wrapped := false } else l := by
  have hbottom : s.bottom < s.grid.length := hs.grid.length_eq ▸ hs.bottom_lt
  unfold source?
  cases ha : m.applies s with
  | false =>
    have hkeeps : m.cutsAbove s i = false := by
      rw [cutsAbove_of_ne (by rintro rfl; cases ha)]
    rw [perform_eq_self ha, hkeeps]
    exact Option.map_id'.symm
  | true =>
    have hfits := first_add_distance_le (n := n) hs ha
    simp only [Bool.not_true, Bool.false_eq_true, if_false]
    cases hm : m.raises with
    | true =>
      have hkeeps : m.cutsAbove s i = false := by
        rw [cutsAbove_of_ne (by rintro rfl; cases hm)]
      rw [line?, grid_perform_of_raises ha hm, Grid.getElem?_shiftUp_eq _ hfits hbottom, hkeeps]
      exact Option.map_id'.symm
    | false =>
      rw [line?, getElem?_grid_perform_of_lowers ha hm hn,
        Grid.getElem?_shiftDown_eq _ hfits hbottom]
      rfl

/-- A row that runs on did so where it came from. -/
theorem runsOn_perform (hs : s.WellFormed) (hn : 0 < n) :
    (s.perform (m.operation n)).runsOn i = true ↔
      (∃ j, m.source? s n i = some j ∧ s.runsOn j = true) ∧ m.cutsAbove s i = false := by
  rw [runsOn, line?_perform hs hn]
  cases hsource : m.source? s n i with
  | none => cases m.cutsAbove s i <;> simp [Line.blank]
  | some j => cases m.cutsAbove s i <;> simp [runsOn, Option.any_map]

/-! ## The two ends of the block -/

theorem cutsAbove_of_le (hi : m.first s ≤ i) : m.cutsAbove s i = false := by
  by_cases hm : m = .scrollDown
  · subst hm
    have htop : s.top ≤ i := hi
    rw [cutsAbove_scrollDown]
    exact decide_eq_false (by omega)
  · exact cutsAbove_of_ne hm

/-- Above the block every row stays where it is. -/
theorem source?_of_lt (hi : i < m.first s) : m.source? s n i = some i := by
  have hout : i < m.first s ∨ s.bottom < i := .inl hi
  rw [source?, Grid.above?, Grid.below?, if_pos hout, if_pos hout, ite_self, ite_self]

theorem source?_lastPlace (ha : m.applies s = true) (hk : m.first s + m.distance s n ≤ s.bottom) :
    m.source? s n (m.lastPlace s n) = some (m.lastKept s n) := by
  unfold source? lastPlace lastKept
  cases m.raises with
  | true =>
    simp only [ha, Bool.not_true, Bool.false_eq_true, if_false, if_true]
    rw [Grid.above?_eq_some_iff]
    omega
  | false =>
    simp only [ha, Bool.not_true, Bool.false_eq_true, if_false]
    rw [Grid.below?_eq_some_iff]
    omega

/-- The row below comes along, but for the two ends. -/
theorem source?_succ (hs : s.WellFormed) (hn : 0 < n) (ha : m.applies s = true)
    (h : m.source? s n i = some j) : m.source? s n (i + 1) = some (j + 1) ↔
      i + 1 ≠ m.first s ∧ ¬(m.first s + m.distance s n ≤ s.bottom ∧ i = m.lastPlace s n) := by
  have hfirst := first_le hs ha
  have hpos : 0 < m.distance s n := distance_pos hn
  unfold source? at h ⊢
  unfold lastPlace
  simp only [ha, Bool.not_true, Bool.false_eq_true, if_false] at h ⊢
  cases hm : m.raises with
  | true =>
    rw [hm] at h
    exact Grid.above?_succ hpos hfirst h
  | false =>
    rw [hm] at h
    exact Grid.below?_succ hpos hfirst h

theorem runsOn_perform_above (hs : s.WellFormed) (hn : 0 < n) (h : m.TearsAbove s) :
    (s.perform (m.operation n)).runsOn (m.first s - 1) = true := by
  obtain ⟨hm, hpos, hruns⟩ := h
  exact (runsOn_perform hs hn).mpr ⟨⟨_, source?_of_lt (by omega), hruns⟩, cutsAbove_of_ne hm⟩

theorem runsOn_perform_below (hs : s.WellFormed) (hn : 0 < n) (ha : m.applies s = true)
    (h : m.TearsBelow s n) : (s.perform (m.operation n)).runsOn (m.lastPlace s n) = true := by
  obtain ⟨hkept, -, hruns⟩ := h
  have hplace : m.first s ≤ m.lastPlace s n := by
    unfold lastPlace
    split <;> omega
  exact (runsOn_perform hs hn).mpr ⟨⟨_, source?_lastPlace ha hkept, hruns⟩, cutsAbove_of_le hplace⟩

theorem staysJoined_of_not_tears (hs : s.WellFormed) (hn : 0 < n) (ha : m.applies s = true)
    (habove : ¬ m.TearsAbove s) (hbelow : ¬ m.TearsBelow s n) : m.StaysJoined s n := by
  intro i hi hruns
  obtain ⟨⟨j, hj, hran⟩, hcut⟩ := (runsOn_perform hs hn).mp hruns
  refine ⟨j, hj, (source?_succ hs hn ha hj).mpr ⟨fun hend => habove ?_, fun hend => hbelow ?_⟩⟩
  · -- above the block the row has not moved, so it is the one that ran on before
    have hstays : m.source? s n i = some i := source?_of_lt (by omega)
    obtain rfl : i = j := Option.some_inj.mp (hstays.symm.trans hj)
    have hrow : m.first s - 1 = i := by omega
    refine ⟨?_, by omega, hrow ▸ hran⟩
    rintro rfl
    rw [cutsAbove_scrollDown] at hcut
    exact of_decide_eq_false hcut hend
  · -- at the lower end it is the last row that stays in the block
    obtain ⟨hkept, rfl⟩ := hend
    obtain rfl : m.lastKept s n = j :=
      Option.some_inj.mp ((source?_lastPlace ha hkept).symm.trans hj)
    exact ⟨hkept, hi, hran⟩

theorem not_tears_of_staysJoined (hs : s.WellFormed) (hn : 0 < n) (ha : m.applies s = true)
    (h : m.StaysJoined s n) : ¬ m.TearsAbove s ∧ ¬ m.TearsBelow s n := by
  have hfirst := first_le hs ha
  have hbottom := hs.bottom_lt
  constructor
  · intro habove
    have hpos : 0 < m.first s := habove.2.1
    obtain ⟨j, hj, hnext⟩ := h _ (by omega) (runsOn_perform_above hs hn habove)
    exact ((source?_succ hs hn ha hj).mp hnext).1 (by omega)
  · intro hbelow
    obtain ⟨j, hj, hnext⟩ := h _ hbelow.2.1 (runsOn_perform_below hs hn ha hbelow)
    exact ((source?_succ hs hn ha hj).mp hnext).2 ⟨hbelow.1, rfl⟩

/-- Where nothing is moved, nothing is torn. -/
theorem staysJoined_of_not_applies (ha : m.applies s = false) : m.StaysJoined s n := by
  intro i _ _
  have hstays (k : Nat) : m.source? s n k = some k := by
    rw [source?, ha]
    rfl
  exact ⟨i, hstays i, hstays (i + 1)⟩

/-- **When a motion joins nothing new.** On every screen that can come about, each
row comes from where `source?` says, and the rows that run on after a motion ran on
into the row below them before, unless the row above the block or the last row that
stays in it ran on and is left so. -/
theorem staysJoined_iff (cols rows capacity : Nat) (ops : List Operation) (m : RowMotion)
    (hn : 0 < n) :
    let s := (initial cols rows capacity).performAll ops
    (∀ i, (s.perform (m.operation n)).line? i =
      ((m.source? s n i).elim (some (.blank s.cols)) s.line?).map fun l =>
        if m.cutsAbove s i then { l with wrapped := false } else l) ∧
    (m.StaysJoined s n ↔
      (m.applies s = true → ¬ m.TearsAbove s ∧ ¬ m.TearsBelow s n)) := by
  intro s
  have hs : s.WellFormed := (wellFormed_initial cols rows capacity).performAll ops
  refine ⟨fun i => line?_perform hs hn, fun h ha => not_tears_of_staysJoined hs hn ha h, ?_⟩
  intro h
  cases ha : m.applies s with
  | false => exact staysJoined_of_not_applies ha
  | true => exact staysJoined_of_not_tears hs hn ha (h ha).1 (h ha).2

/-- Scrolling down takes along a row and the one it runs on into. -/
theorem staysJoined_scrollDown :
    let s := (initial 2 3 0).performAll ("abc".toList.map .print)
    RowMotion.scrollDown.StaysJoined s 1 ∧ (s.scrollDown 1).runsOn 1 = true :=
  ⟨(staysJoined_iff 2 3 0 _ .scrollDown Nat.one_pos).2.mpr fun _ => by decide +kernel,
    by decide +kernel⟩

/-- Each motion can leave a row running on into one that was not below it: `ab` runs
on into `c` before, and into a blank row afterwards. The transcript then leaves the
blank row out. -/
theorem joins_apart :
    let s := (initial 2 3 0).performAll ("abc".toList.map .print)
    let lower := s.setMargins 1 2
    let upper := s.setMargins 0 1
    (s.text = "ab\nc\n" ∧ s.runsOn 0 = true) ∧
      (¬ insertLines.StaysJoined s 1 ∧ ¬ deleteLines.StaysJoined s 1 ∧
        ¬ scrollUp.StaysJoined lower 1 ∧ ¬ scrollDown.StaysJoined upper 1) ∧
      ((s.insertLines 1).text = "ab\n\nc" ∧ (s.insertLines 1).runsOn 0 = true ∧
        (s.insertLines 1).transcript = "ab\nc") ∧
      ((s.deleteLines 1).text = "ab\n\n" ∧ (s.deleteLines 1).runsOn 0 = true) ∧
      ((lower.scrollUp 1).text = "ab\n\n" ∧ (lower.scrollUp 1).runsOn 0 = true) ∧
      ((upper.scrollDown 1).text = "\nab\n" ∧ (upper.scrollDown 1).runsOn 1 = true) := by
  decide +kernel

end RowMotion
end Teletype

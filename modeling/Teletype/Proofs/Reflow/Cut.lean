import Teletype.Reflow

/-!
# Cutting a paragraph, character by character

Cells come in groups, a head with its tail or a cell alone. Cutting them into
rows and locating a cell in these rows both go group by group and end a row at
the same places, so what is said of a paragraph is proved group by group
(`groups_induction`).
-/

namespace Teletype.Reflow

variable {cols : Nat} {row : List Cell} {c next : Cell} {rest : List Cell}

/-- Whether cells begin with a tail. -/
def startsWithTail (cells : List Cell) : Bool :=
  cells.head?.any (·.tail)

/-- What holds of no cells and keeps holding with a group put in front holds of
all cells. -/
theorem groups_induction {P : List Cell → Prop} (nil : P [])
    (alone : ∀ c rest, startsWithTail rest = false → P rest → P (c :: rest))
    (pair : ∀ c next rest, next.tail = true → P rest → P (c :: next :: rest)) :
    ∀ cells, P cells
  | [] => nil
  | [c] => alone c [] rfl nil
  | c :: next :: rest => by
    cases htail : next.tail with
    | true => exact pair c next rest htail (groups_induction nil alone pair rest)
    | false => exact alone c (next :: rest) htail (groups_induction nil alone pair (next :: rest))

/-- The cells that a head and its tail come to: a single column has room for the
head alone. -/
def pairCells (cols : Nat) (c next : Cell) : List Cell :=
  if 2 ≤ cols then [c, next] else [c]

/-- Whether the row begun ends before `width` more cells. -/
def isFull (cols width : Nat) (row : List Cell) : Bool :=
  cols < row.length + width && !row.isEmpty

/-- A row that is not full has room. -/
theorem length_le_of_not_full {width : Nat} (hcols : 2 ≤ cols) (hwidth : width ≤ 2)
    (hlen : row.length ≤ cols) (h : ¬ isFull cols width row = true) :
    row.length + width ≤ cols := by
  cases row with
  | nil =>
    simp only [List.length_nil]
    omega
  | cons d others =>
    simp only [isFull, List.isEmpty_cons, Bool.not_false, Bool.and_true, decide_eq_true_eq] at h
    omega

/-! ## Rows -/

@[simp] theorem cut_nil (cols : Nat) (row : List Cell) : cut cols row [] = [row] := by
  rw [cut]

theorem cut_alone (h : startsWithTail rest = false) :
    cut cols row (c :: rest) =
      if isFull cols 1 row then row :: cut cols [c] rest else cut cols (row ++ [c]) rest := by
  cases rest with
  | nil => rw [cut]; simp only [cut_nil]; rfl
  | cons next rest =>
    replace h : next.tail = false := h
    rw [cut, if_neg (by rw [h]; decide)]
    rfl

theorem cut_pair (h : next.tail = true) :
    cut cols row (c :: next :: rest) =
      if isFull cols 2 row then row :: cut cols (pairCells cols c next) rest
      else cut cols (row ++ pairCells cols c next) rest := by
  rw [cut, if_pos h]
  rfl

theorem cut_ne_nil (cols : Nat) (row cells : List Cell) : cut cols row cells ≠ [] := by
  induction cells using groups_induction generalizing row with
  | nil => rw [cut_nil]; exact List.cons_ne_nil _ _
  | alone c rest h ih =>
    rw [cut_alone h]
    split
    · exact List.cons_ne_nil _ _
    · exact ih _
  | pair c next rest h ih =>
    rw [cut_pair h]
    split
    · exact List.cons_ne_nil _ _
    · exact ih _

/-- A row with rows below it runs on. -/
theorem asLines_cons {rows : List (List Cell)} (row : List Cell) (h : rows ≠ []) :
    asLines cols (row :: rows) =
      { cells := Line.fit cols row, wrapped := true } :: asLines cols rows := by
  obtain ⟨next, others, rfl⟩ := List.exists_cons_of_ne_nil h
  rfl

/-! ## Places -/

variable {line used target : Nat}

/-- The row and the column at which a group of `width` cells is put. -/
def landing (cols width line used : Nat) : Nat × Nat :=
  if cols < used + width && used ≠ 0 then (line + 1, 0) else (line, used)

theorem locate_alone (h : startsWithTail rest = false) :
    locate cols line used (c :: rest) target =
      if target < 1 then ⟨(landing cols 1 line used).1, (landing cols 1 line used).2, false⟩
      else locate cols (landing cols 1 line used).1 ((landing cols 1 line used).2 + 1) rest
        (target - 1) := by
  simp only [Nat.lt_one_iff]
  cases rest with
  | nil => rw [locate]; rfl
  | cons next rest =>
    replace h : next.tail = false := h
    rw [locate, if_neg (by rw [h]; decide)]
    rfl

theorem locate_pair (h : next.tail = true) :
    locate cols line used (c :: next :: rest) target =
      if target < 2 then ⟨(landing cols 2 line used).1, (landing cols 2 line used).2, false⟩
      else locate cols (landing cols 2 line used).1
        ((landing cols 2 line used).2 + (pairCells cols c next).length) rest (target - 2) := by
  rw [locate, if_pos h, pairCells, apply_ite List.length]
  rfl

/-! ## Groups

Where there is room for a head and its tail, both kinds of groups are treated
alike. -/

/-- What stands in front of `rest` is a group. -/
inductive IsGroup (rest : List Cell) : List Cell → Prop
  | alone (c : Cell) (h : startsWithTail rest = false) : IsGroup rest [c]
  | pair (c next : Cell) (h : next.tail = true) : IsGroup rest [c, next]

/-- What holds of no cells and keeps holding with a group of either kind put in
front holds of all cells. -/
theorem group_induction {P : List Cell → Prop} (nil : P [])
    (group : ∀ g rest, IsGroup rest g → P rest → P (g ++ rest)) (cells : List Cell) : P cells :=
  groups_induction nil (fun c rest h ih => group [c] rest (.alone c h) ih)
    (fun c next rest h ih => group [c, next] rest (.pair c next h) ih) cells

section Group

variable {g : List Cell}

theorem IsGroup.length_pos (h : IsGroup rest g) : 0 < g.length := by
  cases h <;> exact Nat.succ_pos _

theorem IsGroup.length_le (h : IsGroup rest g) : g.length ≤ 2 := by
  cases h with
  | alone => exact Nat.le_succ 1
  | pair => exact Nat.le_refl 2

theorem cut_group (hcols : 2 ≤ cols) (h : IsGroup rest g) (row : List Cell) :
    cut cols row (g ++ rest) =
      if isFull cols g.length row then row :: cut cols g rest else cut cols (row ++ g) rest := by
  cases h with
  | alone c hrest => exact cut_alone hrest
  | pair c next hnext =>
    show cut cols row (c :: next :: rest) = _
    rw [cut_pair hnext, pairCells, if_pos hcols]
    rfl

theorem landing_eq (cols width line : Nat) (row : List Cell) :
    landing cols width line row.length =
      if isFull cols width row then (line + 1, 0) else (line, row.length) := by
  have hempty : (!row.isEmpty) = decide (row.length ≠ 0) := by
    cases row <;> simp
  rw [landing, isFull, hempty]

theorem locate_group (hcols : 2 ≤ cols) (h : IsGroup rest g) (line target : Nat)
    (row : List Cell) :
    locate cols line row.length (g ++ rest) target =
      if isFull cols g.length row then
        if target < g.length then ⟨line + 1, 0, false⟩
        else locate cols (line + 1) g.length rest (target - g.length)
      else
        if target < g.length then ⟨line, row.length, false⟩
        else locate cols line (row ++ g).length rest (target - g.length) := by
  rw [List.length_append]
  cases h with
  | alone c hrest =>
    show locate cols line row.length (c :: rest) target = _
    rw [locate_alone hrest, landing_eq]
    cases isFull cols 1 row with
    | false => rfl
    | true => rw [if_pos rfl, Nat.zero_add]; rfl
  | pair c next hnext =>
    show locate cols line row.length (c :: next :: rest) target = _
    rw [locate_pair hnext, landing_eq, pairCells, if_pos hcols]
    cases isFull cols 2 row with
    | false => rfl
    | true => rw [if_pos rfl, Nat.zero_add]; rfl

/-- A group has room in a new row, and in the row begun unless that is full. -/
theorem IsGroup.length_append_le (h : IsGroup rest g) (hcols : 2 ≤ cols)
    (hlen : row.length ≤ cols) (hroom : ¬ isFull cols g.length row = true) :
    (row ++ g).length ≤ cols := by
  rw [List.length_append]
  exact length_le_of_not_full hcols h.length_le hlen hroom

end Group

/-- Cutting loses no cell. -/
theorem flatten_cut (hcols : 2 ≤ cols) (row cells : List Cell) :
    (cut cols row cells).flatten = row ++ cells := by
  induction cells using group_induction generalizing row with
  | nil => rw [cut_nil, List.flatten_singleton, List.append_nil]
  | group g rest hg ih =>
    rw [cut_group hcols hg]
    split
    · rw [List.flatten_cons, ih]
    · rw [ih, List.append_assoc]

/-- Cutting makes up no cell, at any width. -/
theorem mem_of_mem_cut {cells r : List Cell} (hr : r ∈ cut cols row cells) (hc : c ∈ r) :
    c ∈ row ++ cells := by
  fun_induction cut cols row cells with
  | case1 row =>
    rw [List.mem_singleton.mp hr] at hc
    exact List.mem_append_left [] hc
  | _ => grind

/-- No row is wider than asked. -/
theorem length_of_mem_cut (hcols : 2 ≤ cols) {cells : List Cell} (hlen : row.length ≤ cols) :
    ∀ r ∈ cut cols row cells, r.length ≤ cols := by
  induction cells using group_induction generalizing row with
  | nil =>
    intro r hr
    rw [cut_nil, List.mem_singleton] at hr
    rwa [hr]
  | group g rest hg ih =>
    rw [cut_group hcols hg]
    split
    · exact List.forall_mem_cons.mpr ⟨hlen, ih (Nat.le_trans hg.length_le hcols)⟩
    · next hroom => exact ih (hg.length_append_le hcols hlen hroom)

/-- **The last cell, and what is behind it, is found in the last row.** -/
theorem row_locate (hcols : 2 ≤ cols) {cells : List Cell} (hlen : row.length ≤ cols)
    (hlast : cells.length ≤ target + 1) (hbehind : target ≤ cells.length) :
    (locate cols line row.length cells target).row + 1 = line + (cut cols row cells).length := by
  induction cells using group_induction generalizing line row target with
  | nil =>
    obtain rfl : target = 0 := Nat.le_zero.mp hbehind
    rw [locate, cut_nil, List.length_singleton]
    split
    · rfl
    · next hroom =>
      have hlt : row.length + 0 < cols := by
        simp only [decide_true, Bool.true_and, decide_eq_true_eq] at hroom
        omega
      show line + (row.length + 0) / cols + 1 = line + 1
      rw [Nat.div_eq_of_lt hlt, Nat.add_zero]
  | group g rest hg ih =>
    have hpos := hg.length_pos
    have hshort := hg.length_le
    rw [List.length_append] at hlast hbehind
    -- a target inside the group is its last cell, and nothing follows
    have hend : target < g.length → rest = [] := fun hlt =>
      List.length_eq_zero_iff.mp (by omega)
    rw [locate_group hcols hg, cut_group hcols hg]
    by_cases hfull : isFull cols g.length row = true
    · rw [if_pos hfull, if_pos hfull, List.length_cons]
      split
      · next hlt =>
        rw [hend hlt, cut_nil, List.length_singleton]
      · rw [ih (Nat.le_trans hshort hcols) (by omega) (by omega)]
        omega
    · rw [if_neg hfull, if_neg hfull]
      split
      · next hlt =>
        rw [hend hlt, cut_nil, List.length_singleton]
      · exact ih (hg.length_append_le hcols hlen hfull) (by omega) (by omega)

end Teletype.Reflow

import Teletype.Proofs.Reflow.Texts

/-!
# There and back

A place among the rows of a text says how far into the text it is: the cells of
the rows above it, and its column. For the place of a cell this is the cell
again, or the head that the cell is a tail of (`Behind`, `behind_locate`). So a
cursor that is carried to another width and back does not leave its row
upwards, and the rows of texts, laid out at another width and then at their own,
are what they were (`exists_reflow_reflow`).
-/

namespace Teletype.Reflow

variable {cols line target : Nat} {row last cells : List Cell} {full : List (List Cell)}

/-! ## Where places are -/

/-- Places are not above the row begun. -/
theorem le_row_locate (hcols : 2 ≤ cols) (line : Nat) (row cells : List Cell) (target : Nat) :
    line ≤ (locate cols line row.length cells target).row := by
  induction cells using group_induction generalizing line row target with
  | nil =>
    rw [locate]
    split
    · exact Nat.le_refl line
    · exact Nat.le_add_right line _
  | group g rest hg ih =>
    rw [locate_group hcols hg]
    split <;> split
    · exact Nat.le_succ line
    · exact Nat.le_trans (Nat.le_succ line) (ih (line + 1) g _)
    · exact Nat.le_refl line
    · exact ih line (row ++ g) _

/-- Places are inside the width. -/
theorem col_locate_lt (hcols : 2 ≤ cols) {row : List Cell} (hlen : row.length ≤ cols) :
    (locate cols line row.length cells target).col < cols := by
  induction cells using group_induction generalizing line row target with
  | nil =>
    rw [locate]
    split
    · show cols - 1 < cols
      omega
    · exact Nat.mod_lt _ (by omega)
  | group g rest hg ih =>
    have hpos := hg.length_pos
    rw [locate_group hcols hg]
    by_cases hfull : isFull cols g.length row = true
    · rw [if_pos hfull]
      split
      · show 0 < cols
        omega
      · exact ih (Nat.le_trans hg.length_le hcols)
    · have hroom := hg.length_append_le hcols hlen hfull
      rw [if_neg hfull]
      split
      · rw [List.length_append] at hroom
        show row.length < cols
        omega
      · exact ih hroom

/-- The first row goes on with the row begun. -/
theorem length_le_of_cut_eq (hcols : 2 ≤ cols) {first : List Cell} {others : List (List Cell)}
    (hcut : cut cols row cells = first :: others) : row.length ≤ first.length := by
  induction cells using group_induction generalizing row with
  | nil =>
    rw [cut_nil] at hcut
    exact Nat.le_of_eq (congrArg List.length (List.cons.inj hcut).1)
  | group g rest hg ih =>
    rw [cut_group hcols hg] at hcut
    split at hcut
    · exact Nat.le_of_eq (congrArg List.length (List.cons.inj hcut).1)
    · have hlonger := ih hcut
      rw [List.length_append] at hlonger
      omega

/-- A place that lies in the row begun, and is no less far than the last row, has no
row above it. -/
theorem eq_nil_of_lt_length (hcols : 2 ≤ cols) (hcut : cut cols row cells = full ++ [last])
    {far : Nat} (hlt : far < row.length) (hfar : full.flatten.length ≤ far) : full = [] := by
  cases full with
  | nil => rfl
  | cons first others =>
    have hfirst := length_le_of_cut_eq hcols hcut
    rw [List.flatten_cons, List.length_append] at hfar
    omega

/-- **A place that is no less far into cells than their last row is in that row, or
below it.** -/
theorem le_row_locate_of_le (hcols : 2 ≤ cols) (hcut : cut cols row cells = full ++ [last])
    (hfar : full.flatten.length ≤ row.length + target) :
    line + full.length ≤ (locate cols line row.length cells target).row := by
  induction cells using group_induction generalizing line row target full with
  | nil =>
    rw [cut_nil] at hcut
    obtain ⟨rfl, -⟩ := List.append_inj' (show [] ++ [row] = full ++ [last] from hcut) rfl
    exact le_row_locate hcols line row [] target
  | group g rest hg ih =>
    rw [cut_group hcols hg] at hcut
    rw [locate_group hcols hg]
    by_cases hfull : isFull cols g.length row = true
    · rw [if_pos hfull] at hcut ⊢
      cases full with
      | nil => exact absurd (List.cons.inj hcut).2 (cut_ne_nil cols g rest)
      | cons r full =>
        obtain ⟨rfl, hrest⟩ := List.cons.inj hcut
        rw [List.flatten_cons, List.length_append] at hfar
        rw [List.length_cons]
        split
        · next hlt =>
          rw [eq_nil_of_lt_length hcols hrest hlt (by omega)]
          exact Nat.le_refl _
        · have hbelow : line + 1 + full.length ≤
              (locate cols (line + 1) g.length rest (target - g.length)).row := ih hrest (by omega)
          omega
    · rw [if_neg hfull] at hcut ⊢
      split
      · next hlt =>
        have hbegun : row.length + target < (row ++ g).length := by
          rw [List.length_append]
          omega
        rw [eq_nil_of_lt_length hcols hcut hbegun hfar]
        exact Nat.le_refl _
      · exact ih hcut (by rw [List.length_append]; omega)

/-! ## How far into cells a place is -/

/-- Whether `far` cells lie in front of the place of a cell, which is `target` cells
behind the `begun` ones of a row: at least those in front of the cell, or one less
if it is a tail or the end. -/
def Reaches (cells : List Cell) (begun target far : Nat) : Prop :=
  begun + target ≤ far ∨ begun + target = far + 1 ∧
    (target = cells.length ∨ startsWithTail (cells.drop target) = true)

/-- Inside a group there is a tail. -/
theorem IsGroup.startsWithTail_drop {rest g : List Cell} (h : IsGroup rest g) (hpos : 0 < target)
    (hlt : target < g.length) : startsWithTail ((g ++ rest).drop target) = true := by
  cases h with
  | alone c hrest =>
    rw [List.length_singleton] at hlt
    omega
  | pair c next hnext =>
    obtain rfl : target = 1 := by
      rw [List.length_cons, List.length_singleton] at hlt
      omega
    exact hnext

/-- The place of a cell of a group is that of its first cell. -/
theorem IsGroup.reaches {rest g : List Cell} (h : IsGroup rest g) (begun : Nat)
    (hlt : target < g.length) : Reaches (g ++ rest) begun target begun := by
  have hshort := h.length_le
  rcases Nat.eq_zero_or_pos target with rfl | hpos
  · exact .inl (Nat.le_refl begun)
  · exact .inr ⟨by omega, .inr (h.startsWithTail_drop hpos hlt)⟩

/-- What is behind a group is behind the row with the group. -/
theorem Reaches.behind {rest g : List Cell} {begun far : Nat} (hle : g.length ≤ target)
    (h : Reaches rest (begun + g.length) (target - g.length) far) :
    Reaches (g ++ rest) begun target far := by
  have hdrop : (g ++ rest).drop target = rest.drop (target - g.length) := by
    rw [List.drop_append, List.drop_eq_nil_of_le hle, List.nil_append]
  have hlength : (g ++ rest).length = g.length + rest.length := List.length_append
  unfold Reaches at h ⊢
  rw [hdrop, hlength]
  rcases h with h | ⟨hfar, hend | htail⟩
  · exact .inl (by omega)
  · exact .inr ⟨by omega, .inl (by omega)⟩
  · exact .inr ⟨by omega, .inr htail⟩

theorem Reaches.further {begun far : Nat} (h : Reaches cells begun target far) (n : Nat) :
    Reaches cells (n + begun) target (n + far) :=
  h.imp (fun h => by omega) fun h => ⟨by omega, h.2⟩

/-- **The place of a cell is as far into the cells as the cell.** -/
theorem reaches_locate (hcols : 2 ≤ cols) {j : Nat} (hj : j < (cut cols row cells).length)
    (hrow : (locate cols line row.length cells target).row = line + j) :
    Reaches cells row.length target (((cut cols row cells).take j).flatten.length +
      (locate cols line row.length cells target).col) := by
  induction cells using group_induction generalizing line row target j with
  | nil =>
    rw [cut_nil, List.length_singleton] at hj
    obtain rfl : j = 0 := by omega
    rw [List.take_zero, List.flatten_nil, List.length_nil, Nat.zero_add]
    rw [locate] at hrow ⊢
    by_cases hend : (decide (target = 0) && decide (row.length = cols)) = true
    · rw [if_pos hend]
      simp only [Bool.and_eq_true, decide_eq_true_eq] at hend
      refine .inr ⟨?_, .inl hend.1⟩
      show row.length + target = cols - 1 + 1
      omega
    · rw [if_neg hend] at hrow ⊢
      have hlt := (Nat.div_eq_zero_iff_lt (by omega)).mp (Nat.add_left_cancel hrow)
      exact .inl (Nat.le_of_eq (Nat.mod_eq_of_lt hlt).symm)
  | group g rest hg ih =>
    have hplace := locate_group hcols hg line target row
    have hrows := cut_group hcols hg row
    by_cases hfull : isFull cols g.length row = true
    · rw [if_pos hfull] at hplace hrows
      rw [hplace] at hrow ⊢
      rw [hrows] at hj ⊢
      by_cases hlt : target < g.length
      · rw [if_pos hlt] at hrow ⊢
        obtain rfl : 1 = j := Nat.add_left_cancel (n := line) hrow
        have hfront : ((row :: cut cols g rest).take 1).flatten.length + 0 = row.length := by
          simp
        rw [hfront]
        exact hg.reaches row.length hlt
      · rw [if_neg hlt] at hrow ⊢
        have hbelow := le_row_locate hcols (line + 1) g rest (target - g.length)
        obtain ⟨i, rfl⟩ : ∃ i, j = i + 1 := ⟨j - 1, by omega⟩
        have hplaced : (locate cols (line + 1) g.length rest (target - g.length)).row =
            line + 1 + i := by omega
        have hrest := ih (Nat.lt_of_succ_lt_succ hj) hplaced
        refine Reaches.behind (Nat.le_of_not_lt hlt) ?_
        rw [List.take_succ_cons, List.flatten_cons, List.length_append, Nat.add_assoc]
        exact hrest.further row.length
    · rw [if_neg hfull] at hplace hrows
      rw [hplace] at hrow ⊢
      rw [hrows] at hj ⊢
      by_cases hlt : target < g.length
      · rw [if_pos hlt] at hrow ⊢
        obtain rfl : 0 = j := Nat.add_left_cancel (n := line) hrow
        rw [List.take_zero, List.flatten_nil, List.length_nil, Nat.zero_add]
        exact hg.reaches row.length hlt
      · rw [if_neg hlt] at hrow ⊢
        have hrest := ih hj hrow
        rw [List.length_append] at hrest ⊢
        exact hrest.behind (Nat.le_of_not_lt hlt)

/-! ## There and back -/

section Return

variable {width : Nat} {t : List Cell} {ts : List (List Cell)} {p : Position}

theorem col_le_keepBehind (cols : Nat) (pendingWrap : Bool) (spot : Position) :
    spot.col ≤ (keepBehind cols pendingWrap spot).col := by
  unfold keepBehind
  split
  · exact Nat.le_refl _
  · split
    · exact Nat.le_succ _
    · exact Nat.le_refl _

theorem col_keepBehind_lt (pendingWrap : Bool) {spot : Position} (h : spot.col < cols) :
    (keepBehind cols pendingWrap spot).col < cols := by
  unfold keepBehind
  split
  · exact h
  · split
    · next hroom =>
      simp only [Bool.and_eq_true, decide_eq_true_eq] at hroom
      exact hroom.2
    · exact h

theorem col_placeIn_lt (hcols : 2 ≤ cols) (pendingWrap : Bool) (t : List Cell) (target : Nat) :
    (placeIn cols pendingWrap t target).col < cols :=
  col_keepBehind_lt pendingWrap
    (show (locate cols 0 ([] : List Cell).length t target).col < cols from
      col_locate_lt hcols (Nat.zero_le cols))

/-- Blank rows above the one to be reached are there already. -/
theorem reach_append_blanks {n i : Nat} {rows : List Line} (h : rows.length + n ≤ i + 1) :
    reach cols i (rows ++ List.replicate n (.blank cols)) = reach cols i rows := by
  have hrest : i + 1 - rows.length = n + (i + 1 - (rows.length + n)) := by omega
  rw [reach, reach, List.append_assoc, List.length_append, List.length_replicate, hrest,
    List.replicate_append_replicate]

/-- **A cursor in the last row of a text does not leave it upwards on the way back.** -/
theorem le_row_placeIn_placeIn (hcols : 2 ≤ cols) (hwidth : 2 ≤ width)
    (hcut : cut cols [] t = full ++ [last]) (hlast : last ≠ [])
    (hstart : startsWithTail last = false)
    {pendingWrap : Bool} {col : Nat} {spot : Position}
    (hspot : placeIn width pendingWrap t (full.flatten.length + col) = spot)
    (hin : spot.row < (cut width [] t).length) (pendingWrap' : Bool) :
    full.length ≤ (placeIn cols pendingWrap' t
      (((cut width [] t).take spot.row).flatten.length + spot.col)).row := by
  have hflatten := flatten_cut hcols [] t
  rw [hcut, List.flatten_append, List.flatten_singleton, List.nil_append] at hflatten
  have hlen := congrArg List.length hflatten
  have hpos := List.length_pos_iff.mpr hlast
  rw [List.length_append] at hlen
  have hplaced : (locate width 0 ([] : List Cell).length t (full.flatten.length + col)).row =
      0 + spot.row := by
    rw [← hspot, placeIn, row_keepBehind, Nat.zero_add]
    rfl
  have hbehind : (locate width 0 0 t (full.flatten.length + col)).col ≤ spot.col := by
    rw [← hspot]
    exact col_le_keepBehind width pendingWrap _
  have hreaches := reaches_locate hwidth hin hplaced
  -- the place is no cell of a row above, for the last row begins with no tail
  have hfar : full.flatten.length ≤
      ((cut width [] t).take spot.row).flatten.length + spot.col := by
    rcases hreaches with hle | ⟨hprev, hend | htail⟩
    · rw [List.length_nil] at hle
      omega
    · rw [List.length_nil] at hprev
      omega
    · cases col with
      | zero =>
        rw [← hflatten, Nat.add_zero, List.drop_left, hstart] at htail
        cases htail
      | succ col =>
        rw [List.length_nil] at hprev
        omega
  rw [placeIn, row_keepBehind, ← Nat.zero_add full.length]
  refine le_row_locate_of_le hcols hcut ?_
  rw [List.length_nil, Nat.zero_add]
  exact hfar

/-- A cursor in a blank row below texts stays below them. -/
theorem exists_reflow_below (hcols : 2 ≤ cols) (hwidth : 2 ≤ width) (hts : ∀ u ∈ ts, Snug cols u)
    {k : Nat} (hrow : p.row = (layTexts cols ts).length + k) (blanks : Nat) :
    ∃ r, reflow width (layTexts cols ts ++ List.replicate (k + 1 + blanks) (.blank cols)) (some p) =
        (reach width r.row (layTexts width ts), some r) ∧ r.col < width ∧
      (layTexts width ts).length ≤ r.row := by
  -- the blank rows are texts too, and the cursor is in the last one
  have hblanks : ∀ n cols, layTexts cols (ts ++ List.replicate n []) =
      layTexts cols ts ++ List.replicate n (.blank cols) := by
    intro n cols
    rw [layTexts_append, layTexts_replicate_nil]
  have hone : ts ++ List.replicate (k + 1) [] = (ts ++ List.replicate k []) ++ [[]] := by
    rw [List.replicate_succ', List.append_assoc]
  have hsnug : ∀ u ∈ (ts ++ List.replicate k []) ++ [[]], Snug cols u := by
    intro u hu
    rw [← hone] at hu
    rcases List.mem_append.mp hu with hu | hu
    · exact hts u hu
    · rw [List.eq_of_mem_replicate hu]
      exact snug_nil cols
  have habove : (layTexts width (ts ++ List.replicate k [])).length =
      (layTexts width ts).length + k := by
    rw [hblanks, List.length_append, List.length_replicate]
  generalize hr : below (layTexts width (ts ++ List.replicate k [])).length
    (placeIn width p.pendingWrap [] (0 + p.col)) = r
  have hcut : cut cols [] [] = [] ++ [[]] := cut_nil cols []
  have hreflow := reflow_layTexts width hcols hsnug hcut (Nat.le_refl 0) (by
    rw [hblanks, List.length_append, List.length_replicate]
    exact hrow) (.inl rfl) blanks hr
  have hbelow : (layTexts width ts).length + k ≤ r.row := by
    rw [← hr, habove]
    exact Nat.le_add_right _ _
  rw [← hone, hblanks, hblanks, List.append_assoc, List.replicate_append_replicate,
    reach_append_blanks (by omega)] at hreflow
  refine ⟨r, hreflow, ?_, by omega⟩
  rw [← hr]
  exact col_placeIn_lt hwidth p.pendingWrap [] (0 + p.col)

/-- **Texts laid out at another width and back have the rows that they had.** The
cursor, in the last of them at first, has not gone up. -/
theorem exists_reflow_reflow (hcols : 2 ≤ cols) (hwidth : 2 ≤ width)
    (hts : ∀ u ∈ ts ++ [t], Snug cols u) (hts' : ∀ u ∈ ts ++ [t], Snug width u)
    (hcut : cut cols [] t = full ++ [last]) (hlast : last ≠ [])
    (hstart : startsWithTail last = false)
    (hrow : p.row = (layTexts cols ts).length + full.length) (blanks : Nat) :
    ∃ q, reflow width (layTexts cols (ts ++ [t]) ++ List.replicate blanks (.blank cols)) (some p) =
        (reach width q.row (layTexts width (ts ++ [t])), some q) ∧ q.col < width ∧
      ∀ more, ∃ r, reflow cols
          (reach width q.row (layTexts width (ts ++ [t])) ++ List.replicate more (.blank width))
          (some q) = (reach cols r.row (layTexts cols (ts ++ [t])), some r) ∧ r.col < cols ∧
        (layTexts cols (ts ++ [t])).length ≤ r.row + 1 := by
  have haway := reflow_layTexts width hcols hts hcut (Nat.le_refl _) hrow (.inl rfl) blanks rfl
  rw [List.take_length] at haway
  refine ⟨_, haway, col_placeIn_lt hwidth _ t _, fun more => ?_⟩
  obtain ⟨full', last', hcut'⟩ := exists_cut_concat width [] t
  have hrows := length_layTexts_concat hcut' ts
  have hne : t ≠ [] := by
    rintro rfl
    rw [cut_nil] at hcut
    obtain ⟨-, hsame⟩ := List.append_inj' (show [] ++ [[]] = full ++ [last] from hcut) rfl
    exact hlast (List.cons.inj hsame).1.symm
  generalize hspot : placeIn width p.pendingWrap t (full.flatten.length + p.col) = spot
  have hq : (below (layTexts width ts).length spot).row =
      (layTexts width ts).length + spot.row := rfl
  by_cases hj : spot.row ≤ full'.length
  · -- the cursor is in a row of the last text
    have hthere := le_row_placeIn_placeIn hcols hwidth hcut hlast hstart hspot
      (by rw [hcut', List.length_append, List.length_singleton]; omega) spot.pendingWrap
    have hreturn := reflow_layTexts cols hwidth hts' hcut' hj hq (.inr hne) more rfl
    rw [reach, hrows, hq, Nat.sub_eq_zero_of_le (by omega), List.replicate_zero, List.append_nil]
    refine ⟨_, hreturn, col_placeIn_lt hcols _ t _, ?_⟩
    rw [hcut', List.take_append_of_le_length hj] at hthere
    rw [length_layTexts_concat hcut]
    show _ ≤ (layTexts cols ts).length + _ + 1
    exact Nat.add_le_add_right (Nat.add_le_add_left hthere _) 1
  · -- the cursor is in a blank row below
    obtain ⟨k, hk⟩ : ∃ k, spot.row = full'.length + 1 + k :=
      ⟨spot.row - (full'.length + 1), by omega⟩
    have hreached : (layTexts width ts).length + spot.row + 1 -
        ((layTexts width ts).length + full'.length + 1) = k + 1 := by omega
    have hbelow : (below (layTexts width ts).length spot).row =
        (layTexts width (ts ++ [t])).length + k := by omega
    obtain ⟨r, hreturn, hcol, hbelow⟩ := exists_reflow_below hwidth hcols hts' hbelow more
    rw [reach, hrows, hq, hreached, List.append_assoc, List.replicate_append_replicate]
    exact ⟨r, hreturn, hcol, Nat.le_succ_of_le hbelow⟩

end Return

end Teletype.Reflow

import Teletype.Proofs.Reflow.Cut

/-!
# Where cells end

Cut as they are, cells leave a last row, and what comes behind them goes on with
that row (`cut_append`); so a cursor behind them, or on their last character,
stands at the end of it (`locate_end`, `locate_last`). Of two rows begun the
shorter one needs no more rows for what is still to come (`length_cut_le`).
-/

namespace Teletype.Reflow

variable {cols line target : Nat} {row last short long xs ys g rest : List Cell}
variable {full : List (List Cell)}

theorem startsWithTail_append (hxs : startsWithTail xs = false) (hys : startsWithTail ys = false) :
    startsWithTail (xs ++ ys) = false := by
  cases xs with
  | nil => exact hys
  | cons c xs => exact hxs

/-- A group stays one whatever comes behind the rest. -/
theorem IsGroup.append (h : IsGroup rest g) (hys : startsWithTail ys = false) :
    IsGroup (rest ++ ys) g := by
  cases h with
  | alone c hrest => exact .alone c (startsWithTail_append hrest hys)
  | pair c next hnext => exact .pair c next hnext

/-- No row is empty, unless there is nothing to cut. -/
theorem ne_nil_of_mem_cut (hcols : 2 ≤ cols) {cells : List Cell} (h : row ≠ [] ∨ cells ≠ []) :
    ∀ r ∈ cut cols row cells, r ≠ [] := by
  induction cells using group_induction generalizing row with
  | nil =>
    intro r hr
    rw [cut_nil, List.mem_singleton] at hr
    rw [hr]
    exact h.resolve_right fun hnone => hnone rfl
  | group g rest hg ih =>
    have hne : g ≠ [] := List.length_pos_iff.mp hg.length_pos
    rw [cut_group hcols hg]
    split
    · next hfull =>
      have hrow : row ≠ [] := by
        rintro rfl
        simp [isFull] at hfull
      exact List.forall_mem_cons.mpr ⟨hrow, ih (.inl hne)⟩
    · exact ih (.inl (List.append_ne_nil_of_right_ne_nil row hne))

/-! ## Going on behind cells -/

/-- **Cells behind others go on with their last row.** -/
theorem cut_append (hcols : 2 ≤ cols) (hys : startsWithTail ys = false)
    (hcut : cut cols row xs = full ++ [last]) :
    cut cols row (xs ++ ys) = full ++ cut cols last ys := by
  induction xs using group_induction generalizing row full with
  | nil =>
    rw [cut_nil] at hcut
    obtain ⟨rfl, hlast⟩ : full = [] ∧ [row] = [last] := by
      cases full with
      | nil => exact ⟨rfl, hcut⟩
      | cons r full => cases full <;> cases hcut
    rw [List.nil_append, List.nil_append, (List.cons.inj hlast).1]
  | group g rest hg ih =>
    rw [List.append_assoc, cut_group hcols (hg.append hys)]
    rw [cut_group hcols hg] at hcut
    by_cases hfull : isFull cols g.length row = true
    · rw [if_pos hfull] at hcut ⊢
      cases full with
      | nil => exact absurd (List.cons.inj hcut).2 (cut_ne_nil cols g rest)
      | cons r full =>
        obtain ⟨rfl, hrest⟩ := List.cons.inj hcut
        rw [ih hrest]
        rfl
    · rw [if_neg hfull] at hcut ⊢
      exact ih hcut

/-- A place behind cells is found behind their last row. -/
theorem locate_append (hcols : 2 ≤ cols) (hys : startsWithTail ys = false)
    (hcut : cut cols row xs = full ++ [last]) (target : Nat) :
    locate cols line row.length (xs ++ ys) (xs.length + target) =
      locate cols (line + full.length) last.length ys target := by
  induction xs using group_induction generalizing row full line with
  | nil =>
    rw [cut_nil] at hcut
    obtain ⟨rfl, hlast⟩ : full = [] ∧ [row] = [last] := by
      cases full with
      | nil => exact ⟨rfl, hcut⟩
      | cons r full => cases full <;> cases hcut
    rw [List.nil_append, (List.cons.inj hlast).1, List.length_nil, List.length_nil, Nat.zero_add,
      Nat.add_zero]
  | group g rest hg ih =>
    have hbehind : ¬ (g ++ rest).length + target < g.length := by
      rw [List.length_append]
      omega
    have hless : (g ++ rest).length + target - g.length = rest.length + target := by
      rw [List.length_append]
      omega
    rw [List.append_assoc, locate_group hcols (hg.append hys), if_neg hbehind, if_neg hbehind,
      hless]
    rw [cut_group hcols hg] at hcut
    by_cases hfull : isFull cols g.length row = true
    · rw [if_pos hfull] at hcut ⊢
      cases full with
      | nil => exact absurd (List.cons.inj hcut).2 (cut_ne_nil cols g rest)
      | cons r full =>
        rw [ih (List.cons.inj hcut).2, List.length_cons]
        congr 1
        omega
    · rw [if_neg hfull] at hcut ⊢
      exact ih hcut

/-- **Right behind cells** is the end of their last row. -/
theorem locate_end (line : Nat) (hcols : 2 ≤ cols) (hcut : cut cols row xs = full ++ [last])
    (hlen : last.length ≤ cols) :
    locate cols line row.length xs xs.length =
      if last.length = cols then ⟨line + full.length, cols - 1, true⟩
      else ⟨line + full.length, last.length, false⟩ := by
  have hbehind : locate cols line row.length (xs ++ []) (xs.length + 0) = _ :=
    locate_append hcols rfl hcut 0
  rw [List.append_nil, Nat.add_zero] at hbehind
  rw [hbehind, locate]
  by_cases hfull : last.length = cols
  · rw [if_pos hfull, if_pos (by simp [hfull])]
  · have hlt : last.length + 0 < cols := by omega
    rw [if_neg hfull, if_neg (by simp [hfull]), Nat.div_eq_of_lt hlt, Nat.mod_eq_of_lt hlt]
    rfl

/-- **On the last character of cells** is its width before the end of their last
row. -/
theorem locate_last (line : Nat) (hcols : 2 ≤ cols) (hg : IsGroup [] g)
    (hstart : startsWithTail g = false) (hcut : cut cols row (xs ++ g) = full ++ [last]) {off : Nat} (hoff : off < g.length) :
    (∃ front, last = front ++ g) ∧
      locate cols line row.length (xs ++ g) (xs.length + off) =
        ⟨line + full.length, last.length - g.length, false⟩ := by
  obtain ⟨full₀, last₀, hxs⟩ : ∃ full₀ last₀, cut cols row xs = full₀ ++ [last₀] :=
    ⟨_, _, (List.dropLast_concat_getLast (cut_ne_nil cols row xs)).symm⟩
  have hgroup := cut_group hcols hg last₀
  have hplace := locate_group hcols hg (line + full₀.length) off last₀
  rw [List.append_nil, cut_nil] at hgroup
  rw [List.append_nil, if_pos hoff, if_pos hoff] at hplace
  rw [cut_append hcols hstart hxs, hgroup] at hcut
  rw [locate_append hcols hstart hxs, hplace]
  by_cases hfull : isFull cols g.length last₀ = true
  · rw [if_pos hfull] at hcut ⊢
    have hsplit : (full₀ ++ [last₀]) ++ [g] = full ++ [last] := by
      rw [List.append_assoc]
      exact hcut
    obtain ⟨rfl, hlast⟩ := List.append_inj' hsplit rfl
    obtain rfl := (List.cons.inj hlast).1
    refine ⟨⟨[], rfl⟩, ?_⟩
    rw [List.length_append, List.length_singleton, Nat.sub_self]
    rfl
  · rw [if_neg hfull, cut_nil] at hcut
    rw [if_neg hfull]
    obtain ⟨rfl, hlast⟩ := List.append_inj' hcut rfl
    obtain rfl := (List.cons.inj hlast).1
    refine ⟨⟨last₀, rfl⟩, ?_⟩
    rw [List.length_append, Nat.add_sub_cancel]

/-! ## How many rows it takes -/

/-- The shorter of two rows begun needs no more rows for the same cells, and any
row begun at most one more than another. -/
theorem length_cut_le (hcols : 2 ≤ cols) (cells : List Cell) :
    (∀ short long : List Cell, short.length ≤ long.length →
      (cut cols short cells).length ≤ (cut cols long cells).length) ∧
    ∀ short long : List Cell, (cut cols short cells).length ≤ (cut cols long cells).length + 1 := by
  induction cells using group_induction with
  | nil => simp
  | group g rest hg ih =>
    obtain ⟨hshorter, hany⟩ := ih
    have hpos := hg.length_pos
    have hshort := hg.length_le
    have hfull : ∀ r : List Cell, isFull cols g.length r = decide (cols < r.length + g.length) := by
      intro r
      cases r with
      | nil => simp [isFull]; omega
      | cons c r => simp [isFull]
    simp only [cut_group hcols hg, hfull, decide_eq_true_eq]
    refine ⟨fun a b hle => ?_, fun a b => ?_⟩
    · split <;> split
      · exact Nat.le_refl _
      · omega
      · exact hany _ _
      · refine hshorter _ _ ?_
        simp only [List.length_append]
        omega
    · split <;> split
      · exact Nat.le_succ _
      · have := hshorter g (b ++ g) (by simp)
        simpa using this
      · exact Nat.le_trans (hany _ g) (Nat.le_succ _)
      · exact hany _ _

end Teletype.Reflow

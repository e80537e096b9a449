import Teletype.Proofs.Reflow.Checked
import Teletype.Proofs.Reflow.Paired
import Teletype.Proofs.Row.Opened

/-!
# Where the contents of a row come from

Cells are moved, dropped and made blank, and a character that is written comes with a
cell of its own. Nothing else has a content: what opening, closing, erasing, cutting
and laying out anew make of a row adds no content to it (`AddsNothing`).
-/

namespace Teletype

namespace Row

/-- Every cell of `ys` is one of `xs`, or has no content. -/
structure AddsNothing (xs ys : List Cell) : Prop where
  mem_or_empty : ∀ d ∈ ys, d ∈ xs ∨ d.isEmpty = true

variable {xs ys zs cells : List Cell} {c : Cell}

namespace AddsNothing

theorem of_subset (h : ys ⊆ xs) : AddsNothing xs ys where
  mem_or_empty _ hd := .inl (h hd)

theorem refl (xs : List Cell) : AddsNothing xs xs :=
  .of_subset fun _ hd => hd

theorem trans (h : AddsNothing xs ys) (h' : AddsNothing ys zs) : AddsNothing xs zs where
  mem_or_empty d hd := by
    rcases h'.mem_or_empty d hd with hd | hempty
    · exact h.mem_or_empty d hd
    · exact .inr hempty

theorem append (hy : AddsNothing xs ys) (hz : AddsNothing xs zs) : AddsNothing xs (ys ++ zs) where
  mem_or_empty d hd := (List.mem_append.mp hd).elim (hy.mem_or_empty d) (hz.mem_or_empty d)

theorem replicate (hc : c.isEmpty = true) (n : Nat) : AddsNothing xs (List.replicate n c) where
  mem_or_empty _ hd := .inr ((List.eq_of_mem_replicate hd).symm ▸ hc)

theorem blanks (n : Nat) : AddsNothing xs (List.replicate n .blank) :=
  replicate rfl n

theorem take (xs : List Cell) (n : Nat) : AddsNothing xs (xs.take n) :=
  .of_subset (List.take_subset n xs)

theorem drop (xs : List Cell) (n : Nat) : AddsNothing xs (xs.drop n) :=
  .of_subset (List.drop_subset n xs)

theorem setCell (h : AddsNothing xs ys) (hc : c ∈ xs ∨ c.isEmpty = true) (col : Nat) :
    AddsNothing xs (ys.set col c) where
  mem_or_empty d hd := by
    rcases List.mem_or_eq_of_mem_set hd with hd | rfl
    · exact h.mem_or_empty d hd
    · exact hc

theorem set (xs : List Cell) (col : Nat) : AddsNothing xs (xs.set col .blank) :=
  (refl xs).setCell (.inr rfl) col

/-! ## Row operations -/

theorem clearOtherHalf (col : Nat) (cells : List Cell) :
    AddsNothing cells (Row.clearOtherHalf col cells) := by
  unfold Row.clearOtherHalf
  split
  · exact refl cells
  · split
    · exact set ..
    · split
      · exact set ..
      · exact refl cells

theorem fill (first last : Nat) (hc : c.isEmpty = true) (cells : List Cell) :
    AddsNothing cells (Row.fill first last c cells) :=
  (take ..).append ((replicate hc _).append (drop ..))

theorem erase (first last : Nat) (bg : Color) (cells : List Cell) :
    AddsNothing cells (Row.erase first last bg cells) :=
  ((clearOtherHalf ..).trans (clearOtherHalf ..)).trans (fill _ _ rfl _)

theorem openAt (col count : Nat) (cells : List Cell) :
    AddsNothing cells (Row.openAt col count cells) := by
  unfold Row.openAt
  split
  · exact refl cells
  · refine (clearOtherHalf col cells).trans ?_
    generalize Row.clearOtherHalf col cells = freed
    have hopened : ∀ m k, AddsNothing freed
        (freed.take col ++ (List.replicate m .blank ++ (freed.drop col).take k)) := fun m k =>
      (take ..).append ((blanks m).append ((drop ..).trans (take ..)))
    dsimp only
    split
    · exact (hopened ..).trans (set ..)
    · exact hopened ..

theorem closeAt (col count : Nat) (cells : List Cell) :
    AddsNothing cells (Row.closeAt col count cells) := by
  unfold Row.closeAt
  refine (clearOtherHalf col cells).trans ?_
  generalize Row.clearOtherHalf col cells = freed
  have hclosed : ∀ m k, AddsNothing freed
      (freed.take col ++ (freed.drop k ++ List.replicate m .blank)) := fun m k =>
    (take ..).append ((drop ..).append (blanks m))
  dsimp only
  split
  · exact (hclosed ..).trans (set ..)
  · exact hclosed ..

theorem fit (cols : Nat) (cells : List Cell) : AddsNothing cells (Line.fit cols cells) :=
  (take ..).append (blanks _)

theorem resize (l : Line) (cols : Nat) : AddsNothing l.cells (l.resize cols).cells := by
  simp only [Line.resize]
  split
  · exact (fit ..).trans (set ..)
  · exact fit ..

/-- A character comes with its own cell. -/
theorem put (insert : Bool) (col : Nat) (ch : Char) (width : Nat) (pen : Pen)
    (cells : List Cell) :
    AddsNothing (.written ch pen :: cells) (Row.put insert col ch width pen cells) := by
  have hopened : AddsNothing (.written ch pen :: cells)
      (if insert then Row.openAt col width cells else cells) := by
    refine (of_subset (List.subset_cons_self _ cells)).trans ?_
    cases insert with
    | false => exact refl cells
    | true => exact openAt col width cells
  have hchar : ∀ ys, AddsNothing (.written ch pen :: cells) ys →
      AddsNothing (.written ch pen :: cells) (ys.set col (.written ch pen)) := fun _ hys =>
    hys.setCell (.inl List.mem_cons_self) col
  have hfreed := hopened.trans (clearOtherHalf col _)
  unfold Row.put Row.write
  split
  · exact (hchar _ (hfreed.trans (clearOtherHalf ..))).setCell (.inr rfl) _
  · exact hchar _ hfreed

end AddsNothing

end Row

open Row

namespace Reflow

variable {cols : Nat} {row cells : List Cell} {d : Cell}

/-! ## Rows laid out anew -/

theorem addsNothing_content (cells : List Cell) : AddsNothing cells (Line.content cells) := by
  obtain ⟨dropped, heq, -⟩ := Text.exists_dropEndWhile_append Cell.isBlank cells
  refine .of_subset fun d hd => ?_
  rw [heq]
  exact List.mem_append_left dropped hd

theorem addsNothing_of_mem_asLines {rows : List (List Cell)} {l : Line}
    (hl : l ∈ asLines cols rows) : ∃ r ∈ rows, AddsNothing r l.cells := by
  induction rows with
  | nil => cases hl
  | cons row rest ih =>
    by_cases hne : rest = []
    · subst hne
      rw [List.mem_singleton.mp hl]
      exact ⟨row, List.mem_cons_self, .fit cols row⟩
    · rw [asLines_cons row hne] at hl
      rcases List.mem_cons.mp hl with rfl | hl
      · exact ⟨row, List.mem_cons_self, .fit cols row⟩
      · obtain ⟨r, hr, hadds⟩ := ih hl
        exact ⟨r, List.mem_cons_of_mem row hr, hadds⟩

theorem addsNothing_of_mem_lay {p : Paragraph} {l : Line} (hl : l ∈ lay cols p) :
    AddsNothing p.cells l.cells := by
  obtain ⟨r, hr, hadds⟩ := addsNothing_of_mem_asLines hl
  refine (addsNothing_content p.cells).trans (.trans (.of_subset fun d hd => ?_) hadds)
  exact mem_of_mem_cut hr hd

theorem addsNothing_of_mem_layAll {pendingWrap : Bool} {ps : List Paragraph} {l : Line}
    (hl : l ∈ (layAll cols pendingWrap ps).1) : ∃ p ∈ ps, AddsNothing p.cells l.cells := by
  induction ps with
  | nil => cases hl
  | cons p rest ih =>
    rcases List.mem_append.mp hl with hl | hl
    · exact ⟨p, List.mem_cons_self, addsNothing_of_mem_lay hl⟩
    · obtain ⟨q, hq, hadds⟩ := ih hl
      exact ⟨q, List.mem_cons_of_mem p hq, hadds⟩

theorem contribution_subset (l : Line) : contribution l ⊆ l.cells := by
  obtain ⟨dropped, heq, -⟩ := Text.exists_dropEndWhile_append Cell.isBlank l.cells
  intro d hd
  rw [contribution] at hd
  split at hd
  · rw [heq]
    exact List.mem_append_left dropped hd
  · exact hd

/-- The cells of a paragraph are cells of the rows that it is put together from. -/
theorem mem_of_mem_paragraphs {rows : List (Line × Option Nat)} {p : Paragraph}
    (hp : p ∈ paragraphs rows) (hd : d ∈ p.cells) : ∃ r ∈ rows, d ∈ r.1.cells := by
  induction rows generalizing p with
  | nil => cases hp
  | cons row rest ih =>
    obtain ⟨l, mark⟩ := row
    have hbelow : ∀ q ∈ paragraphs rest, d ∈ q.cells → ∃ r ∈ (l, mark) :: rest, d ∈ r.1.cells := by
      intro q hq hdq
      obtain ⟨r, hr, hdr⟩ := ih hq hdq
      exact ⟨r, List.mem_cons_of_mem _ hr, hdr⟩
    have hfront : d ∈ contribution l → ∃ r ∈ (l, mark) :: rest, d ∈ r.1.cells := fun hdl =>
      ⟨(l, mark), List.mem_cons_self, contribution_subset l hdl⟩
    change p ∈ addRow (l, mark) (paragraphs rest) at hp
    cases hl : l.wrapped with
    | false =>
      rw [addRow_ended hl] at hp
      rcases List.mem_cons.mp hp with rfl | hp
      · exact hfront hd
      · exact hbelow p hp hd
    | true =>
      rw [addRow_wrapped hl] at hp
      cases hrest : paragraphs rest with
      | nil =>
        rw [hrest, joinFront] at hp
        split at hp
        · cases hp
        · rw [List.mem_singleton.mp hp] at hd
          exact hfront hd
      | cons q below =>
        rw [hrest] at hp hbelow
        rcases List.mem_cons.mp hp with rfl | hp
        · exact (List.mem_append.mp hd).elim hfront (hbelow q List.mem_cons_self)
        · exact hbelow p (List.mem_cons_of_mem q hp) hd

end Reflow

/-- **What is laid out anew is what was there**, at every width. -/
theorem addsNothing_of_mem_reflow {cols : Nat} {rows : List Line} {cursor : Option Position}
    {l : Line} (hl : l ∈ (reflow cols rows cursor).1) :
    AddsNothing (rows.flatMap (·.cells)) l.cells := by
  rcases mem_of_mem_reflow hl with hl | rfl
  · obtain ⟨p, hp, hadds⟩ := Reflow.addsNothing_of_mem_layAll hl
    refine .trans (.of_subset fun d hd => ?_) hadds
    obtain ⟨r, hr, hdr⟩ := Reflow.mem_of_mem_paragraphs hp hd
    exact List.mem_flatMap.mpr
      ⟨r.1, Reflow.mem_of_mem_dropBlankEnd (Reflow.mem_of_mem_marked hr), hdr⟩
  · exact .blanks cols

end Teletype

import Mathlib.Data.List.Chain
import Teletype.Proofs.Reflow.Texts

/-!
# Rows that texts fill

When a row that runs on is written to its end, no cell of it is lost in joining
it to the row below, and cutting the text again ends the row at the same place.
A row may also end one cell short, if the row below begins with a character of
two columns, which is why it ended there (`Filled`). Rows of this kind are the
rows of some texts (`exists_texts`).
-/

namespace Teletype

/-- Whether a row that runs on is written to its end, or is one cell short of it
and the row below begins with a character of two columns. -/
def Line.Filled (cols : Nat) (l next : Line) : Prop :=
  l.wrapped = true → l.contentLength = cols ∨
    l.contentLength + 1 = cols ∧ next.cells[1]?.any (·.tail) = true

/-- Whether a row that runs on does so into a row that shows. -/
def Line.Follows (l next : Line) : Prop :=
  l.wrapped = true → next.isBlank = false

/-- Cells that begin with no tail, and are blank only where nothing was printed. -/
structure Tidy (cells : List Cell) : Prop where
  start : Reflow.startsWithTail cells = false
  eq_blank : ∀ c ∈ cells, c.isBlank = true → c = .blank

instance Line.Filled.decidable (cols : Nat) : DecidableRel (Line.Filled cols) :=
  fun _ _ => inferInstanceAs (Decidable (_ → _))

namespace Reflow

variable {cols : Nat} {row cells t last : List Cell} {full ts : List (List Cell)} {l next : Line}
variable {rows : List Line}

/-! ## Cutting where rows end -/

theorem exists_group (h : cells ≠ []) : ∃ g rest, IsGroup rest g ∧ cells = g ++ rest := by
  cases cells using groups_induction with
  | nil => exact absurd rfl h
  | alone c rest hrest => exact ⟨[c], rest, .alone c hrest, rfl⟩
  | pair c next rest hnext => exact ⟨[c, next], rest, .pair c next hnext, rfl⟩

/-- Cells that fit make one row. -/
theorem cut_of_length_le (hcols : 2 ≤ cols) (h : (row ++ cells).length ≤ cols) :
    cut cols row cells = [row ++ cells] := by
  induction cells using group_induction generalizing row with
  | nil => rw [cut_nil, List.append_nil]
  | group g rest hg ih =>
    have hroom : ¬ isFull cols g.length row = true := by
      rw [List.length_append, List.length_append] at h
      simp [isFull]
      omega
    rw [cut_group hcols hg, if_neg hroom, ih (by rwa [List.append_assoc]), List.append_assoc]

/-- **A row that is full ends there again**, and so does one with a single column
left in front of a character of two. -/
theorem cut_append_of_full (hcols : 2 ≤ cols) (hne : cells ≠ [])
    (hstart : startsWithTail cells = false) (hfull : row.length = cols ∨
      row.length + 1 = cols ∧ startsWithTail (cells.drop 1) = true) :
    cut cols [] (row ++ cells) = row :: cut cols [] cells := by
  have hrow : row ≠ [] := List.length_pos_iff.mp (by omega)
  have hone : cut cols [] row = [] ++ [row] := cut_of_length_le hcols (by
    rw [List.nil_append]
    omega)
  obtain ⟨g, rest, hg, rfl⟩ := exists_group hne
  have hpos := hg.length_pos
  have hends : isFull cols g.length row = true := by
    have hwide : cols < row.length + g.length := by
      rcases hfull with hlen | ⟨hlen, htail⟩
      · omega
      · -- the group is a pair, for a tail comes second
        cases hg with
        | alone c hrest =>
          rw [show ([c] ++ rest).drop 1 = rest from rfl, hrest] at htail
          cases htail
        | pair c next hnext =>
          rw [List.length_cons, List.length_singleton]
          omega
    simp [isFull, hwide, hrow]
  have hnew : ¬ isFull cols g.length [] = true := by simp [isFull]
  rw [cut_append hcols hstart hone, List.nil_append, cut_group hcols hg, if_pos hends,
    cut_group hcols hg, if_neg hnew, List.nil_append]

/-! ## From rows to texts -/

theorem Ended.append (h : Ended t) (hne : t ≠ []) (cells : List Cell) : Ended (cells ++ t) := by
  rcases List.eq_nil_or_concat t with rfl | ⟨front, c, rfl⟩
  · exact absurd rfl hne
  · rw [List.concat_eq_append] at h ⊢
    rw [← List.append_assoc]
    exact Text.dropEndWhile_concat h.isBlank_last

/-- A tidy row is its content, filled up. -/
theorem fit_content (htidy : Tidy cells) (hlen : cells.length = cols) :
    Line.fit cols (Line.content cells) = cells := by
  obtain ⟨ys, hsplit, hblank⟩ := Text.exists_dropEndWhile_append Cell.isBlank cells
  change cells = Line.content cells ++ ys at hsplit
  have hcount := congrArg List.length hsplit
  rw [List.length_append] at hcount
  have hys : ys = List.replicate (cols - (Line.content cells).length) .blank := by
    refine List.eq_replicate_iff.mpr ⟨by omega, fun c hc => htidy.eq_blank c ?_ (hblank c hc)⟩
    rw [hsplit]
    exact List.mem_append_right _ hc
  rw [Line.fit_eq (by omega), ← hys, ← hsplit]

theorem length_content_le (cells : List Cell) : (Line.content cells).length ≤ cells.length := by
  obtain ⟨ys, hsplit, -⟩ := Text.exists_dropEndWhile_append Cell.isBlank cells
  have hcount := congrArg List.length hsplit
  rw [List.length_append] at hcount
  exact Nat.le.intro hcount.symm

/-- A text in one row. -/
theorem layText_content (hcols : 2 ≤ cols) (htidy : Tidy l.cells) (hlen : l.cells.length = cols)
    (hended : l.wrapped = false) :
    layText cols (Line.content l.cells) = [l] ∧ Snug cols (Line.content l.cells) := by
  have hshort := length_content_le l.cells
  have hone : cut cols [] (Line.content l.cells) = [] ++ [Line.content l.cells] :=
    cut_of_length_le hcols (by
      rw [List.nil_append]
      omega)
  refine ⟨?_, ended_content _, fun row hrow => ?_⟩
  · rw [layText_eq hone, List.map_nil, List.nil_append, fit_content htidy hlen, ← hended]
  · rw [hone] at hrow
    cases hrow

/-- The first row of a text shows the cells that the text begins with. -/
theorem cells_of_layText_eq {first : List Cell} {others : List (List Cell)} {more : List Line}
    (hcut : cut cols [] t = first :: others) (h : layText cols t = l :: more) :
    l.cells = Line.fit cols first := by
  rw [layText, hcut] at h
  cases others <;> cases h <;> rfl

/-- A text whose first row shows is not empty. -/
theorem ne_nil_of_layText_eq {more : List Line} (h : layText cols t = l :: more)
    (hshown : l.isBlank = false) : t ≠ [] := by
  rintro rfl
  have hblank : layText cols [] = [.blank cols] := by
    rw [Line.blank_eq]
    rfl
  rw [hblank] at h
  rw [← (List.cons.inj h).1, isBlank_blank] at hshown
  cases hshown

/-- **A row that runs on is joined to the text of the row below**, whose first row it
stands above. -/
theorem layText_content_append (hcols : 2 ≤ cols) (htidy : Tidy l.cells)
    (hlen : l.cells.length = cols) (hwrapped : l.wrapped = true) (hfilled : l.Filled cols next)
    (hfollows : l.Follows next) (hstart : startsWithTail next.cells = false) (hsnug : Snug cols t)
    {more : List Line} (hnext : layText cols t = next :: more) :
    layText cols (Line.content l.cells ++ t) = l :: next :: more ∧
      Snug cols (Line.content l.cells ++ t) := by
  obtain ⟨first, others, hcut⟩ := List.exists_cons_of_ne_nil (cut_ne_nil cols [] t)
  have hmem : first ∈ cut cols [] t := by
    rw [hcut]
    exact List.mem_cons_self
  have hcells : next.cells = first ++ List.replicate (cols - first.length) .blank := by
    have hlength : ∀ r ∈ cut cols [] t, r.length ≤ cols :=
      length_of_mem_cut hcols (Nat.zero_le cols)
    rw [cells_of_layText_eq hcut hnext, Line.fit_eq (hlength first hmem)]
  have hne : t ≠ [] := ne_nil_of_layText_eq hnext (hfollows hwrapped)
  have hflatten := flatten_cut hcols [] t
  rw [hcut, List.nil_append, List.flatten_cons] at hflatten
  obtain ⟨c, cells, rfl⟩ :=
    List.exists_cons_of_ne_nil (ne_nil_of_mem_cut hcols (.inr hne) first hmem)
  have hfirst : startsWithTail t = false := by
    rw [hcells] at hstart
    rw [← hflatten]
    exact hstart
  have hrow : (Line.content l.cells).length = cols ∨
      (Line.content l.cells).length + 1 = cols ∧ startsWithTail (t.drop 1) = true := by
    refine (hfilled hwrapped).imp_right fun ⟨hshort, htail⟩ => ⟨hshort, ?_⟩
    rw [hcells] at htail
    rw [← hflatten]
    cases cells with
    | nil =>
      -- behind a single cell there would be what fills the row up
      cases hrest : cols - [c].length <;> rw [hrest] at htail <;> cases htail
    | cons d cells => exact htail
  have hjoined := cut_append_of_full hcols hne hfirst hrow
  refine ⟨?_, hsnug.1.append hne _, fun row hmem => ?_⟩
  · rw [layText, hjoined, asLines_cons _ (cut_ne_nil cols [] t), fit_content htidy hlen, ← hwrapped]
    exact congrArg (l :: ·) hnext
  · rw [hjoined, List.dropLast_cons_of_ne_nil (cut_ne_nil cols [] t)] at hmem
    rcases List.mem_cons.mp hmem with rfl | hmem
    · exact ended_content _
    · exact hsnug.2 row hmem

/-- **Rows that are filled are the rows of texts.** -/
theorem exists_texts (hcols : 2 ≤ cols) (hne : rows ≠ []) (htidy : ∀ l ∈ rows, Tidy l.cells)
    (hlen : ∀ l ∈ rows, l.cells.length = cols) (hfilled : rows.IsChain (Line.Filled cols))
    (hfollows : rows.IsChain Line.Follows) (hended : ∀ l ∈ rows.getLast?, l.wrapped = false) :
    ∃ t ts, rows = layTexts cols (t :: ts) ∧ ∀ u ∈ t :: ts, Snug cols u := by
  induction rows with
  | nil => exact absurd rfl hne
  | cons l rows ih =>
    obtain ⟨hcells, htidies⟩ := List.forall_mem_cons.mp htidy
    obtain ⟨hcount, hlens⟩ := List.forall_mem_cons.mp hlen
    cases rows with
    | nil =>
      obtain ⟨hrows, hsnug⟩ := layText_content hcols hcells hcount (hended l rfl)
      refine ⟨Line.content l.cells, [], ?_, List.forall_mem_singleton.mpr hsnug⟩
      rw [layTexts_singleton, hrows]
    | cons next more =>
      obtain ⟨hfill, hfills⟩ := List.isChain_cons_cons.mp hfilled
      obtain ⟨hfollow, hfollows⟩ := List.isChain_cons_cons.mp hfollows
      rw [List.getLast?_cons_cons] at hended
      obtain ⟨t, ts, hrows, hsnug⟩ :=
        ih (List.cons_ne_nil _ _) htidies hlens hfills hfollows hended
      have hlay : ∀ u, layTexts cols (u :: ts) = layText cols u ++ layTexts cols ts := fun u => rfl
      cases hwrapped : l.wrapped with
      | false =>
        obtain ⟨hrow, hfirst⟩ := layText_content hcols hcells hcount hwrapped
        refine ⟨Line.content l.cells, t :: ts, ?_, List.forall_mem_cons.mpr ⟨hfirst, hsnug⟩⟩
        rw [hrows]
        show _ = layText cols (Line.content l.cells) ++ layTexts cols (t :: ts)
        rw [hrow]
        rfl
      | true =>
        obtain ⟨ht, hts⟩ := List.forall_mem_cons.mp hsnug
        obtain ⟨full, last, hcut⟩ := exists_cut_concat cols [] t
        obtain ⟨first, others, hfirst⟩ := List.exists_cons_of_length_pos
          (l := layText cols t) (by rw [length_layText hcut]; exact Nat.succ_pos _)
        rw [hlay, hfirst, List.cons_append] at hrows
        obtain ⟨rfl, hmore⟩ := List.cons.inj hrows
        obtain ⟨hjoined, hsnug⟩ := layText_content_append hcols hcells hcount hwrapped hfill
          hfollow (htidies next List.mem_cons_self).start ht hfirst
        refine ⟨Line.content l.cells ++ t, ts, ?_, List.forall_mem_cons.mpr ⟨hsnug, hts⟩⟩
        rw [hlay, hjoined, hmore]
        rfl

end Reflow

end Teletype

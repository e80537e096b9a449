import Teletype.Proofs.Reflow.Cut
import Teletype.Proofs.Row.Paired

/-!
# Reflow and whole characters

A paragraph is put together from the contents of its rows, and a row of whole
characters has such a content; a row that ends in the left half of a character
would not. Cutting keeps a head and its tail together at every width of two
columns or more, and the rows it cuts fit that width, so that filling them up
cuts nothing off.
-/

namespace Teletype

namespace Row

variable {cells : List Cell}

/-- What shows nothing is no half of a character. -/
theorem first_blank_not_tail {c : Cell} (h : c.isBlank = true) : c.tail = false := by
  simp only [Cell.isBlank, Bool.and_eq_true, Bool.not_eq_true'] at h
  exact h.1.2

/-- **The content of whole characters consists of whole characters.** -/
theorem Spans.content (h : Paired cells) : Paired (Line.content cells) := by
  obtain ⟨dropped, heq, hblank⟩ := Text.exists_dropEndWhile_append Cell.isBlank cells
  change cells = Line.content cells ++ dropped at heq
  rw [heq] at h
  obtain ⟨q, hcontent, hdropped⟩ := h.of_append
  cases q with
  | false => exact hcontent
  | true =>
    obtain ⟨t, rest, rfl, htail, -⟩ := hdropped.next_of_awaited
    rw [first_blank_not_tail (hblank t List.mem_cons_self)] at htail
    cases htail

theorem Spans.fit {cols : Nat} (h : Paired cells) (hlen : cells.length ≤ cols) :
    Paired (Line.fit cols cells) := by
  rw [Line.fit, List.take_of_length_le hlen]
  exact h.append (paired_blanks _)

end Row

open Row

namespace Reflow

variable {cols : Nat} {row cells : List Cell}

/-! ## Rows -/

/-- A group in front of whole characters is a whole character. -/
theorem paired_group {g rest : List Cell} (hg : IsGroup rest g) (h : Paired (g ++ rest)) :
    Paired g ∧ Paired rest := by
  cases hg with
  | alone c hrest =>
    obtain ⟨hproper, htail, hspan⟩ := h.of_cons
    by_cases hwide : c.width = 2
    · rw [hwide] at hspan
      obtain ⟨t, others, heq, ht, -⟩ := hspan.next_of_awaited
      change rest = t :: others at heq
      rw [heq, startsWithTail, List.head?_cons, Option.any_some, ht] at hrest
      cases hrest
    · rw [beq_false_of_ne hwide] at hspan
      exact ⟨paired_single hproper htail hwide, hspan⟩
  | pair c next hnext =>
    obtain ⟨hproper, htail, hspan⟩ := h.of_cons
    obtain ⟨hproper', htail', hrest⟩ := hspan.of_cons
    rw [hproper'.width_eq_zero hnext] at hrest
    have hwidth : c.width = 2 := by
      rw [hnext] at htail'
      exact beq_iff_eq.mp htail'.symm
    exact ⟨paired_two hproper htail hwidth hproper' hnext, hrest⟩

/-- **Rows are cut between whole characters**, at every width that has room for
one. -/
theorem paired_of_mem_cut (hcols : 2 ≤ cols) (hrow : Paired row) (h : Paired cells) :
    ∀ r ∈ cut cols row cells, Paired r := by
  induction cells using group_induction generalizing row with
  | nil =>
    intro r hr
    rw [cut_nil, List.mem_singleton] at hr
    rwa [hr]
  | group g rest hg ih =>
    obtain ⟨hgroup, hrest⟩ := paired_group hg h
    rw [cut_group hcols hg]
    split
    · exact List.forall_mem_cons.mpr ⟨hrow, ih hgroup hrest⟩
    · exact ih (hrow.append hgroup) hrest

theorem paired_asLines {rows : List (List Cell)}
    (h : ∀ r ∈ rows, Paired r ∧ r.length ≤ cols) : ∀ l ∈ asLines cols rows, Paired l.cells := by
  induction rows with
  | nil =>
    intro l hl
    cases hl
  | cons row rest ih =>
    obtain ⟨⟨hrow, hlen⟩, hrest⟩ := List.forall_mem_cons.mp h
    by_cases hne : rest = []
    · subst hne
      exact List.forall_mem_singleton.mpr (hrow.fit hlen)
    · rw [asLines_cons row hne]
      exact List.forall_mem_cons.mpr ⟨hrow.fit hlen, ih hrest⟩

theorem paired_lay (hcols : 2 ≤ cols) {p : Paragraph} (h : Paired p.cells) :
    ∀ l ∈ lay cols p, Paired l.cells :=
  paired_asLines fun r hr => ⟨paired_of_mem_cut hcols (.nil false) h.content r hr,
    length_of_mem_cut hcols (Nat.zero_le _) r hr⟩

theorem paired_layAll (hcols : 2 ≤ cols) {pendingWrap : Bool} {ps : List Paragraph}
    (h : ∀ p ∈ ps, Paired p.cells) : ∀ l ∈ (layAll cols pendingWrap ps).1, Paired l.cells := by
  induction ps with
  | nil =>
    intro l hl
    cases hl
  | cons p rest ih =>
    obtain ⟨hp, hrest⟩ := List.forall_mem_cons.mp h
    intro l hl
    rcases List.mem_append.mp hl with hl | hl
    · exact paired_lay hcols hp l hl
    · exact ih hrest l hl

/-! ## Paragraphs -/

theorem paired_contribution {l : Line} (h : Paired l.cells) : Paired (contribution l) := by
  unfold contribution
  split
  · exact h.content
  · exact h

theorem paired_addRow {l : Line} {mark : Option Nat} {below : List Paragraph} (h : Paired l.cells)
    (hbelow : ∀ p ∈ below, Paired p.cells) : ∀ p ∈ addRow (l, mark) below, Paired p.cells := by
  have hfront : ∀ p : Paragraph, Paired p.cells → Paired (prependRow l mark p).cells :=
    fun p hp => (paired_contribution h).append hp
  have hempty := hfront { cells := [] } (.nil false)
  intro p hp
  cases hw : l.wrapped with
  | false =>
    simp only [addRow, hw] at hp
    rcases List.mem_cons.mp hp with rfl | hp
    · exact hempty
    · exact hbelow p hp
  | true =>
    cases below with
    | nil =>
      simp only [addRow, hw] at hp
      split at hp
      · cases hp
      · rw [List.mem_singleton.mp hp]
        exact hempty
    | cons q others =>
      obtain ⟨hq, hothers⟩ := List.forall_mem_cons.mp hbelow
      simp only [addRow, hw] at hp
      rcases List.mem_cons.mp hp with rfl | hp
      · exact hfront q hq
      · exact hothers p hp

theorem paired_paragraphs {rows : List (Line × Option Nat)} (h : ∀ r ∈ rows, Paired r.1.cells) :
    ∀ p ∈ paragraphs rows, Paired p.cells := by
  induction rows with
  | nil =>
    intro p hp
    cases hp
  | cons r rest ih =>
    obtain ⟨hr, hrest⟩ := List.forall_mem_cons.mp h
    exact paired_addRow hr (ih hrest)

theorem mem_of_mem_marked {rows : List Line} {cursor : Option Position} {r : Line × Option Nat}
    (h : r ∈ marked rows cursor) : r.1 ∈ rows := by
  obtain ⟨⟨l, i⟩, hl, rfl⟩ := List.mem_map.mp h
  exact List.fst_mem_of_mem_zipIdx hl

theorem mem_of_mem_dropBlankEnd {rows : List Line} {cursor : Option Position} {l : Line}
    (h : l ∈ dropBlankEnd rows cursor) : l ∈ rows := by
  have hkept : ∀ kept, l ∈ rows.take kept ++ Text.dropEndWhile Line.isBlank (rows.drop kept) →
      l ∈ rows := by
    intro kept hl
    obtain ⟨dropped, heq, -⟩ := Text.exists_dropEndWhile_append Line.isBlank (rows.drop kept)
    rw [← List.take_append_drop kept rows, heq]
    rcases List.mem_append.mp hl with hl | hl
    · exact List.mem_append_left _ hl
    · exact List.mem_append_right _ (List.mem_append_left _ hl)
  exact hkept _ h

end Reflow

/-- **A reflow keeps characters whole**, at every width that has room for
one. -/
theorem paired_reflow {cols : Nat} (hcols : 2 ≤ cols) {rows : List Line} {cursor : Option Position}
    (h : ∀ l ∈ rows, Paired l.cells) : ∀ l ∈ (reflow cols rows cursor).1, Paired l.cells := by
  have hkept : ∀ p ∈ Reflow.paragraphs (Reflow.marked (Reflow.dropBlankEnd rows cursor) cursor),
      Paired p.cells :=
    Reflow.paired_paragraphs fun r hr =>
      h r.1 (Reflow.mem_of_mem_dropBlankEnd (Reflow.mem_of_mem_marked hr))
  intro l hl
  rcases mem_of_mem_reflow hl with hl | rfl
  · exact Reflow.paired_layAll hcols hkept l hl
  · exact paired_blanks cols

end Teletype

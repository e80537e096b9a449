import Teletype.Proofs.Reflow.Texts

/-!
# Lines of text, laid out

A line of text has its rows at every width (`layLine`). They are the rows of its
cells, of which none is blank. Laid out anew, the rows that lines have at one
width come to those that they have at another (`exists_reflow_eq`); and the
cursor, right behind the last line or on its last cell, stays in the last row.
-/

namespace Teletype

/-- A line of text, each character with the pen that it is printed with. -/
abbrev TextLine := List (Char × Pen)

/-- The cells of a character. -/
def glyph (ch : Char) (pen : Pen) : List Cell :=
  .written ch pen :: if Text.charWidth ch = 2 then [.wideTail pen] else []

/-- The cells of a line of text. -/
def cellsOf (line : TextLine) : List Cell :=
  line.flatMap fun p => glyph p.1 p.2

/-- The rows of a line of text. -/
def layLine (cols : Nat) (line : TextLine) : List Line :=
  Reflow.asLines cols (Reflow.cut cols [] (cellsOf line))

/-- The rows of lines of text. -/
def layLines (cols : Nat) (lines : List TextLine) : List Line :=
  lines.flatMap (layLine cols)

/-- Whether the characters of a line take one or two columns each. -/
def TakesColumns (line : TextLine) : Prop :=
  ∀ p ∈ line, Text.charWidth p.1 = 1 ∨ Text.charWidth p.1 = 2

instance TakesColumns.decidable (line : TextLine) : Decidable (TakesColumns line) :=
  inferInstanceAs (Decidable (∀ p ∈ line, _))

variable {cols : Nat} {ch : Char}

/-! ## Cells -/

theorem length_glyph (h : Text.charWidth ch = 1 ∨ Text.charWidth ch = 2) (pen : Pen) :
    (glyph ch pen).length = Text.charWidth ch := by
  rcases h with h | h <;> simp [glyph, h]

@[simp] theorem cellsOf_cons (p : Char × Pen) (line : TextLine) :
    cellsOf (p :: line) = glyph p.1 p.2 ++ cellsOf line := by
  simp [cellsOf]

theorem cellsOf_append (xs ys : TextLine) : cellsOf (xs ++ ys) = cellsOf xs ++ cellsOf ys :=
  List.flatMap_append

theorem startsWithTail_cellsOf (line : TextLine) :
    Reflow.startsWithTail (cellsOf line) = false := by
  cases line with
  | nil => rfl
  | cons p rest =>
    rw [cellsOf_cons]
    rfl

/-- A character is a group. -/
theorem isGroup_glyph (h : Text.charWidth ch = 1 ∨ Text.charWidth ch = 2) (pen : Pen)
    (line : TextLine) : Reflow.IsGroup (cellsOf line) (glyph ch pen) := by
  rcases h with h | h
  · have hglyph : glyph ch pen = [.written ch pen] := by simp [glyph, h]
    rw [hglyph]
    exact .alone _ (startsWithTail_cellsOf line)
  · have hglyph : glyph ch pen = [.written ch pen, .wideTail pen] := by simp [glyph, h]
    rw [hglyph]
    exact .pair _ _ rfl

/-- No cell of a line of text is blank. -/
theorem isBlank_of_mem_cellsOf {line : TextLine} : ∀ c ∈ cellsOf line, c.isBlank = false := by
  intro c hc
  obtain ⟨p, -, hp⟩ := List.mem_flatMap.mp hc
  rcases List.mem_cons.mp hp with rfl | htail
  · simp [Cell.written, Cell.isBlank]
  · by_cases hwide : Text.charWidth p.1 = 2
    · rw [if_pos hwide, List.mem_singleton] at htail
      rw [htail, Cell.isBlank_wideTail]
    · rw [if_neg hwide] at htail
      cases htail

/-- A line of text has no blank cells that a row of it could end with. -/
theorem snug_cellsOf (cols : Nat) (line : TextLine) : Reflow.Snug cols (cellsOf line) := by
  have hended : ∀ cells : List Cell, (∀ c ∈ cells, c.isBlank = false) → Reflow.Ended cells := by
    intro cells hshown
    exact Text.dropEndWhile_eq_self fun c hc => hshown c (List.mem_of_getLast? hc)
  refine ⟨hended _ isBlank_of_mem_cellsOf, fun row hrow => hended row fun c hc => ?_⟩
  exact isBlank_of_mem_cellsOf c
    (Reflow.mem_of_mem_cut (List.dropLast_subset _ hrow) hc)

theorem layLines_singleton (cols : Nat) (line : TextLine) :
    layLines cols [line] = layLine cols line :=
  List.flatMap_singleton _ _

theorem layLines_eq (cols : Nat) (lines : List TextLine) :
    layLines cols lines = Reflow.layTexts cols (lines.map cellsOf) :=
  (List.flatMap_map cellsOf (Reflow.layText cols) lines).symm

namespace Reflow

variable {last : List Cell} {full : List (List Cell)} {line : TextLine}

theorem length_layLine_pos (cols : Nat) (line : TextLine) : 0 < (layLine cols line).length := by
  rw [layLine, length_asLines]
  exact List.length_pos_iff.mpr (cut_ne_nil cols [] (cellsOf line))

theorem length_layLines_pos (cols : Nat) (front : List TextLine) (line : TextLine) :
    0 < (layLines cols (front ++ [line])).length := by
  have hline := length_layLine_pos cols line
  rw [layLines, List.flatMap_append, List.length_append, List.flatMap_singleton]
  omega

/-- **Laid out anew, the rows of lines of text are those of the new width**, and
the cursor stays in the last one. -/
theorem exists_reflow_eq {width : Nat} {p : Position} (hcols : 2 ≤ cols) (hwidth : 2 ≤ width)
    (hcut : cut cols [] (cellsOf line) = full ++ [last]) (hle : p.col ≤ last.length)
    (hlt : last.length ≤ p.col + 1) (front : List TextLine)
    (hrow : p.row + 1 = (layLines cols (front ++ [line])).length) (blanks : Nat) :
    ∃ q, reflow width
        (layLines cols (front ++ [line]) ++ List.replicate blanks (.blank cols)) (some p) =
          (layLines width (front ++ [line]), some q) ∧
      q.row + 1 = (layLines width (front ++ [line])).length ∧
      q.col = (placeIn width p.pendingWrap (cellsOf line) (full.flatten.length + p.col)).col ∧
      q.pendingWrap =
        (placeIn width p.pendingWrap (cellsOf line) (full.flatten.length + p.col)).pendingWrap := by
  have hlines : ∀ cols, layLines cols (front ++ [line]) =
      layTexts cols (front.map cellsOf ++ [cellsOf line]) := by
    intro cols
    rw [layLines_eq, List.map_append, List.map_singleton]
  have hsnug : ∀ t ∈ front.map cellsOf ++ [cellsOf line], Snug cols t := by
    intro t ht
    rw [← List.map_singleton, ← List.map_append] at ht
    obtain ⟨l, -, rfl⟩ := List.mem_map.mp ht
    exact snug_cellsOf cols l
  rw [hlines, length_layTexts_concat hcut] at hrow
  -- the cursor is in the last row of the last line
  have hreflow := reflow_layTexts width hcols hsnug hcut (Nat.le_refl _)
    (show p.row = _ by omega) (.inl rfl) blanks rfl
  rw [List.take_length] at hreflow
  obtain ⟨full', last', hcut'⟩ := exists_cut_concat width [] (cellsOf line)
  have hplace := (snug_cellsOf cols line).row_placeIn hcols hwidth hcut hle hlt p.pendingWrap
  have hlast : (layTexts width (front.map cellsOf)).length +
      (placeIn width p.pendingWrap (cellsOf line) (full.flatten.length + p.col)).row + 1 =
        (layTexts width (front.map cellsOf ++ [cellsOf line])).length := by
    rw [layTexts_append, layTexts_singleton, List.length_append, ← hplace, Nat.add_assoc]
  refine ⟨below (layTexts width (front.map cellsOf)).length
    (placeIn width p.pendingWrap (cellsOf line) (full.flatten.length + p.col)), ?_, ?_, rfl, rfl⟩
  · rw [hlines, hlines, hreflow]
    show (reach width (_ + _) _, _) = _
    rw [reach, hlast, Nat.sub_self, List.replicate_zero, List.append_nil]
  · rw [hlines]
    exact hlast

end Reflow

end Teletype

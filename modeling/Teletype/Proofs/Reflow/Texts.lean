import Teletype.Proofs.Reflow.Checked
import Teletype.Proofs.Reflow.Ends

/-!
# Texts, laid out

The cells of a paragraph have their rows at every width (`layText`). What is laid
out at one width and laid out anew at another comes to the rows of that width
(`reflow_layTexts`), as long as joining the rows gives the cells back. It does if
no row that runs on ends in blank cells (`Snug`), for these are taken for what
fills a row up.
-/

namespace Teletype

/-- A row whose text runs on. -/
def fullRow (cols : Nat) (row : List Cell) : Line :=
  { cells := Line.fit cols row, wrapped := true }

variable {cols : Nat} {cells : List Cell}

theorem Line.fit_eq (h : cells.length ≤ cols) :
    Line.fit cols cells = cells ++ List.replicate (cols - cells.length) .blank := by
  rw [Line.fit, List.take_of_length_le h]

theorem Line.blank_eq (cols : Nat) : Line.blank cols = { cells := Line.fit cols [] } := by
  rw [Line.fit_eq (Nat.zero_le cols)]
  rfl

namespace Reflow

variable {row last t : List Cell} {full : List (List Cell)} {ts : List (List Cell)}

/-! ## Cells and rows -/

/-- Whether cells end with one that shows, or there are none. -/
def Ended (cells : List Cell) : Prop :=
  Line.content cells = cells

instance Ended.decidable (cells : List Cell) : Decidable (Ended cells) :=
  inferInstanceAs (Decidable (_ = _))

theorem ended_nil : Ended [] := rfl

theorem ended_content (cells : List Cell) : Ended (Line.content cells) := by
  obtain ⟨ys, hsplit, hblank⟩ := Text.exists_dropEndWhile_append Cell.isBlank cells
  have hdrop : Text.dropEndWhile Cell.isBlank (Line.content cells ++ ys) = _ :=
    Text.dropEndWhile_append hblank
  change cells = Line.content cells ++ ys at hsplit
  rw [← hsplit] at hdrop
  exact hdrop.symm

theorem Ended.isBlank_last {c : Cell} (h : Ended (cells ++ [c])) : c.isBlank = false := by
  cases hblank : c.isBlank with
  | false => rfl
  | true =>
    -- a blank cell at the end would be dropped
    obtain ⟨ys, hsplit, -⟩ := Text.exists_dropEndWhile_append Cell.isBlank cells
    have hdrop : Line.content (cells ++ [c]) = Line.content cells :=
      Text.dropEndWhile_append (by simpa using hblank)
    have hshort := congrArg List.length hsplit
    have hkept := congrArg List.length (hdrop.symm.trans h)
    rw [List.length_append] at hshort hkept
    change _ = (Line.content cells).length + _ at hshort
    rw [List.length_singleton] at hkept
    omega

/-- What fills a row up does not count. -/
theorem content_append_replicate (cells : List Cell) (n : Nat) :
    Line.content (cells ++ List.replicate n .blank) = Line.content cells := by
  refine Text.dropEndWhile_append fun c hc => ?_
  rw [List.eq_of_mem_replicate hc, Cell.isBlank_blank]

theorem content_fit (h : cells.length ≤ cols) :
    Line.content (Line.fit cols cells) = Line.content cells := by
  rw [Line.fit_eq h, content_append_replicate]

theorem isBlank_blank (cols : Nat) : (Line.blank cols).isBlank = true := by
  have hcontent : Line.content (Line.fit cols []) = [] := content_fit (Nat.zero_le cols)
  simp [Line.blank_eq, Line.isBlank, Line.contentLength, hcontent]

theorem exists_cut_concat (cols : Nat) (row cells : List Cell) :
    ∃ full last, cut cols row cells = full ++ [last] :=
  ⟨_, _, (List.dropLast_concat_getLast (cut_ne_nil cols row cells)).symm⟩

theorem asLines_concat (full : List (List Cell)) (last : List Cell) :
    asLines cols (full ++ [last]) =
      full.map (fullRow cols) ++ [{ cells := Line.fit cols last }] := by
  induction full with
  | nil => rfl
  | cons row full ih =>
    have hne : full ++ [last] ≠ [] := List.append_ne_nil_of_right_ne_nil _ (List.cons_ne_nil _ _)
    rw [List.cons_append, asLines_cons _ hne, ih]
    rfl

theorem length_asLines (rows : List (List Cell)) : (asLines cols rows).length = rows.length := by
  rcases List.eq_nil_or_concat rows with rfl | ⟨full, last, rfl⟩
  · rfl
  · rw [List.concat_eq_append, asLines_concat, List.length_append, List.length_append,
      List.length_map]
    rfl

/-! ## Texts -/

/-- The rows of a text. -/
def layText (cols : Nat) (t : List Cell) : List Line :=
  asLines cols (cut cols [] t)

/-- The rows of texts. -/
def layTexts (cols : Nat) (ts : List (List Cell)) : List Line :=
  ts.flatMap (layText cols)

/-- Whether a text ends with a cell that shows, and so does every row of it that runs
on. -/
def Snug (cols : Nat) (t : List Cell) : Prop :=
  Ended t ∧ ∀ row ∈ (cut cols [] t).dropLast, Ended row

instance Snug.decidable (cols : Nat) (t : List Cell) : Decidable (Snug cols t) :=
  inferInstanceAs (Decidable (_ ∧ ∀ row ∈ _, _))

theorem layText_eq (hcut : cut cols [] t = full ++ [last]) :
    layText cols t = full.map (fullRow cols) ++ [{ cells := Line.fit cols last }] := by
  rw [layText, hcut, asLines_concat]

theorem length_layText (hcut : cut cols [] t = full ++ [last]) :
    (layText cols t).length = full.length + 1 := by
  rw [layText, length_asLines, hcut, List.length_append, List.length_singleton]

theorem layTexts_append (ts us : List (List Cell)) :
    layTexts cols (ts ++ us) = layTexts cols ts ++ layTexts cols us :=
  List.flatMap_append

theorem layTexts_singleton (t : List Cell) : layTexts cols [t] = layText cols t :=
  List.flatMap_singleton _ _

theorem length_layTexts_concat (hcut : cut cols [] t = full ++ [last]) (ts : List (List Cell)) :
    (layTexts cols (ts ++ [t])).length = (layTexts cols ts).length + full.length + 1 := by
  rw [layTexts_append, layTexts_singleton, List.length_append, length_layText hcut, Nat.add_assoc]

/-- No text has one row, a blank one. -/
theorem layTexts_replicate_nil (cols n : Nat) :
    layTexts cols (List.replicate n []) = List.replicate n (.blank cols) := by
  induction n with
  | zero => rfl
  | succ n ih =>
    have hnone : layText cols [] = [.blank cols] := by
      rw [Line.blank_eq]
      rfl
    rw [List.replicate_succ, layTexts, List.flatMap_cons, hnone]
    exact congrArg (Line.blank cols :: ·) ih

theorem snug_nil (cols : Nat) : Snug cols [] :=
  ⟨ended_nil, fun row hrow => by rw [cut_nil] at hrow; cases hrow⟩

/-- The rows of a text are its cells, and fit the width. -/
theorem Snug.rows (h : Snug cols t) (hcols : 2 ≤ cols) (hcut : cut cols [] t = full ++ [last]) :
    full.flatten ++ last = t ∧ last.length ≤ cols ∧ ∀ r ∈ full, Ended r ∧ r.length ≤ cols := by
  have hflatten := flatten_cut hcols [] t
  have hlength : ∀ r ∈ cut cols [] t, r.length ≤ cols := length_of_mem_cut hcols (Nat.zero_le _)
  have hended := h.2
  rw [hcut, List.flatten_append, List.flatten_singleton, List.nil_append] at hflatten
  rw [hcut] at hlength
  rw [hcut, List.dropLast_concat] at hended
  exact ⟨hflatten, hlength last (List.mem_append_right _ List.mem_cons_self), fun r hr =>
    ⟨hended r hr, hlength r (List.mem_append_left _ hr)⟩⟩

/-- A text cut into rows, the last of which is filled up. -/
theorem Snug.content_rows (h : Snug cols t) (hcols : 2 ≤ cols)
    (hcut : cut cols [] t = full ++ [last]) :
    Line.content (full.flatten ++ Line.fit cols last) = t := by
  obtain ⟨hcells, hlast, -⟩ := h.rows hcols hcut
  rw [Line.fit_eq hlast, ← List.append_assoc, hcells, content_append_replicate]
  exact h.1

/-- The last row of a text shows, unless the text is empty. -/
theorem Snug.isBlank_last (h : Snug cols t) (hcols : 2 ≤ cols)
    (hcut : cut cols [] t = full ++ [last]) (hne : t ≠ []) :
    (Line.mk (Line.fit cols last) false).isBlank = false := by
  obtain ⟨hcells, hlen, -⟩ := h.rows hcols hcut
  have hmem : last ∈ cut cols [] t := by
    rw [hcut]
    exact List.mem_append_right _ List.mem_cons_self
  have hlast : last ≠ [] := ne_nil_of_mem_cut hcols (.inr hne) last hmem
  obtain ⟨front, c, hconcat⟩ := (List.eq_nil_or_concat last).resolve_left hlast
  rw [List.concat_eq_append] at hconcat
  -- the last cell of the text shows, and it is the last one of the row
  have hshows : c.isBlank = false := by
    have hended := h.1
    rw [← hcells, hconcat, ← List.append_assoc] at hended
    exact hended.isBlank_last
  have hcontent : Line.content last = last := by
    rw [hconcat]
    exact Text.dropEndWhile_concat hshows
  simp [Line.isBlank, Line.contentLength, content_fit hlen, hcontent, hlast]

/-! ## Rows and paragraphs -/

/-- How far into rows the cursor is, the first row having the number `i`; below the
rows that run on there is a last one. -/
def markWithin (cursor : Option Position) : Nat → List (List Cell) → Option Nat
  | i, [] => markIn cursor i
  | i, row :: full => markIn cursor i <|> (markWithin cursor (i + 1) full).map (row.length + ·)

theorem markWithin_eq_none {cursor : Option Position} {i : Nat}
    (h : ∀ p, cursor = some p → p.row < i ∨ i + full.length < p.row) :
    markWithin cursor i full = none := by
  have hout : ∀ k, i ≤ k → k ≤ i + full.length → markIn cursor k = none := by
    intro k hle hge
    cases cursor with
    | none => rfl
    | some p =>
      have hp := h p rfl
      exact if_neg (by omega)
  induction full generalizing i with
  | nil => exact hout i (Nat.le_refl i) (Nat.le_refl i)
  | cons row full ih =>
    rw [List.length_cons] at h hout
    have hrest := ih (i := i + 1)
      (fun p hp => (h p hp).imp (fun hlt => Nat.lt_succ_of_lt hlt) (fun hlt => by omega))
      (fun k hle hge => hout k (by omega) (by omega))
    rw [markWithin, hout i (Nat.le_refl i) (by omega), hrest]
    rfl

theorem markWithin_eq_some {p : Position} {i j : Nat} (hrow : p.row = i + j)
    (hj : j ≤ full.length) :
    markWithin (some p) i full = some ((full.take j).flatten.length + p.col) := by
  induction full generalizing i j with
  | nil =>
    obtain rfl : j = 0 := Nat.le_zero.mp hj
    have hhere : markIn (some p) i = some p.col := if_pos hrow
    rw [markWithin, hhere]
    simp
  | cons row full ih =>
    cases j with
    | zero =>
      have hhere : markIn (some p) i = some p.col := if_pos hrow
      rw [markWithin, hhere]
      simp
    | succ j =>
      have habove : markIn (some p) i = none := if_neg (by omega)
      rw [markWithin, habove, ih (i := i + 1) (j := j) (by omega) (by simpa using hj)]
      simp [Nat.add_assoc]

/-- **Rows that run on up to a last one are one paragraph.** -/
theorem paragraphs_rows (hfull : ∀ r ∈ full, Ended r ∧ r.length ≤ cols)
    (cursor : Option Position) (i : Nat) (last : List Cell) (rest : List Line) :
    paragraphs (markedFrom i
        (full.map (fullRow cols) ++ { cells := Line.fit cols last } :: rest) cursor) =
      { cells := full.flatten ++ Line.fit cols last, mark := markWithin cursor i full } ::
        paragraphs (markedFrom (i + full.length + 1) rest cursor) := by
  induction full generalizing i with
  | nil =>
    show addRow ({ cells := Line.fit cols last }, markIn cursor i)
      (paragraphs (markedFrom (i + 1) rest cursor)) = _
    rw [addRow_ended rfl]
    rfl
  | cons row full ih =>
    obtain ⟨⟨hended, hlen⟩, hrest⟩ := List.forall_mem_cons.mp hfull
    have hgives : contribution (fullRow cols row) = row := by
      show Line.content (Line.fit cols row) = row
      rw [content_fit hlen]
      exact hended
    have hnext : i + (full.length + 1) = i + 1 + full.length := by omega
    show addRow (fullRow cols row, markIn cursor i)
      (paragraphs (markedFrom (i + 1) (full.map (fullRow cols) ++ _ :: rest) cursor)) = _
    rw [ih hrest, addRow_wrapped rfl, hgives, List.length_cons, hnext, markWithin]
    simp [joinFront, List.append_assoc]

/-- The paragraph of a text. -/
theorem Snug.paragraphs_layText (h : Snug cols t) (hcols : 2 ≤ cols)
    (hcut : cut cols [] t = full ++ [last]) (cursor : Option Position) (i : Nat)
    (rest : List Line) :
    paragraphs (markedFrom i (layText cols t ++ rest) cursor) =
      { cells := full.flatten ++ Line.fit cols last, mark := markWithin cursor i full } ::
        paragraphs (markedFrom (i + full.length + 1) rest cursor) := by
  obtain ⟨-, -, hfull⟩ := h.rows hcols hcut
  rw [layText_eq hcut, List.append_assoc]
  exact paragraphs_rows hfull cursor i last rest

/-- The texts that rows come to. -/
def texts (rows : List Line) : List (List Cell) :=
  (paragraphs (marked rows none)).map fun p => Line.content p.cells

/-- **Joining the rows of texts gives the texts back.** -/
theorem texts_layTexts (hcols : 2 ≤ cols) (hts : ∀ t ∈ ts, Snug cols t) (rest : List Line) :
    texts (layTexts cols ts ++ rest) = ts ++ texts rest := by
  have hfrom : ∀ i rows, (paragraphs (markedFrom i rows none)).map (fun p => Line.content p.cells) =
      texts rows := by
    intro i rows
    have hmarks : ∀ i, markedFrom i rows none = rows.map (·, none) := by
      intro i
      induction rows generalizing i with
      | nil => rfl
      | cons l rows ih => rw [markedFrom_cons, ih]; rfl
    rw [hmarks, ← hmarks 0]
    rfl
  induction ts with
  | nil => rfl
  | cons t ts ih =>
    obtain ⟨ht, hrest⟩ := List.forall_mem_cons.mp hts
    obtain ⟨full, last, hcut⟩ := exists_cut_concat cols [] t
    have hsplit : layTexts cols (t :: ts) ++ rest =
        layText cols t ++ (layTexts cols ts ++ rest) := by
      rw [← List.append_assoc]
      rfl
    rw [← hfrom 0, hsplit, ht.paragraphs_layText hcols hcut, List.map_cons, hfrom, ih hrest,
      ht.content_rows hcols hcut]
    rfl

/-! ## Laying out anew -/

variable {width : Nat} {p : Position}

/-- Where a cursor that stands `target` cells into a text comes to stand among the
rows of the text. -/
def placeIn (width : Nat) (pendingWrap : Bool) (t : List Cell) (target : Nat) : Position :=
  keepBehind width pendingWrap (locate width 0 0 t target)

theorem row_keepBehind (pendingWrap : Bool) (spot : Position) :
    (keepBehind width pendingWrap spot).row = spot.row := by
  unfold keepBehind
  split
  · rfl
  · split <;> rfl

/-- A cursor right behind a text, or on its last cell, goes to its last row. -/
theorem Snug.row_placeIn (h : Snug cols t) (hcols : 2 ≤ cols) (hwidth : 2 ≤ width)
    (hcut : cut cols [] t = full ++ [last]) {col : Nat} (hle : col ≤ last.length)
    (hlt : last.length ≤ col + 1) (pendingWrap : Bool) :
    (placeIn width pendingWrap t (full.flatten.length + col)).row + 1 =
      (layText width t).length := by
  obtain ⟨hcells, -, -⟩ := h.rows hcols hcut
  have hlen := congrArg List.length hcells
  rw [List.length_append] at hlen
  have hrow : (locate width 0 ([] : List Cell).length t (full.flatten.length + col)).row + 1 =
      0 + (cut width [] t).length :=
    row_locate hwidth (Nat.zero_le _) (by omega) (by omega)
  rw [placeIn, row_keepBehind, layText, length_asLines, ← Nat.zero_add (cut width _ _).length]
  exact hrow

theorem Snug.lay_paragraph (h : Snug cols t) (hcols : 2 ≤ cols)
    (hcut : cut cols [] t = full ++ [last]) (mark : Option Nat) :
    lay width { cells := full.flatten ++ Line.fit cols last, mark } = layText width t := by
  rw [lay, h.content_rows hcols hcut]
  rfl

theorem Snug.place?_paragraph (h : Snug cols t) (hcols : 2 ≤ cols)
    (hcut : cut cols [] t = full ++ [last]) (pendingWrap : Bool) (mark : Option Nat) :
    place? width pendingWrap { cells := full.flatten ++ Line.fit cols last, mark } =
      mark.map (placeIn width pendingWrap t) := by
  rw [place?_eq, h.content_rows hcols hcut, Option.map_map]
  rfl

/-- **The paragraphs of texts have the rows of these texts**, and the cursor, in row
`j` of the last one, has its place there. -/
theorem layAll_layTexts (hcols : 2 ≤ cols) (hts : ∀ u ∈ ts ++ [t], Snug cols u)
    (hcut : cut cols [] t = full ++ [last]) {i j : Nat} (hj : j ≤ full.length)
    (hrow : p.row = i + (layTexts cols ts).length + j) (pendingWrap : Bool) :
    layAll width pendingWrap (paragraphs (markedFrom i (layTexts cols (ts ++ [t])) (some p))) =
      (layTexts width (ts ++ [t]), some (below (layTexts width ts).length
        (placeIn width pendingWrap t ((full.take j).flatten.length + p.col)))) := by
  induction ts generalizing i with
  | nil =>
    have ht : Snug cols t := hts t List.mem_cons_self
    have hmark : markWithin (some p) i full = some ((full.take j).flatten.length + p.col) :=
      markWithin_eq_some (by simpa [layTexts] using hrow) hj
    have hlines : ∀ cols, layTexts cols ([] ++ [t]) = layText cols t ++ [] := by
      intro cols
      rw [List.nil_append, layTexts_singleton, List.append_nil]
    rw [hlines, hlines, ht.paragraphs_layText hcols hcut, hmark]
    show layAll width pendingWrap [_] = _
    rw [layAll_cons, ht.lay_paragraph hcols hcut, ht.place?_paragraph hcols hcut]
    simp [layAll, below, layTexts]
  | cons first ts ih =>
    obtain ⟨hfirst, hrest⟩ := List.forall_mem_cons.mp hts
    obtain ⟨full', last', hcut'⟩ := exists_cut_concat cols [] first
    have hlines : ∀ cols (us : List (List Cell)),
        layTexts cols (first :: us) = layText cols first ++ layTexts cols us := fun cols us => rfl
    rw [hlines, List.length_append, length_layText hcut'] at hrow
    -- the cursor is further down, in a paragraph of the texts below
    have hmark : markWithin (some p) i full' = none := by
      refine markWithin_eq_none fun q hq => .inr ?_
      obtain rfl := Option.some.inj hq
      omega
    rw [List.cons_append, hlines, hlines, hfirst.paragraphs_layText hcols hcut', hmark,
      layAll_cons, hfirst.lay_paragraph hcols hcut', hfirst.place?_paragraph hcols hcut',
      ih hrest (by omega), hlines, List.length_append]
    show (_, some (below _ (below _ _))) = _
    rw [below_below]

theorem length_reach {lines : List Line} {i : Nat} (h : lines.length ≤ i + 1) :
    (reach cols i lines).length = i + 1 := by
  rw [reach, List.length_append, List.length_replicate]
  omega

theorem lt_length_reach (i : Nat) (lines : List Line) : i < (reach cols i lines).length := by
  rw [reach, List.length_append, List.length_replicate]
  omega

/-- The blank rows below a text are dropped. -/
theorem dropBlankEnd_append {rows rest : List Line} (hp : p.row < rows.length)
    (hlast : ∀ l, (rows.drop (p.row + 1)).getLast? = some l → l.isBlank = false)
    (hrest : ∀ l ∈ rest, l.isBlank = true) : dropBlankEnd (rows ++ rest) (some p) = rows := by
  show (rows ++ rest).take (p.row + 1) ++
    Text.dropEndWhile Line.isBlank ((rows ++ rest).drop (p.row + 1)) = rows
  rw [List.take_append_of_le_length hp, List.drop_append_of_le_length hp,
    Text.dropEndWhile_append hrest]
  have hkept : Text.dropEndWhile Line.isBlank (rows.drop (p.row + 1)) = rows.drop (p.row + 1) := by
    rcases List.eq_nil_or_concat (rows.drop (p.row + 1)) with hnone | ⟨front, l, hconcat⟩
    · rw [hnone]
      rfl
    · rw [List.concat_eq_append] at hconcat
      rw [hconcat]
      exact Text.dropEndWhile_concat (hlast l (by rw [hconcat, List.getLast?_concat]))
  rw [hkept, List.take_append_drop]

/-- **Laid out anew, the rows of texts are those of the new width.** The cursor is in
row `j` of the last text, which is no blank row or that of the cursor. -/
theorem reflow_layTexts (width : Nat) (hcols : 2 ≤ cols) (hts : ∀ u ∈ ts ++ [t], Snug cols u)
    (hcut : cut cols [] t = full ++ [last]) {j : Nat} (hj : j ≤ full.length)
    (hrow : p.row = (layTexts cols ts).length + j) (hshows : j = full.length ∨ t ≠ [])
    (blanks : Nat) {q : Position} (hq : below (layTexts width ts).length
      (placeIn width p.pendingWrap t ((full.take j).flatten.length + p.col)) = q) :
    reflow width (layTexts cols (ts ++ [t]) ++ List.replicate blanks (.blank cols)) (some p) =
      (reach width q.row (layTexts width (ts ++ [t])), some q) := by
  have ht : Snug cols t := hts t (List.mem_append_right _ List.mem_cons_self)
  obtain ⟨hcells, hlen, -⟩ := ht.rows hcols hcut
  have hcount := length_layTexts_concat hcut ts
  have hblanks : ∀ l ∈ List.replicate blanks (Line.blank cols), l.isBlank = true := by
    intro l hl
    rw [List.eq_of_mem_replicate hl, isBlank_blank]
  have hkept : dropBlankEnd (layTexts cols (ts ++ [t]) ++ List.replicate blanks (.blank cols))
      (some p) = layTexts cols (ts ++ [t]) := by
    refine dropBlankEnd_append (by omega) (fun l hl => ?_) hblanks
    -- below the cursor there are rows of the last text, if any
    by_cases hend : j = full.length
    · rw [List.drop_eq_nil_of_le (by omega)] at hl
      cases hl
    · have hlines : layTexts cols (ts ++ [t]) = (layTexts cols ts ++ full.map (fullRow cols)) ++
          [{ cells := Line.fit cols last }] := by
        rw [layTexts_append, layTexts_singleton, layText_eq hcut, List.append_assoc]
      rw [List.getLast?_drop, if_neg (by omega), hlines, List.getLast?_concat] at hl
      obtain rfl := Option.some.inj hl
      exact ht.isBlank_last hcols hcut (hshows.resolve_left hend)
  have hlaid : layAll width ((some p).any (·.pendingWrap)) _ = _ :=
    layAll_layTexts hcols hts hcut hj (by rw [hrow, Nat.zero_add]) _
  have hmarked : markedFrom 0 (layTexts cols (ts ++ [t])) (some p) =
      marked (layTexts cols (ts ++ [t])) (some p) := rfl
  rw [hmarked] at hlaid
  rw [reflow, hkept, hlaid]
  subst hq
  rfl

end Reflow

end Teletype

import Teletype.Proofs.Row.Halves

/-!
# Cells wiped out

Erasing leaves empty cells on paper of the pen's color (`paper`), and a character that loses
one half loses the other one too. That is said here column by column, for any set of columns
(`wipe`), and it leaves no half alone (`Coupled.wipe`).

`erase` comes to it in three steps: both ends of the range are freed from the characters
that they are halves of, the second one in a row that the first one may have changed,
and then the range is filled. Where every right half stands behind its left half
(`Coupled`) the steps do not disturb each other (`Coupled.erase_eq_wipe`).
-/

namespace Teletype.Row

/-- Whether there is a right half in a column. -/
def tailAt (cells : List Cell) (col : Nat) : Bool :=
  cells[col]?.any (·.tail)

/-- Whether there is a character of more than one column in a column. -/
def wideAt (cells : List Cell) (col : Nat) : Bool :=
  cells[col]?.any (1 < ·.width)

/-- A right half stands exactly behind every character of more than one column, and is
no such character itself. -/
structure Coupled (cells : List Cell) : Prop where
  first : tailAt cells 0 = false
  next : ∀ col, tailAt cells (col + 1) = wideAt cells col
  single : ∀ col, tailAt cells col = true → wideAt cells col = false

/-- Whether the other half of the cell in a column is among the columns `covered`. -/
def losesHalf (covered : Nat → Bool) (cells : List Cell) (col : Nat) : Bool :=
  tailAt cells col && covered (col - 1) || tailAt cells (col + 1) && covered (col + 1)

/-- Paper of a color with nothing on it: no text, no ink and no style of its own, and no half
of a character. -/
def paper (bg : Color) : Cell where
  content := ""
  pen := { fg := .unset, bg, style := {} }
  tail := false

/-- The cells with the columns `covered` wiped out. What is left of the characters that are
cut by that becomes plain paper. -/
def wipe (covered : Nat → Bool) (bg : Color) (cells : List Cell) : List Cell :=
  cells.mapIdx fun col c =>
    if covered col then paper bg else if losesHalf covered cells col then paper .unset else c

variable {cells : List Cell} {covered other : Nat → Bool} {bg : Color} {col i first last : Nat}

theorem tailAt_of_le (h : cells.length ≤ col) : tailAt cells col = false := by
  rw [tailAt, List.getElem?_eq_none h]
  rfl

theorem wideAt_of_le (h : cells.length ≤ col) : wideAt cells col = false := by
  rw [wideAt, List.getElem?_eq_none h]
  rfl

theorem coupled_iff_forall_lt : Coupled cells ↔ tailAt cells 0 = false ∧
    ∀ col < cells.length, tailAt cells (col + 1) = wideAt cells col ∧
      (tailAt cells col = true → wideAt cells col = false) := by
  constructor
  · intro h
    exact ⟨h.first, fun col _ => ⟨h.next col, h.single col⟩⟩
  · rintro ⟨hfirst, hall⟩
    refine ⟨hfirst, fun col => ?_, fun col => ?_⟩
    · rcases Nat.lt_or_ge col cells.length with hlt | hge
      · exact (hall col hlt).1
      · rw [tailAt_of_le (Nat.le_succ_of_le hge), wideAt_of_le hge]
    · rcases Nat.lt_or_ge col cells.length with hlt | hge
      · exact (hall col hlt).2
      · exact fun _ => wideAt_of_le hge

instance (cells : List Cell) : Decidable (Coupled cells) :=
  decidable_of_iff _ coupled_iff_forall_lt.symm

/-! ## Wiping -/

theorem erased_eq_paper (bg : Color) : Cell.erased bg = paper bg := rfl

theorem blank_eq_paper : Cell.blank = paper .unset := rfl

@[simp] theorem width_paper (bg : Color) : (paper bg).width = 0 :=
  Text.stringWidth_empty

theorem getElem?_wipe (covered : Nat → Bool) (bg : Color) (cells : List Cell) (col : Nat) :
    (wipe covered bg cells)[col]? = cells[col]?.map fun c =>
      if covered col then paper bg else if losesHalf covered cells col then paper .unset else c :=
  List.getElem?_mapIdx

@[simp] theorem length_wipe (covered : Nat → Bool) (bg : Color) (cells : List Cell) :
    (wipe covered bg cells).length = cells.length :=
  List.length_mapIdx

/-- Only columns of the row count. -/
theorem wipe_congr (h : ∀ col < cells.length, covered col = other col) :
    wipe covered bg cells = wipe other bg cells := by
  have hbehind : ∀ col, (tailAt cells col && covered col) = (tailAt cells col && other col) := by
    intro col
    rcases Nat.lt_or_ge col cells.length with hlt | hge
    · rw [h col hlt]
    · rw [tailAt_of_le hge, Bool.false_and, Bool.false_and]
  refine List.ext_getElem? fun col => ?_
  rw [getElem?_wipe, getElem?_wipe]
  cases hc : cells[col]? with
  | none => rfl
  | some c =>
    obtain ⟨hlt, -⟩ := List.getElem?_eq_some_iff.mp hc
    rw [losesHalf, losesHalf, h col hlt, h (col - 1) (by omega), hbehind (col + 1)]

theorem wipe_nothing (bg : Color) (cells : List Cell) : wipe (fun _ => false) bg cells = cells := by
  refine List.ext_getElem? fun col => ?_
  simp [getElem?_wipe, losesHalf]

theorem tailAt_wipe (covered : Nat → Bool) (bg : Color) (cells : List Cell) (col : Nat) :
    tailAt (wipe covered bg cells) col =
      (tailAt cells col && !covered col && !losesHalf covered cells col) := by
  rw [tailAt, getElem?_wipe, Option.any_map]
  cases covered col <;> cases losesHalf covered cells col <;> simp [tailAt, paper]

theorem wideAt_wipe (covered : Nat → Bool) (bg : Color) (cells : List Cell) (col : Nat) :
    wideAt (wipe covered bg cells) col =
      (wideAt cells col && !covered col && !losesHalf covered cells col) := by
  rw [wideAt, getElem?_wipe, Option.any_map]
  cases covered col <;> cases losesHalf covered cells col <;> simp [wideAt]

namespace Coupled

/-- A character of more than one column is no right half. -/
theorem not_tailAt (h : Coupled cells) (hw : wideAt cells col = true) :
    tailAt cells col = false := by
  cases ht : tailAt cells col with
  | false => rfl
  | true => rw [h.single col ht] at hw; cases hw

/-- **Wiping leaves no half alone**, whatever columns it is that are wiped out. -/
theorem wipe (h : Coupled cells) (covered : Nat → Bool) (bg : Color) :
    Coupled (wipe covered bg cells) where
  first := by rw [tailAt_wipe, h.first, Bool.false_and, Bool.false_and]
  next col := by
    rw [tailAt_wipe, wideAt_wipe, h.next col]
    cases hwide : wideAt cells col with
    | false => rfl
    | true =>
      -- the two halves of a character lose each other at the same time
      have hright : tailAt cells (col + 1) = true := (h.next col).trans hwide
      have hbehind : tailAt cells (col + 1 + 1) = false :=
        (h.next (col + 1)).trans (h.single (col + 1) hright)
      simp only [losesHalf, hright, hbehind, h.not_tailAt hwide, Nat.add_sub_cancel,
        Bool.true_and, Bool.false_and, Bool.or_false, Bool.false_or]
      exact Bool.and_comm _ _
  single col hcol := by
    rw [tailAt_wipe, Bool.and_assoc, Bool.and_eq_true] at hcol
    rw [wideAt_wipe, h.single col hcol.1, Bool.false_and, Bool.false_and]

end Coupled

/-- Whole characters are coupled. -/
theorem Spans.coupled (h : Paired cells) : Coupled cells := by
  have hwide : ∀ col c, cells[col]? = some c → wideAt cells col = (c.width == 2) := by
    intro col c hc
    have hnarrow := (h.proper c (List.mem_of_getElem? hc)).narrow
    rw [wideAt, hc, Option.any_some, Bool.eq_iff_iff, decide_eq_true_eq, beq_iff_eq]
    omega
  refine ⟨?_, fun col => ?_, fun col ht => ?_⟩
  · cases cells with
    | nil => rfl
    | cons c rest => exact h.first_not_tail
  · cases hc : cells[col]? with
    | none =>
      have hle := List.getElem?_eq_none_iff.mp hc
      rw [tailAt_of_le (Nat.le_succ_of_le hle), wideAt_of_le hle]
    | some c =>
      rw [hwide col c hc]
      obtain ⟨xs, ys, rfl, rfl⟩ := eq_append_of_getElem? hc
      obtain ⟨p, -, hcy⟩ := h.of_append
      obtain ⟨-, -, hy⟩ := hcy.of_cons
      -- what is read behind the cell begins with a right half exactly if one is awaited
      cases ys with
      | nil => rw [hy.eq_of_nil, tailAt_of_le (by simp)]
      | cons d rest => rw [← hy.of_cons.2.1, tailAt]; simp
  · obtain ⟨c, hc, htail⟩ := (Option.any_eq_true _ _).mp ht
    have hwidth := (h.proper c (List.mem_of_getElem? hc)).width_eq_zero htail
    rw [hwide col c hc, hwidth]
    rfl

/-! ## Erasing -/

/-- Whether the cell in column `i` is blanked to free the one at `col`. -/
def isFreed (col : Nat) (cells : List Cell) (i : Nat) : Bool :=
  if tailAt cells col && 0 < col then i + 1 = col else wideAt cells col && i = col + 1

theorem getElem?_set_eq (cells : List Cell) (col : Nat) (d : Cell) (i : Nat) :
    (cells.set col d)[i]? = cells[i]?.map fun c => if i = col then d else c := by
  rw [List.getElem?_set']
  by_cases hi : col = i
  · rw [if_pos hi]
    cases cells[i]? <;> simp [hi]
  · rw [if_neg hi]
    cases cells[i]? <;> simp [Ne.symm hi]

theorem getElem?_clearOtherHalf (col : Nat) (cells : List Cell) (i : Nat) :
    (clearOtherHalf col cells)[i]? =
      cells[i]?.map fun c => if isFreed col cells i then .blank else c := by
  unfold clearOtherHalf isFreed tailAt wideAt
  cases hc : cells[col]? with
  | none => simp
  | some c =>
    simp only [Option.any_some]
    split
    next htail =>
      have hcol : 0 < col := of_decide_eq_true (Bool.and_eq_true_iff.mp htail).2
      have hiff : (i = col - 1) = (i + 1 = col) := propext (by omega)
      simp only [getElem?_set_eq, hiff, decide_eq_true_eq]
    next =>
      split
      next hwide =>
        simp only [getElem?_set_eq, hwide, decide_true, Bool.true_and, decide_eq_true_eq]
      next hnarrow => simp [hnarrow]

theorem tailAt_clearOtherHalf (col : Nat) (cells : List Cell) (i : Nat) :
    tailAt (clearOtherHalf col cells) i = (tailAt cells i && !isFreed col cells i) := by
  rw [tailAt, getElem?_clearOtherHalf, Option.any_map]
  cases isFreed col cells i <;> simp [tailAt]

theorem wideAt_clearOtherHalf (col : Nat) (cells : List Cell) (i : Nat) :
    wideAt (clearOtherHalf col cells) i = (wideAt cells i && !isFreed col cells i) := by
  have hblank : Cell.width .blank = 0 := width_paper .unset
  rw [wideAt, getElem?_clearOtherHalf, Option.any_map]
  cases isFreed col cells i <;> simp [wideAt, hblank]

theorem getElem?_fill {c : Cell} (h : first ≤ last) (hl : last ≤ cells.length) (i : Nat) :
    (fill first last c cells)[i]? =
      cells[i]?.map fun d => if first ≤ i ∧ i < last then c else d := by
  have htake : (cells.take first).length = first := List.length_take_of_le (by omega)
  have hmin : min last cells.length - first = last - first := by omega
  unfold fill
  rw [hmin, Nat.max_eq_right h]
  by_cases hfront : i < first
  · rw [List.getElem?_append_left (by omega), List.getElem?_take_of_lt hfront]
    simp [Nat.not_le.mpr hfront]
  rw [List.getElem?_append_right (by omega), htake]
  by_cases hinside : i < last
  · rw [List.getElem?_append_left (by rw [List.length_replicate]; omega),
      List.getElem?_replicate_of_lt (by omega), List.getElem?_eq_getElem (by omega),
      Option.map_some, if_pos ⟨Nat.not_lt.mp hfront, hinside⟩]
  · rw [List.getElem?_append_right (by rw [List.length_replicate]; omega), List.length_replicate,
      List.getElem?_drop]
    have hplace : last + (i - first - (last - first)) = i := by omega
    simp [hplace, hinside]

/-- In front of a column only its left half is freed. -/
theorem isFreed_of_lt (hi : i < first) :
    isFreed first cells i = (tailAt cells first && decide (i + 1 = first)) := by
  have hpos : 0 < first := by omega
  have hbehind : i ≠ first + 1 := by omega
  simp only [isFreed, hpos, hbehind, decide_true, decide_false, Bool.and_true, Bool.and_false]
  cases tailAt cells first <;> rfl

theorem losesHalf_of_lt (hi : i < first) (hrange : first < last) :
    losesHalf (fun col => first ≤ col && col < last) cells i =
      (tailAt cells first && decide (i + 1 = first)) := by
  have hleft : ¬ first ≤ i - 1 := by omega
  simp only [losesHalf, hleft, decide_false, Bool.false_and, Bool.and_false, Bool.false_or]
  by_cases hnext : i + 1 = first
  · simp [hnext, hrange]
  · have hright : ¬ first ≤ i + 1 := by omega
    simp [hnext, hright]

/-- So far in front the second repair reaches only if the range has a single column. -/
theorem isFreed_of_isFreed_last (hi : i < first) (hrange : first < last)
    (h : isFreed (last - 1) (clearOtherHalf first cells) i = true) :
    isFreed first cells i = true := by
  rw [isFreed_of_lt hi]
  unfold isFreed at h
  split at h
  next htail =>
    have hsame : last - 1 = first := by have := of_decide_eq_true h; omega
    rw [hsame, tailAt_clearOtherHalf, Bool.and_eq_true, Bool.and_eq_true] at htail
    rw [htail.1.1, ← hsame, h]
    rfl
  next =>
    have hbehind := of_decide_eq_true (Bool.and_eq_true_iff.mp h).2
    omega

/-- In front of a range the one cell that is blanked is the left half of a character
whose right half comes first in the range. -/
theorem isFreed_front (hi : i < first) (hrange : first < last) :
    (isFreed (last - 1) (clearOtherHalf first cells) i || isFreed first cells i) =
      losesHalf (fun col => first ≤ col && col < last) cells i := by
  rw [losesHalf_of_lt hi hrange, ← isFreed_of_lt hi]
  cases hsecond : isFreed (last - 1) (clearOtherHalf first cells) i with
  | false => rfl
  | true => rw [isFreed_of_isFreed_last hi hrange hsecond, Bool.or_true]

namespace Coupled

/-- From a column on only its right half is freed. -/
theorem isFreed_of_le (h : Coupled cells) (hi : first ≤ i) :
    isFreed first cells i = (wideAt cells first && decide (i = first + 1)) := by
  have hfront : i + 1 ≠ first := by omega
  simp only [isFreed, hfront, decide_false]
  split
  next htail => rw [h.single first (Bool.and_eq_true_iff.mp htail).1]; rfl
  next => rfl

theorem losesHalf_of_le (h : Coupled cells) (hi : last ≤ i) (hrange : first < last) :
    losesHalf (fun col => first ≤ col && col < last) cells i =
      (wideAt cells (last - 1) && decide (i = last)) := by
  have hright : ¬ i + 1 < last := by omega
  rw [← h.next (last - 1), Nat.sub_add_cancel (by omega : 1 ≤ last)]
  simp only [losesHalf, hright, decide_false, Bool.and_false, Bool.or_false]
  by_cases hnext : i = last
  · have hleft : first ≤ last - 1 ∧ last - 1 < last := by omega
    simp [hnext, hleft]
  · have hleft : ¬ i - 1 < last := by omega
    simp [hnext, hleft]

/-- The first repair blanks no character of more than one column from there on. -/
theorem wideAt_freed (h : Coupled cells) (hi : first ≤ i) :
    wideAt (clearOtherHalf first cells) i = wideAt cells i := by
  rw [wideAt_clearOtherHalf]
  cases hwide : wideAt cells i with
  | false => rfl
  | true =>
    rw [h.isFreed_of_le hi]
    by_cases hnext : i = first + 1
    · have htail := h.not_tailAt hwide
      rw [hnext, h.next first] at htail
      rw [htail]
      rfl
    · rw [decide_eq_false hnext, Bool.and_false]
      rfl

/-- The cell that comes last may have been blanked by the first repair, but then it was a
right half. -/
theorem isFreed_last (h : Coupled cells) (hi : last ≤ i) (hrange : first < last) :
    isFreed (last - 1) (clearOtherHalf first cells) i =
      (wideAt cells (last - 1) && decide (i = last)) := by
  have hplace : last - 1 + 1 = last := by omega
  have hfront : i + 1 ≠ last - 1 := by omega
  simp only [isFreed, h.wideAt_freed (by omega : first ≤ last - 1), hplace, hfront, decide_false]
  split
  next htail =>
    rw [tailAt_clearOtherHalf, Bool.and_eq_true, Bool.and_eq_true] at htail
    rw [h.single (last - 1) htail.1.1, Bool.false_and]
  next => rfl

/-- Behind a range the one cell that is blanked is the right half of a character whose left
half comes last in the range. -/
theorem isFreed_behind (h : Coupled cells) (hi : last ≤ i) (hrange : first < last) :
    (isFreed (last - 1) (clearOtherHalf first cells) i || isFreed first cells i) =
      losesHalf (fun col => first ≤ col && col < last) cells i := by
  rw [h.losesHalf_of_le hi hrange, h.isFreed_last hi hrange, h.isFreed_of_le (by omega)]
  -- a character that the first repair looks at is in a range of a single column
  by_cases hone : i = first + 1
  · obtain rfl : last = first + 1 := by omega
    rw [Nat.add_sub_cancel, Bool.or_self]
  · rw [decide_eq_false hone, Bool.and_false, Bool.or_false]

/-- **Erasing wipes out the columns of its range**, where every right half stands behind
its left half. -/
theorem erase_eq_wipe (h : Coupled cells) (hfirst : first < last)
    (hlast : last ≤ cells.length) (bg : Color) :
    erase first last bg cells = Row.wipe (fun col => first ≤ col && col < last) bg cells := by
  refine List.ext_getElem? fun i => ?_
  rw [erase, erased_eq_paper, getElem?_fill (Nat.le_of_lt hfirst) (by simpa using hlast),
    getElem?_wipe, getElem?_clearOtherHalf, getElem?_clearOtherHalf, Option.map_map,
    Option.map_map, blank_eq_paper]
  cases hc : cells[i]? with
  | none => rfl
  | some c =>
    simp only [Option.map_some, Function.comp_apply, Bool.and_eq_true, decide_eq_true_eq]
    split
    · rfl
    next hout =>
      have hfreed : (isFreed (last - 1) (clearOtherHalf first cells) i || isFreed first cells i) =
          losesHalf (fun col => first ≤ col && col < last) cells i := by
        rcases Nat.lt_or_ge i first with hfront | hbehind
        · exact isFreed_front hfront hfirst
        · exact h.isFreed_behind (by omega) hfirst
      rw [← hfreed]
      cases isFreed (last - 1) (clearOtherHalf first cells) i <;>
        cases isFreed first cells i <;> rfl

end Coupled

end Teletype.Row

import Mathlib.Algebra.GroupWithZero.Nat
import Teletype.Snapshot

/-!
# Whole characters

A row is read from the left, cell by cell, with one bit of memory: whether the
cell just read is a character of two columns, so that its right half has to
come next. `readHalves` does that, and it stops where a half stands alone. A
row that it reads to the end is `Matched`, a right half standing exactly behind
every character of two columns; a row that it leaves with nothing awaited, and
with no text in a right half, is `Paired`.

Reading a row is reading its parts one after the other, so what an edit does to
the halves is read off the parts that the edit cuts the row into.
-/

namespace Teletype

/-- No text in a right half, and no more than two columns. -/
structure Cell.Proper (c : Cell) : Prop where
  bare : c.tail = true → c.content = ""
  narrow : c.width ≤ 2

namespace Cell

theorem proper_blank : Proper .blank where
  bare _ := rfl
  narrow := Nat.zero_le _

theorem proper_erased (bg : Color) : Proper (.erased bg) where
  bare _ := rfl
  narrow := Nat.zero_le _

theorem proper_wideTail (pen : Pen) : Proper (.wideTail pen) where
  bare _ := rfl
  narrow := Nat.zero_le _

/-- A right half takes no columns of its own. -/
theorem Proper.width_eq_zero {c : Cell} (h : c.Proper) (ht : c.tail = true) : c.width = 0 := by
  rw [width, h.bare ht, Text.stringWidth_empty]

end Cell

namespace Row

/-- A right half stands exactly behind every character of two columns. -/
def Matched (cells : List Cell) : Prop :=
  ∀ (col : Nat) (c : Cell), cells[col]? = some c →
    (c.tail = true ↔ 0 < col ∧ ∃ left : Cell, cells[col - 1]? = some left ∧ left.width = 2)

/-- Reads a cell, given whether a right half is awaited. -/
def readCell (awaited : Bool) (c : Cell) : Option Bool :=
  if c.tail = awaited then some (c.width == 2) else none

/-- Reads cells from the left, and tells whether a right half is awaited at the
end. -/
def readHalves (awaited : Bool) (cells : List Cell) : Option Bool :=
  cells.foldlM readCell awaited

/-- Cells that are read from one state to another, all of them proper. -/
structure Spans (p : Bool) (cells : List Cell) (q : Bool) : Prop where
  read : readHalves p cells = some q
  proper : ∀ c ∈ cells, c.Proper

/-- Cells that are whole characters. -/
abbrev Paired (cells : List Cell) : Prop :=
  Spans false cells false

variable {p q r : Bool} {c d : Cell} {cells xs ys : List Cell}

/-! ## Reading -/

@[simp] theorem readHalves_nil (p : Bool) : readHalves p [] = some p := rfl

theorem readHalves_cons (p : Bool) (c : Cell) (rest : List Cell) :
    readHalves p (c :: rest) = if c.tail = p then readHalves (c.width == 2) rest else none := by
  unfold readHalves
  rw [List.foldlM_cons, readCell]
  split <;> rfl

theorem readHalves_start (h : c.tail = false) (rest : List Cell) :
    readHalves false (c :: rest) = readHalves (c.width == 2) rest := by
  rw [readHalves_cons, if_pos h]

theorem readHalves_append (p : Bool) (xs ys : List Cell) :
    readHalves p (xs ++ ys) = (readHalves p xs).bind fun q => readHalves q ys :=
  List.foldlM_append

/-- Reading goes on as long as each cell is a right half exactly if the cell
before it, which is `before` at the start, is a character of two columns. -/
theorem isSome_readHalves_iff (before : Cell) (cells : List Cell) :
    (readHalves (before.width == 2) cells).isSome ↔
      ∀ (col : Nat) (c : Cell), cells[col]? = some c →
        (c.tail = true ↔ ∃ left : Cell, (before :: cells)[col]? = some left ∧ left.width = 2) := by
  induction cells generalizing before with
  | nil => simp
  | cons d rest ih =>
    have hfirst : d.tail = (before.width == 2) ↔ (d.tail = true ↔ before.width = 2) := by
      rw [Bool.eq_iff_iff, beq_iff_eq]
    rw [readHalves_cons]
    constructor
    · intro h col c hc
      split at h
      · next heq =>
        cases col with
        | zero =>
          obtain rfl : d = c := by simpa using hc
          simpa using hfirst.mp heq
        | succ col => exact (ih d).mp h col c hc
      · cases h
    · intro h
      have hd := h 0 d rfl
      rw [if_pos (hfirst.mpr (by simpa using hd))]
      exact (ih d).mpr fun col c hc => h (col + 1) c hc

/-- **A row is matched exactly if it is read to the end.** -/
theorem matched_iff (cells : List Cell) : Matched cells ↔ (readHalves false cells).isSome := by
  refine Iff.trans ?_ (isSome_readHalves_iff .blank cells).symm
  refine forall_congr' fun col => forall_congr' fun c => forall_congr' fun _ => ?_
  refine iff_congr Iff.rfl ?_
  cases col with
  | zero => simp [Cell.width]
  | succ col => simp

instance (cells : List Cell) : Decidable (Matched cells) :=
  decidable_of_iff _ (matched_iff cells).symm

theorem not_matched (h : readHalves false cells = none) : ¬ Matched cells := by
  rw [matched_iff, h]
  exact Bool.false_ne_true

/-! ## Spans -/

namespace Spans

theorem nil (p : Bool) : Spans p [] p :=
  ⟨rfl, fun _ h => by cases h⟩

theorem eq_of_nil (h : Spans p [] q) : p = q :=
  Option.some.inj h.read

theorem cons (hc : c.Proper) (h : Spans (c.width == 2) cells q) : Spans c.tail (c :: cells) q where
  read := by rw [readHalves_cons, if_pos rfl, h.read]
  proper := List.forall_mem_cons.mpr ⟨hc, h.proper⟩

theorem of_cons (h : Spans p (c :: cells) q) :
    c.Proper ∧ c.tail = p ∧ Spans (c.width == 2) cells q := by
  obtain ⟨hread, hproper⟩ := h
  obtain ⟨hc, hcells⟩ := List.forall_mem_cons.mp hproper
  rw [readHalves_cons] at hread
  split at hread
  · next ht => exact ⟨hc, ht, hread, hcells⟩
  · cases hread

theorem append (hx : Spans p xs q) (hy : Spans q ys r) : Spans p (xs ++ ys) r where
  read := by rw [readHalves_append, hx.read, Option.bind_some, hy.read]
  proper c hc := (List.mem_append.mp hc).elim (hx.proper c) (hy.proper c)

/-- A span can be cut anywhere. -/
theorem of_append (h : Spans p (xs ++ ys) r) : ∃ q, Spans p xs q ∧ Spans q ys r := by
  obtain ⟨hread, hproper⟩ := h
  rw [readHalves_append] at hread
  obtain ⟨q, hx, hy⟩ := Option.bind_eq_some_iff.mp hread
  exact ⟨q, ⟨hx, fun c hc => hproper c (List.mem_append_left _ hc)⟩,
    ⟨hy, fun c hc => hproper c (List.mem_append_right _ hc)⟩⟩

theorem take (h : Spans p cells q) (n : Nat) : ∃ r, Spans p (cells.take n) r := by
  rw [← List.take_append_drop n cells] at h
  obtain ⟨r, hr, -⟩ := h.of_append
  exact ⟨r, hr⟩

theorem drop (h : Spans p cells q) (n : Nat) : ∃ r, Spans r (cells.drop n) q := by
  rw [← List.take_append_drop n cells] at h
  obtain ⟨r, -, hr⟩ := h.of_append
  exact ⟨r, hr⟩

/-- An awaited right half is the next cell. -/
theorem next_of_awaited (h : Spans true cells false) :
    ∃ t rest, cells = t :: rest ∧ t.tail = true ∧ Paired rest := by
  cases cells with
  | nil => cases h.eq_of_nil
  | cons t rest =>
    obtain ⟨ht, htail, hrest⟩ := h.of_cons
    rw [ht.width_eq_zero htail] at hrest
    exact ⟨t, rest, rfl, htail, hrest⟩

/-- What awaits a right half at the end is a character of two columns. -/
theorem last_of_awaiting (h : Spans false cells true) :
    ∃ rest head, cells = rest ++ [head] ∧ Paired rest ∧ head.width = 2 := by
  rcases List.eq_nil_or_concat cells with rfl | ⟨rest, head, rfl⟩
  · cases h.eq_of_nil
  · rw [List.concat_eq_append] at h ⊢
    obtain ⟨q, hrest, hhead⟩ := h.of_append
    obtain ⟨hproper, htail, hend⟩ := hhead.of_cons
    have hwidth : head.width = 2 := beq_iff_eq.mp hend.eq_of_nil
    refine ⟨rest, head, rfl, ?_, hwidth⟩
    cases q with
    | false => exact hrest
    | true => rw [hproper.width_eq_zero htail] at hwidth; cases hwidth

theorem first_not_tail (h : Spans false (c :: cells) q) : c.tail = false :=
  h.of_cons.2.1

end Spans

/-- A cell that is no half of a character. -/
theorem paired_single (hp : c.Proper) (ht : c.tail = false) (hw : c.width ≠ 2) : Paired [c] := by
  have h := Spans.cons hp (Spans.nil (c.width == 2))
  rwa [ht, beq_false_of_ne hw] at h

/-- A character of two columns with its right half. -/
theorem paired_two (hc : c.Proper) (ht : c.tail = false) (hw : c.width = 2) (hd : d.Proper)
    (htail : d.tail = true) : Paired [c, d] := by
  have hright := Spans.cons hd (Spans.nil (d.width == 2))
  rw [htail, hd.width_eq_zero htail] at hright
  rw [← beq_iff_eq] at hw
  have hboth : Spans c.tail [c, d] false := Spans.cons hc (by rw [hw]; exact hright)
  rwa [ht] at hboth

theorem paired_replicate (hp : c.Proper) (ht : c.tail = false) (hw : c.width ≠ 2) (n : Nat) :
    Paired (List.replicate n c) := by
  induction n with
  | zero => exact .nil false
  | succ n ih => exact (paired_single hp ht hw).append ih

theorem paired_blank : Paired [.blank] :=
  paired_single Cell.proper_blank rfl (by decide)

theorem paired_blanks (n : Nat) : Paired (List.replicate n .blank) :=
  paired_replicate Cell.proper_blank rfl (by decide) n

/-- Whole characters in front do not change how the rest is read. -/
theorem Spans.read_append (hx : Spans false xs false) (ys : List Cell) :
    readHalves false (xs ++ ys) = readHalves false ys := by
  rw [readHalves_append, hx.read, Option.bind_some]

/-- Reading sees nothing of a cell but whether it is a right half and how many
columns it takes. -/
theorem readHalves_congr (h : xs.map (fun c => (c.tail, c.width)) =
    ys.map fun c => (c.tail, c.width)) : readHalves p xs = readHalves p ys := by
  induction xs generalizing ys p with
  | nil => rw [List.map_eq_nil_iff.mp h.symm]
  | cons c xs ih =>
    obtain ⟨d, ys, rfl⟩ := List.exists_cons_of_ne_nil (l := ys) (by rintro rfl; cases h)
    rw [List.map_cons, List.map_cons, List.cons.injEq, Prod.mk.injEq] at h
    obtain ⟨⟨htail, hwidth⟩, hrest⟩ := h
    rw [readHalves_cons, readHalves_cons, htail, hwidth]
    split
    · exact ih hrest
    · rfl

/-- **A row of whole characters is matched.** -/
theorem Spans.matched (h : Spans false cells q) : Matched cells := by
  rw [matched_iff, h.read]
  rfl

/-! ## Columns in a snapshot -/

/-- The columns that a snapshot gives a cell. -/
def shownColumns (c : Cell) : Nat :=
  (CellSnapshot.ofCell c).width.toNat

theorem shownColumns_tail (h : c.tail = true) : shownColumns c = 0 := by
  simp [shownColumns, CellSnapshot.ofCell, h]

theorem shownColumns_of_not_tail (h : c.tail = false) :
    shownColumns c = max 1 (min c.width 2) := by
  have hlt : max 1 (min c.width 2) < 256 := by omega
  simp [shownColumns, CellSnapshot.ofCell, h, Nat.mod_eq_of_lt hlt]

/-- The columns of cells are as many as the cells, but for a right half that is
awaited at either end. -/
theorem Spans.sum_shownColumns (h : Spans p cells q) :
    (cells.map shownColumns).sum + p.toNat = cells.length + q.toNat := by
  induction cells generalizing p with
  | nil => rw [h.eq_of_nil]; simp
  | cons c rest ih =>
    obtain ⟨hproper, htail, hrest⟩ := h.of_cons
    have hsum := ih hrest
    have hnarrow := hproper.narrow
    rw [List.map_cons, List.sum_cons, List.length_cons]
    cases p with
    | true =>
      rw [hproper.width_eq_zero htail] at hsum
      rw [shownColumns_tail htail]
      simp only [Bool.toNat_true, Nat.reduceBEq, Bool.toNat_false] at hsum ⊢
      omega
    | false =>
      rw [shownColumns_of_not_tail htail]
      by_cases hwide : c.width = 2
      · simp only [hwide, beq_self_eq_true, Bool.toNat_true, Bool.toNat_false] at hsum ⊢
        omega
      · simp only [beq_false_of_ne hwide, Bool.toNat_false] at hsum ⊢
        omega

/-- **The columns of whole characters add up to the cells.** -/
theorem sum_shownColumns_eq (h : Paired cells) : (cells.map shownColumns).sum = cells.length :=
  h.sum_shownColumns

end Row

end Teletype

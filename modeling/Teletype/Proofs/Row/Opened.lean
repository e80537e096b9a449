import Teletype.Proofs.Row.Halves

/-!
# Opened cells and torn rows

Two edits leave half a character behind. Opening cells inside a character frees
the cell at the cursor, and then moves this half on with the text behind it
(`splits`). And a character of two columns that finds only the last column free
blanks it, which tears a character that ends there (`Torn`). Both are followed
by a character being put, which mends a row only if it covers the half or pushes
it past the end.
-/

namespace Teletype.Row

variable {c : Cell} {cells xs ys : List Cell} {col count : Nat}

/-! ## Opening cells -/

/-- Whether opening `count` cells at `col` splits a character: the cell there is
a half of one, and neither it nor what it stands beside is pushed past the
end. -/
def splits (col count : Nat) (cells : List Cell) : Bool :=
  cells[col]?.any fun c =>
    (c.tail && col + count < cells.length) || (c.width == 2 && col + count + 1 < cells.length)

theorem openAt_eq (h : col < cells.length) (count : Nat) :
    openAt col count cells =
      dropOpenEnd ((clearOtherHalf col cells).take col ++
        (List.replicate (min count (cells.length - col)) .blank ++
          ((clearOtherHalf col cells).drop col).take
            (cells.length - col - min count (cells.length - col)))) := by
  rw [openAt, if_neg (Nat.not_le.mpr h)]
  simp only [length_clearOtherHalf]
  rfl

section Kept

variable {kept : Nat} (h : Freed col cells c xs ys)

include h

/-- The freed cell and some of the cells behind it are whole characters if it was
alone, or if nothing of what was beside it is kept. -/
theorem Freed.paired_kept (htail : c.tail = false) (hbeside : c.width = 2 → kept = 0) :
    Paired (dropOpenEnd (c :: ys.take kept)) := by
  by_cases hwide : c.width = 2
  · rw [hbeside hwide, List.take_zero, ← List.nil_append [c], dropOpenEnd_concat,
      if_pos (by omega)]
    exact paired_blank
  · obtain ⟨q, hq⟩ := h.back.take kept
    exact ((paired_single h.proper htail hwide).append hq).dropOpenEnd

/-- Otherwise they are not. -/
theorem Freed.kept_read_eq_none (hhalf : c.tail = false → c.width = 2 ∧ 0 < kept) :
    readHalves false (dropOpenEnd (c :: ys.take kept)) = none := by
  cases htail : c.tail with
  | true => exact readHalves_dropOpenEnd_none h.proper (by rw [htail]; decide) _
  | false =>
    obtain ⟨hwide, hpos⟩ := hhalf htail
    -- the right half is blanked, and nothing awaited comes next
    obtain ⟨others, rfl⟩ := h.of_wide hwide
    obtain ⟨k, rfl⟩ : ∃ k, kept = k + 1 := ⟨kept - 1, by omega⟩
    rw [List.take_succ_cons, ← List.singleton_append,
      dropOpenEnd_append _ (List.cons_ne_nil _ _), List.singleton_append,
      readHalves_start htail, hwide]
    exact readHalves_dropOpenEnd_none Cell.proper_blank (by decide) _

end Kept

/-- **Opening cells puts blanks between whole characters and what is left of
the text behind them**, which consists of whole characters exactly if the cells
were not opened inside one. -/
theorem Spans.openAt (h : Paired cells) (hcol : col < cells.length) (count : Nat) :
    ∃ xs rest, Row.openAt col count cells =
        xs ++ (List.replicate (min count (cells.length - col)) .blank ++ rest) ∧
      xs.length = col ∧ Paired xs ∧
      (splits col count cells = false → Paired rest) ∧
      (splits col count cells = true →
        count < cells.length - col ∧ readHalves false rest = none) := by
  have hcell := List.getElem?_eq_getElem hcol
  obtain ⟨xs, ys, hfreed⟩ := h.freed hcell
  have hlen := hfreed.length_cells
  have hsplits : splits col count cells = ((cells[col].tail && col + count < cells.length) ||
      (cells[col].width == 2 && col + count + 1 < cells.length)) := by
    rw [splits, hcell, Option.any_some]
  rw [openAt_eq hcol, hfreed.eq, List.take_left' hfreed.length_eq, List.drop_left' hfreed.length_eq,
    hsplits]
  generalize cells[col] = c at hfreed
  rcases Nat.lt_or_ge count (cells.length - col) with hlt | hge
  · -- the cell stays in the row, with the first `kept` of the cells behind it
    obtain ⟨kept, hkept⟩ : ∃ kept, cells.length - col - count = kept + 1 :=
      ⟨cells.length - col - count - 1, by omega⟩
    have hstays : decide (col + count < cells.length) = true := decide_eq_true (by omega)
    rw [Nat.min_eq_left (Nat.le_of_lt hlt), hkept, List.take_succ_cons, ← List.append_assoc,
      dropOpenEnd_append _ (List.cons_ne_nil _ _), List.append_assoc, hstays, Bool.and_true]
    refine ⟨xs, _, rfl, hfreed.length_eq, hfreed.front, ?_, ?_⟩
    · intro hwhole
      obtain ⟨htail, hbeside⟩ := Bool.or_eq_false_iff.mp hwhole
      refine hfreed.paired_kept htail fun hwide => ?_
      rw [hwide, beq_self_eq_true, Bool.true_and, decide_eq_false_iff_not] at hbeside
      omega
    · intro hsplit
      refine ⟨hlt, hfreed.kept_read_eq_none fun htail => ?_⟩
      rw [htail, Bool.false_or, Bool.and_eq_true, beq_iff_eq, decide_eq_true_eq] at hsplit
      exact ⟨hsplit.1, by omega⟩
  · have hnone : ¬ col + count < cells.length := by omega
    have hnone' : ¬ col + count + 1 < cells.length := by omega
    rw [Nat.min_eq_right hge, Nat.sub_self, List.take_zero, List.append_nil,
      Spans.dropOpenEnd_eq (hfreed.front.append (paired_blanks _))]
    refine ⟨xs, [], by rw [List.append_nil], hfreed.length_eq, hfreed.front,
      fun _ => .nil false, fun hsplit => ?_⟩
    rw [decide_eq_false hnone, decide_eq_false hnone', Bool.and_false, Bool.and_false] at hsplit
    cases hsplit

theorem Spans.paired_openAt (h : Paired cells) (hcol : col < cells.length)
    (hwhole : splits col count cells = false) : Paired (Row.openAt col count cells) := by
  obtain ⟨xs, rest, heq, -, hx, hrest, -⟩ := h.openAt hcol count
  rw [heq]
  exact hx.append ((paired_blanks _).append (hrest hwhole))

theorem Spans.openAt_read_eq_none (h : Paired cells) (hcol : col < cells.length)
    (hsplit : splits col count cells = true) :
    readHalves false (Row.openAt col count cells) = none := by
  obtain ⟨xs, rest, heq, -, hx, -, hrest⟩ := h.openAt hcol count
  rw [heq, hx.read_append, (paired_blanks _).read_append]
  exact (hrest hsplit).2

/-- Writing over blank cells writes the character and leaves the rest alone. -/
theorem write_blanks (xs ys : List Cell) (ch : Char) (pen : Pen) (k : Nat) :
    write xs.length ch (k + 1 == 2) pen (xs ++ (List.replicate (k + 1) .blank ++ ys)) =
      xs ++ .written ch pen ::
        ((if k = 1 then [.wideTail pen] else List.replicate k .blank) ++ ys) := by
  have hclear : ∀ us zs, clearOtherHalf us.length (us ++ .blank :: zs) = us ++ .blank :: zs :=
    fun us zs => clearOtherHalf_single us zs rfl (Nat.zero_le 1)
  rw [List.replicate_succ, List.cons_append]
  by_cases hk : k = 1
  · subst hk
    have hnext : clearOtherHalf (xs.length + 1) (xs ++ .blank :: .blank :: ys) =
        xs ++ .blank :: .blank :: ys := by
      have hsingle := hclear (xs ++ [.blank]) ys
      simpa using hsingle
    have hset : (xs ++ .written ch pen :: .blank :: ys).set (xs.length + 1) (.wideTail pen) =
        xs ++ .written ch pen :: .wideTail pen :: ys := by
      simp
    show write xs.length ch true pen (xs ++ .blank :: .blank :: ys) = _
    rw [write, if_pos rfl, hclear, hnext, set_append_cons rfl, hset, if_pos rfl]
    rfl
  · have hnarrow : (k + 1 == 2) = false := beq_false_of_ne (by omega)
    rw [hnarrow, write, if_neg Bool.false_ne_true, hclear, set_append_cons rfl, if_neg hk]

/-- A character written into the cells opened for it leaves the row split. -/
theorem Spans.write_openAt (h : Paired cells) {ch : Char} {pen : Pen} {width : Nat}
    (hcol : col < cells.length) (hwidth : (Cell.written ch pen).width = width) (hpos : 0 < width)
    (hsplit : splits col width cells = true) :
    readHalves false (Row.write col ch (width == 2) pen (Row.openAt col width cells)) = none := by
  obtain ⟨xs, rest, heq, hlen, hx, -, hrest⟩ := h.openAt hcol width
  obtain ⟨hlt, hnone⟩ := hrest hsplit
  rw [Nat.min_eq_left (Nat.le_of_lt hlt)] at heq
  obtain ⟨k, rfl⟩ : ∃ k, width = k + 1 := ⟨width - 1, by omega⟩
  rw [heq, ← hlen, write_blanks, hx.read_append, readHalves_start rfl, hwidth]
  by_cases hk : k = 1
  · subst hk
    exact hnone
  · rw [beq_false_of_ne (by omega : k + 1 ≠ 2), if_neg hk, (paired_blanks k).read_append, hnone]

/-! ## Torn rows

A character of two columns that finds only the last column free blanks it. A
right half that stands there loses its left half. -/

/-- A row whose last character has lost its right half to a blank. -/
structure Torn (rest : List Cell) (head : Cell) : Prop where
  front : Paired rest
  head_tail : head.tail = false
  head_width : head.width = 2

theorem Spans.set_last (h : Paired cells) (hcol : col + 1 = cells.length)
    (hc : cells[col]? = some c) (htail : c.tail = false) : Paired (cells.set col .blank) := by
  obtain ⟨xs, ys, rfl, rfl⟩ := eq_append_of_getElem? hc
  obtain rfl : ys = [] := by simpa using hcol
  obtain ⟨p, hx, hlast⟩ := h.of_append
  obtain ⟨-, hp, -⟩ := hlast.of_cons
  rw [← hp, htail] at hx
  rw [set_append_cons rfl]
  exact hx.append paired_blank

theorem Spans.torn_set_last (h : Paired cells) (hcol : col + 1 = cells.length)
    (hc : cells[col]? = some c) (htail : c.tail = true) :
    ∃ rest head, cells.set col .blank = rest ++ [head, .blank] ∧ Torn rest head := by
  obtain ⟨xs, ys, rfl, rfl⟩ := eq_append_of_getElem? hc
  obtain rfl : ys = [] := by simpa using hcol
  obtain ⟨p, hx, hlast⟩ := h.of_append
  obtain ⟨-, hp, -⟩ := hlast.of_cons
  rw [← hp, htail] at hx
  obtain ⟨rest, head, rfl, hrest, hwidth⟩ := hx.last_of_awaiting
  refine ⟨rest, head, ?_, hrest, ?_, hwidth⟩
  · rw [set_append_cons rfl, List.append_assoc]
    rfl
  · obtain ⟨q, hq, hhead⟩ := hx.of_append
    cases hq.read.symm.trans hrest.read
    exact hhead.first_not_tail

namespace Torn

variable {rest : List Cell} {head : Cell}

theorem read_eq_none (h : Torn rest head) : readHalves false (rest ++ [head, .blank]) = none := by
  rw [h.front.read_append, readHalves_start h.head_tail, h.head_width]
  rfl

/-- What is opened at the start pushes the torn character out. -/
theorem openAt_two (h : Torn rest head) :
    Row.openAt 0 2 (rest ++ [head, .blank]) = Row.openAt 0 2 (rest ++ [.blank, .blank]) := by
  have hlen : ∀ c, (rest ++ [c, Cell.blank]).length = rest.length + 2 := fun c => by
    rw [List.length_append]
    rfl
  have hpushed : ∀ c, (clearOtherHalf 0 (rest ++ [c, .blank])).take rest.length =
      (clearOtherHalf 0 rest).take rest.length := by
    intro c
    cases hrest : rest with
    | nil => rfl
    | cons d others =>
      rw [← hrest, clearOtherHalf_append_left h.front (by rw [hrest]; exact Nat.succ_pos _),
        List.take_append_of_le_length (Nat.le_of_eq (length_clearOtherHalf _ _).symm)]
  rw [openAt_eq (by rw [hlen]; omega), openAt_eq (by rw [hlen]; omega), hlen, hlen]
  simp only [Nat.sub_zero, List.take_zero, List.drop_zero,
    Nat.min_eq_left (Nat.le_add_left 2 rest.length), Nat.add_sub_cancel, hpushed]

theorem splits_two (rest : List Cell) (head : Cell) :
    splits 0 2 (rest ++ [head, .blank]) = splits 0 2 (rest ++ [.blank, .blank]) := by
  cases rest with
  | nil => simp [splits]
  | cons c others => simp [splits]

theorem paired_blanked (h : Torn rest head) : Paired (rest ++ [.blank, .blank]) :=
  h.front.append (paired_blanks 2)

/-- A character written at the start covers the torn one if the row is no wider
than three columns. -/
theorem paired_write (h : Torn rest head) {ch : Char} {pen : Pen}
    (hwidth : (Cell.written ch pen).width = 2) (hlen : rest.length < 2) :
    Paired (Row.write 0 ch true pen (rest ++ [head, .blank])) := by
  have hproper : (Cell.written ch pen).Proper :=
    { bare := fun ht => absurd ht Bool.false_ne_true, narrow := Nat.le_of_eq hwidth }
  have hwritten : Paired [.written ch pen, .wideTail pen] :=
    paired_two hproper rfl hwidth (Cell.proper_wideTail pen) rfl
  have hhead : ∀ xs, clearOtherHalf xs.length (xs ++ [head, .blank]) = xs ++ [head, .blank] :=
    fun xs => clearOtherHalf_head h.head_tail h.head_width
  -- two columns or three: the left half is under the character or its right half
  rcases rest with _ | ⟨c, _ | ⟨d, others⟩⟩
  · have hfirst := hhead []
    have hblank : clearOtherHalf 1 [head, .blank] = [head, .blank] :=
      clearOtherHalf_single [head] [] rfl (Nat.zero_le 1)
    rw [List.nil_append, List.length_nil] at hfirst
    rw [Row.write, if_pos rfl, List.nil_append, hfirst, hblank]
    exact hwritten
  · obtain ⟨hc, htail, hend⟩ := h.front.of_cons
    have hnarrow := hc.narrow
    have hwide : c.width ≠ 2 := beq_eq_false_iff_ne.mp hend.eq_of_nil
    have hfirst : clearOtherHalf 0 [c, head, .blank] = [c, head, .blank] :=
      clearOtherHalf_single [] [head, .blank] htail (by omega)
    have hsecond : clearOtherHalf 1 [c, head, .blank] = [c, head, .blank] := hhead [c]
    rw [Row.write, if_pos rfl, List.singleton_append, hfirst, hsecond]
    exact hwritten.append paired_blank
  · simp only [List.length_cons] at hlen
    omega

/-- In a wider row the torn character stays. -/
theorem write_read_eq_none (h : Torn rest head) {ch : Char} {pen : Pen}
    (hwidth : (Cell.written ch pen).width = 2) (hlen : 2 ≤ rest.length) :
    readHalves false (Row.write 0 ch true pen (rest ++ [head, .blank])) = none := by
  have hpos : 0 < rest.length := by omega
  obtain ⟨us, vs, hfreed⟩ := h.front.freed (List.getElem?_eq_getElem hpos)
  obtain rfl : us = [] := List.length_eq_zero_iff.mp hfreed.length_eq
  have hvs := hfreed.length_cells
  have hwrite : Row.write 0 ch true pen (rest ++ [head, .blank]) =
      Row.write 0 ch true pen rest ++ [head, .blank] := by
    -- the characters of `rest` are whole, so freeing a cell of it touches nothing behind
    have hnext : clearOtherHalf 1 ((clearOtherHalf 0 rest) ++ [head, .blank]) =
        clearOtherHalf 1 (clearOtherHalf 0 rest) ++ [head, .blank] := by
      have hclean : ∀ c, (vs ++ [head, .blank])[0]? = some c → c.tail = false := by
        intro c hc
        rw [List.getElem?_append_left (by omega)] at hc
        exact hfreed.back.first_clean hc
      have hall := clearOtherHalf_append_right [rest[0]] hclean 0
      have hin := clearOtherHalf_append_right [rest[0]] (fun _ => hfreed.back.first_clean) 0
      rw [clearOtherHalf_append_left hfreed.back (by omega)] at hall
      rw [hfreed.eq]
      exact hall.trans (congrArg (· ++ [head, .blank]) hin.symm)
    rw [Row.write, Row.write, if_pos rfl, if_pos rfl, clearOtherHalf_append_left h.front hpos,
      hnext, List.set_append_left _ _ (by simp; omega), List.set_append_left _ _ (by simp; omega)]
  have hpaired : Paired (Row.write 0 ch true pen rest) :=
    h.front.write hwidth (by omega) (by omega) (by omega)
  rw [hwrite, hpaired.read_append, readHalves_start h.head_tail, h.head_width]
  rfl

end Torn

/-! ## Putting a character -/

/-- Writes a character of `width` columns at `col`, into cells opened for it if
asked. -/
def put (insert : Bool) (col : Nat) (ch : Char) (width : Nat) (pen : Pen) (cells : List Cell) :
    List Cell :=
  write col ch (width == 2) pen (if insert then openAt col width cells else cells)

@[simp] theorem length_put (insert : Bool) (col : Nat) (ch : Char) (width : Nat) (pen : Pen)
    (cells : List Cell) : (put insert col ch width pen cells).length = cells.length := by
  cases insert <;> simp [put]

theorem length_opened (insert : Bool) (col width : Nat) (cells : List Cell) :
    (if insert then openAt col width cells else cells).length = cells.length := by
  cases insert with
  | false => rfl
  | true => exact length_openAt col width cells

/-- The character is in its cell, whatever it was written over. -/
theorem getElem?_put {insert : Bool} {cells : List Cell} {col : Nat} (h : col < cells.length)
    (ch : Char) (width : Nat) (pen : Pen) :
    (put insert col ch width pen cells)[col]? = some (.written ch pen) := by
  have hlen := length_opened insert col width cells
  rw [put, write]
  split
  · rw [List.getElem?_set_ne (Nat.succ_ne_self col),
      List.getElem?_set_self (by simpa [hlen] using h)]
  · rw [List.getElem?_set_self (by simpa [hlen] using h)]

/-- The right half of a character of two columns is in the next one. -/
theorem getElem?_put_two {insert : Bool} {cells : List Cell} {col : Nat}
    (h : col + 1 < cells.length) (ch : Char) (pen : Pen) :
    (put insert col ch 2 pen cells)[col + 1]? = some (.wideTail pen) := by
  have hlen := length_opened insert col 2 cells
  rw [put, write, beq_self_eq_true, if_pos rfl, List.getElem?_set_self (by simpa [hlen] using h)]

section Put

variable {insert : Bool} {ch : Char} {pen : Pen} {width : Nat} {rest : List Cell} {head : Cell}

/-- The row that the character is written to. -/
theorem Spans.paired_opened (h : Paired cells) (hcol : col < cells.length)
    (hwhole : (insert && splits col count cells) = false) :
    Paired (if insert then Row.openAt col count cells else cells) := by
  cases insert with
  | false => exact h
  | true => exact h.paired_openAt hcol hwhole

/-- **A character is put between whole characters**, unless the cells for it are
opened inside one. -/
theorem Spans.put (h : Paired cells) (hwidth : (Cell.written ch pen).width = width)
    (hpos : 0 < width) (hle : width ≤ 2) (hroom : col + width ≤ cells.length)
    (hwhole : (insert && splits col width cells) = false) :
    Paired (put insert col ch width pen cells) := by
  have hopened := h.paired_opened (by omega) hwhole
  refine hopened.write hwidth hpos hle ?_
  cases insert with
  | false => exact hroom
  | true => rwa [if_pos rfl, length_openAt]

theorem Spans.put_read_eq_none (h : Paired cells) (hcol : col < cells.length)
    (hwidth : (Cell.written ch pen).width = width) (hpos : 0 < width)
    (hsplit : (insert && splits col width cells) = true) :
    readHalves false (Row.put insert col ch width pen cells) = none := by
  obtain ⟨rfl, hsplit⟩ := Bool.and_eq_true_iff.mp hsplit
  exact h.write_openAt hcol hwidth hpos hsplit

/-- The one character of three columns is given a single cell, and a snapshot
shows two columns for it. -/
theorem Spans.put_three (h : Paired cells) (hcol : col < cells.length)
    (hwidth : (Cell.written ch pen).width = 3) :
    readHalves false (Row.put insert col ch 3 pen cells) = none ∨
      ((Row.put insert col ch 3 pen cells).map shownColumns).sum ≠ cells.length := by
  cases hsplit : insert && splits col 3 cells with
  | true => exact .inl (h.put_read_eq_none hcol hwidth (by decide) hsplit)
  | false =>
    right
    have hopened := h.paired_opened hcol hsplit
    have hlen : (if insert then Row.openAt col 3 cells else cells).length = cells.length := by
      split
      · exact length_openAt _ _ _
      · rfl
    obtain ⟨xs, ys, heq, -, hx, hy⟩ := hopened.write_narrow (hlen ▸ hcol) ch pen
    have hput : Row.put insert col ch 3 pen cells = xs ++ .written ch pen :: ys := heq
    have hcount := length_put insert col ch 3 pen cells
    have hshown : shownColumns (.written ch pen) = 2 := by
      rw [shownColumns_of_not_tail rfl, hwidth]
      rfl
    rw [hput, List.length_append, List.length_cons] at hcount
    rw [hput, List.map_append, List.map_cons, List.sum_append, List.sum_cons,
      sum_shownColumns_eq hx, sum_shownColumns_eq hy, hshown]
    omega

/-- **A torn row is whole again** if the character that was to be put there
covers the torn one or pushes it out. -/
theorem Torn.paired_put (h : Torn rest head) (hwidth : (Cell.written ch pen).width = 2)
    (hwhole : (insert && splits 0 2 (rest ++ [head, .blank])) = false)
    (hlen : insert = true ∨ rest.length < 2) :
    Paired (Row.put insert 0 ch 2 pen (rest ++ [head, .blank])) := by
  cases insert with
  | false => exact h.paired_write hwidth (hlen.resolve_left Bool.false_ne_true)
  | true =>
    rw [Bool.true_and, splits_two] at hwhole
    have hput : Paired (Row.put true 0 ch 2 pen (rest ++ [.blank, .blank])) :=
      h.paired_blanked.put hwidth Nat.two_pos (Nat.le_refl 2) (by simp) hwhole
    rw [Row.put, if_pos rfl] at hput ⊢
    rwa [h.openAt_two]

theorem Torn.put_read_eq_none (h : Torn rest head) (hwidth : (Cell.written ch pen).width = 2)
    (hsplit : insert = false ∧ 2 ≤ rest.length ∨
      (insert && splits 0 2 (rest ++ [head, .blank])) = true) :
    readHalves false (Row.put insert 0 ch 2 pen (rest ++ [head, .blank])) = none := by
  rcases hsplit with ⟨rfl, hlen⟩ | hsplit
  · exact h.write_read_eq_none hwidth hlen
  · obtain ⟨rfl, hsplit⟩ := Bool.and_eq_true_iff.mp hsplit
    rw [splits_two] at hsplit
    have hput := h.paired_blanked.write_openAt (by simp) hwidth (by decide) hsplit
    rw [Row.put, if_pos rfl, h.openAt_two]
    exact hput

end Put

end Teletype.Row

import Teletype.Proofs.Row.Paired

/-!
# Edits and the halves of characters

What each row operation does to a row of whole characters. A cell about to
change is freed from the character that it is a half of (`Freed`), which leaves
whole characters on both of its sides; the operations differ in what they put
together from these parts. Writing, erasing, cutting or filling a row, taking
cells out and combining keep characters whole.
-/

namespace Teletype.Row

variable {q : Bool} {c d : Cell} {cells xs ys zs : List Cell} {col count first last : Nat}

/-! ## Freeing a cell -/

theorem eq_append_of_getElem? (h : cells[col]? = some c) :
    ∃ xs ys, cells = xs ++ c :: ys ∧ xs.length = col := by
  obtain ⟨hlt, rfl⟩ := List.getElem?_eq_some_iff.mp h
  refine ⟨cells.take col, cells.drop (col + 1), ?_, List.length_take_of_le (Nat.le_of_lt hlt)⟩
  rw [List.getElem_cons_drop, List.take_append_drop]

theorem set_append_cons (hx : xs.length = col) (ys : List Cell) (c d : Cell) :
    (xs ++ c :: ys).set col d = xs ++ d :: ys := by
  subst hx
  simp

theorem clearOtherHalf_single (xs ys : List Cell) (ht : c.tail = false) (hw : c.width ≤ 1) :
    clearOtherHalf xs.length (xs ++ c :: ys) = xs ++ c :: ys := by
  have hnot : ¬ 1 < c.width := Nat.not_lt.mpr hw
  simp [clearOtherHalf, ht, hnot]

theorem clearOtherHalf_tail (ht : c.tail = true) :
    clearOtherHalf (xs.length + 1) (xs ++ d :: c :: ys) = xs ++ .blank :: c :: ys := by
  simp [clearOtherHalf, ht]

theorem clearOtherHalf_head (ht : c.tail = false) (hw : c.width = 2) :
    clearOtherHalf xs.length (xs ++ c :: d :: ys) = xs ++ c :: .blank :: ys := by
  simp [clearOtherHalf, ht, hw]

/-- The row with the cell at `col` freed: `xs` in front of it and `ys` behind
it are whole characters, and where its other half was there is a blank. -/
structure Freed (col : Nat) (cells : List Cell) (c : Cell) (xs ys : List Cell) : Prop where
  eq : clearOtherHalf col cells = xs ++ c :: ys
  length_eq : xs.length = col
  front : Paired xs
  back : Paired ys
  proper : c.Proper
  of_tail : c.tail = true → ∃ rest, xs = rest ++ [.blank]
  of_wide : c.width = 2 → ∃ rest, ys = .blank :: rest

/-- **Clearing the other half frees the cell.** -/
theorem Spans.freed (h : Paired cells) (hc : cells[col]? = some c) :
    ∃ xs ys, Freed col cells c xs ys := by
  obtain ⟨xs, ys, rfl, rfl⟩ := eq_append_of_getElem? hc
  obtain ⟨p, hx, hcy⟩ := h.of_append
  obtain ⟨hproper, htail, hy⟩ := hcy.of_cons
  cases p with
  | true =>
    -- the cell is a right half, and the left half in front of it is blanked
    obtain ⟨rest, head, rfl, hrest, -⟩ := hx.last_of_awaiting
    have hwidth := hproper.width_eq_zero htail
    rw [hwidth] at hy
    refine ⟨rest ++ [.blank], ys, ?_, ?_, hrest.append paired_blank, hy, hproper,
      fun _ => ⟨rest, rfl⟩, fun h2 => ?_⟩
    · rw [List.append_assoc, List.append_assoc, List.length_append]
      exact clearOtherHalf_tail htail
    · rw [List.length_append, List.length_append]
      rfl
    · rw [hwidth] at h2
      cases h2
  | false =>
    have hfree : c.tail = true → ∃ rest, xs = rest ++ [.blank] := fun h1 => by
      rw [htail] at h1
      cases h1
    by_cases hwide : c.width = 2
    · rw [hwide] at hy
      obtain ⟨t, rest, rfl, -, hrest⟩ := hy.next_of_awaited
      exact ⟨xs, .blank :: rest, clearOtherHalf_head htail hwide, rfl, hx,
        paired_blank.append hrest, hproper, hfree, fun _ => ⟨rest, rfl⟩⟩
    · have hnarrow := hproper.narrow
      rw [beq_false_of_ne hwide] at hy
      exact ⟨xs, ys, clearOtherHalf_single _ _ htail (by omega), rfl, hx, hy, hproper, hfree,
        fun h2 => absurd h2 hwide⟩

namespace Freed

theorem length_cells (h : Freed col cells c xs ys) : cells.length = col + (ys.length + 1) := by
  rw [← length_clearOtherHalf col cells, h.eq, List.length_append, h.length_eq, List.length_cons]

/-- Freeing a free cell changes nothing. -/
theorem again (h : Freed col cells c xs ys) :
    clearOtherHalf col (clearOtherHalf col cells) = clearOtherHalf col cells := by
  have hnarrow := h.proper.narrow
  rw [h.eq, ← h.length_eq]
  cases htail : c.tail with
  | true =>
    obtain ⟨rest, rfl⟩ := h.of_tail htail
    rw [List.append_assoc, List.length_append]
    exact clearOtherHalf_tail htail
  | false =>
    by_cases hwide : c.width = 2
    · obtain ⟨rest, rfl⟩ := h.of_wide hwide
      exact clearOtherHalf_head htail hwide
    · exact clearOtherHalf_single _ _ htail (by omega)

end Freed

theorem Spans.first_clean (h : Spans false cells q) (hc : cells[0]? = some c) :
    c.tail = false := by
  cases cells with
  | nil => cases hc
  | cons d rest =>
    obtain rfl : d = c := Option.some.inj hc
    exact h.first_not_tail

/-- Freeing a cell behind others touches none of them, unless it is a right half
that stands right behind them. -/
theorem clearOtherHalf_append_right (xs : List Cell)
    (h : ∀ c, ys[0]? = some c → c.tail = false) (i : Nat) :
    clearOtherHalf (xs.length + i) (xs ++ ys) = xs ++ clearOtherHalf i ys := by
  unfold clearOtherHalf
  rw [List.getElem?_append_right (Nat.le_add_right _ _), Nat.add_sub_cancel_left]
  cases hc : ys[i]? with
  | none => rfl
  | some c =>
    dsimp only
    cases i with
    | zero =>
      rw [h c hc, Nat.add_zero]
      simp only [Bool.false_and, Bool.false_eq_true, if_false]
      split
      · rw [List.set_append_right _ _ (by omega), Nat.add_sub_cancel_left]
      · rfl
    | succ i =>
      rw [decide_eq_true (by omega : 0 < xs.length + (i + 1)), decide_eq_true (Nat.succ_pos i)]
      split
      · rw [List.set_append_right _ _ (by omega)]
        congr 2
        omega
      · split
        · rw [List.set_append_right _ _ (by omega)]
          congr 2
          omega
        · rfl

/-- Freeing a cell among whole characters, whatever stands behind them. -/
theorem clearOtherHalf_append_left (h : Paired xs) (hcol : col < xs.length) (ys : List Cell) :
    clearOtherHalf col (xs ++ ys) = clearOtherHalf col xs ++ ys := by
  obtain ⟨us, vs, hcut, hlen⟩ := eq_append_of_getElem? (List.getElem?_eq_getElem hcol)
  have hwide : 1 < xs[col].width → col + 1 < xs.length := by
    intro hw
    rw [hcut] at h
    obtain ⟨p, -, hcv⟩ := h.of_append
    obtain ⟨hproper, -, hv⟩ := hcv.of_cons
    have hnarrow := hproper.narrow
    rw [show xs[col].width = 2 by omega] at hv
    obtain ⟨t, rest, rfl, -, -⟩ := hv.next_of_awaited
    rw [hcut, List.length_append, hlen]
    simp only [List.length_cons]
    omega
  unfold clearOtherHalf
  rw [List.getElem?_append_left hcol, List.getElem?_eq_getElem hcol]
  dsimp only
  split
  · rw [List.set_append_left _ _ (by omega)]
  · split
    · next hw => rw [List.set_append_left _ _ (hwide hw)]
    · rfl

/-! ## Writing -/

/-- A character of one column, or one that takes none of the cells beside it. -/
theorem Spans.write_narrow (h : Paired cells) (hcol : col < cells.length) (ch : Char) (pen : Pen) :
    ∃ xs ys, write col ch false pen cells = xs ++ .written ch pen :: ys ∧ xs.length = col ∧
      Paired xs ∧ Paired ys := by
  obtain ⟨xs, ys, hfreed⟩ := h.freed (List.getElem?_eq_getElem hcol)
  refine ⟨xs, ys, ?_, hfreed.length_eq, hfreed.front, hfreed.back⟩
  unfold write
  rw [if_neg Bool.false_ne_true, hfreed.eq, set_append_cons hfreed.length_eq]

theorem Spans.write_wide (h : Paired cells) (hcol : col + 1 < cells.length) (ch : Char)
    (pen : Pen) :
    ∃ xs ys, write col ch true pen cells = xs ++ .written ch pen :: .wideTail pen :: ys ∧
      xs.length = col ∧ Paired xs ∧ Paired ys := by
  obtain ⟨xs, ys, hfreed⟩ := h.freed (List.getElem?_eq_getElem (Nat.lt_of_succ_lt hcol))
  have hlen := hfreed.length_cells
  have hpos : 0 < ys.length := by omega
  obtain ⟨us, vs, hnext⟩ := hfreed.back.freed (List.getElem?_eq_getElem hpos)
  obtain rfl : us = [] := List.length_eq_zero_iff.mp hnext.length_eq
  refine ⟨xs, vs, ?_, hfreed.length_eq, hfreed.front, hnext.back⟩
  -- the second cell is not a half of the first any more, and is freed by itself
  have hclear : clearOtherHalf (col + 1) (xs ++ cells[col] :: ys) =
      xs ++ cells[col] :: ys[0] :: vs := by
    have hright := clearOtherHalf_append_right (xs ++ [cells[col]])
      (fun _ => hfreed.back.first_clean) 0
    rw [List.length_append, hfreed.length_eq, hnext.eq] at hright
    simpa using hright
  unfold write
  have hlast : (xs ++ [Cell.written ch pen]).length = col + 1 := by
    rw [List.length_append, hfreed.length_eq]
    rfl
  have hset := set_append_cons hlast vs ys[0] (.wideTail pen)
  rw [List.append_assoc, List.append_assoc] at hset
  rw [if_pos rfl, hfreed.eq, hclear, set_append_cons hfreed.length_eq]
  exact hset

/-- **Writing keeps characters whole.** -/
theorem Spans.write (h : Paired cells) {ch : Char} {pen : Pen} {width : Nat}
    (hwidth : (Cell.written ch pen).width = width) (hpos : 0 < width) (hle : width ≤ 2)
    (hroom : col + width ≤ cells.length) : Paired (write col ch (width == 2) pen cells) := by
  have hproper : (Cell.written ch pen).Proper :=
    { bare := fun ht => absurd ht Bool.false_ne_true, narrow := by omega }
  by_cases hwide : width = 2
  · rw [hwide, beq_self_eq_true]
    obtain ⟨xs, ys, heq, -, hx, hy⟩ := h.write_wide (by omega : col + 1 < cells.length) ch pen
    rw [heq]
    have hboth := paired_two hproper rfl (hwidth.trans hwide) (Cell.proper_wideTail pen) rfl
    exact hx.append (hboth.append hy)
  · rw [beq_false_of_ne hwide]
    obtain ⟨xs, ys, heq, -, hx, hy⟩ := h.write_narrow (by omega : col < cells.length) ch pen
    rw [heq]
    exact hx.append ((paired_single hproper rfl (by omega)).append hy)

/-! ## Erasing -/

theorem fill_append {us : List Cell} (hx : xs.length = first) (hy : (xs ++ ys).length = last)
    (c : Cell) : fill first last c (xs ++ (ys ++ us)) =
      xs ++ (List.replicate ys.length c ++ us) := by
  have hlen : min last (xs ++ (ys ++ us)).length - first = ys.length := by
    simp only [List.length_append] at hy ⊢
    omega
  have hmax : max first last = last := by
    rw [List.length_append] at hy
    omega
  rw [fill, hlen, hmax, List.take_left' hx, ← List.append_assoc xs ys us, List.drop_left' hy]

/-- **Erasing keeps characters whole.** -/
theorem Spans.erase (h : Paired cells) (hfirst : first < last) (hlast : last ≤ cells.length)
    (bg : Color) : Paired (erase first last bg cells) := by
  obtain ⟨xs, ys, hfreed⟩ := h.freed (List.getElem?_eq_getElem (Nat.lt_of_lt_of_le hfirst hlast))
  have hlen := hfreed.length_cells
  have herased : ∀ n, Paired (List.replicate n (.erased bg)) := fun n =>
    paired_replicate (Cell.proper_erased bg) rfl (Nat.succ_ne_zero 1).symm n
  rcases Nat.lt_or_ge (first + 1) last with hlt | hge
  · -- the last cell stands behind the first one and is freed by itself
    have hi : last - 1 - (first + 1) < ys.length := by omega
    obtain ⟨us, vs, hnext⟩ := hfreed.back.freed (List.getElem?_eq_getElem hi)
    have hclear : clearOtherHalf (last - 1) (clearOtherHalf first cells) =
        xs ++ ((cells[first] :: (us ++ [ys[last - 1 - (first + 1)]])) ++ vs) := by
      have hright := clearOtherHalf_append_right (xs ++ [cells[first]])
        (fun _ => hfreed.back.first_clean) (last - 1 - (first + 1))
      rw [List.length_append, hfreed.length_eq, hnext.eq, List.length_singleton,
        show first + 1 + (last - 1 - (first + 1)) = last - 1 by omega] at hright
      rw [hfreed.eq]
      simpa using hright
    rw [Row.erase, hclear, fill_append hfreed.length_eq ?_]
    · exact hfreed.front.append ((herased _).append hnext.back)
    · have hx := hfreed.length_eq
      have hu := hnext.length_eq
      simp only [List.length_append, List.length_cons, List.length_nil]
      omega
  · obtain rfl : last = first + 1 := by omega
    rw [Row.erase, Nat.add_sub_cancel, hfreed.again, hfreed.eq]
    have hlast : (xs ++ [cells[first]]).length = first + 1 := by
      rw [List.length_append, hfreed.length_eq]
      rfl
    rw [← List.singleton_append, fill_append hfreed.length_eq hlast]
    exact hfreed.front.append ((herased _).append hfreed.back)

/-! ## The end of a row -/

/-- Blanks the last cell if it is a character that has lost its right half. -/
def dropOpenEnd (cells : List Cell) : List Cell :=
  if cells.getLast?.any (1 < ·.width) then cells.set (cells.length - 1) .blank else cells

theorem dropOpenEnd_concat (xs : List Cell) (c : Cell) :
    dropOpenEnd (xs ++ [c]) = xs ++ [if 1 < c.width then .blank else c] := by
  unfold dropOpenEnd
  rw [List.getLast?_concat, List.length_append, List.length_singleton, Nat.add_sub_cancel,
    set_append_cons rfl]
  by_cases hw : 1 < c.width
  · simp [hw]
  · simp [hw]

theorem dropOpenEnd_append (xs : List Cell) (h : ys ≠ []) :
    dropOpenEnd (xs ++ ys) = xs ++ dropOpenEnd ys := by
  obtain ⟨zs, c, rfl⟩ : ∃ zs c, ys = zs ++ [c] :=
    ⟨ys.dropLast, ys.getLast h, (List.dropLast_concat_getLast h).symm⟩
  rw [← List.append_assoc, dropOpenEnd_concat, dropOpenEnd_concat, List.append_assoc]

/-- Whole characters have no open end. -/
theorem Spans.dropOpenEnd_eq {p : Bool} (h : Spans p cells false) : dropOpenEnd cells = cells := by
  rcases List.eq_nil_or_concat cells with rfl | ⟨rest, c, rfl⟩
  · rfl
  · rw [List.concat_eq_append] at h ⊢
    obtain ⟨q, -, hc⟩ := h.of_append
    obtain ⟨hproper, -, hend⟩ := hc.of_cons
    have hwidth : c.width ≠ 2 := by
      intro hw
      rw [hw] at hend
      cases hend.eq_of_nil
    have hnarrow := hproper.narrow
    rw [dropOpenEnd_concat, if_neg (by omega)]

/-- **Without its open end a row consists of whole characters.** -/
theorem Spans.dropOpenEnd (h : Spans false cells q) : Paired (dropOpenEnd cells) := by
  cases q with
  | false => rwa [h.dropOpenEnd_eq]
  | true =>
    obtain ⟨rest, head, rfl, hrest, hwidth⟩ := h.last_of_awaiting
    rw [dropOpenEnd_concat, if_pos (by omega)]
    exact hrest.append paired_blank

/-- Dropping an open end leaves the kind of the first cell. -/
theorem exists_dropOpenEnd_cons (hc : c.Proper) (rest : List Cell) :
    ∃ d others, Row.dropOpenEnd (c :: rest) = d :: others ∧ d.tail = c.tail := by
  cases rest with
  | nil =>
    refine ⟨_, [], dropOpenEnd_concat [] c, ?_⟩
    split
    · next hw =>
      cases htail : c.tail with
      | false => rfl
      | true =>
        rw [hc.width_eq_zero htail] at hw
        omega
    · rfl
  | cons next rest =>
    exact ⟨c, _, dropOpenEnd_append [c] (List.cons_ne_nil next rest), rfl⟩

theorem readHalves_dropOpenEnd_none {p : Bool} (hc : c.Proper) (hp : c.tail ≠ p)
    (rest : List Cell) : readHalves p (Row.dropOpenEnd (c :: rest)) = none := by
  obtain ⟨d, others, heq, htail⟩ := exists_dropOpenEnd_cons hc rest
  rw [heq, readHalves_cons, htail, if_neg hp]

theorem cells_resize (l : Line) (cols : Nat) :
    (l.resize cols).cells = Row.dropOpenEnd (Line.fit cols l.cells) := by
  simp only [Line.resize, Row.dropOpenEnd, Line.length_fit]
  split <;> rfl

/-- **Cutting or filling a row keeps characters whole.** -/
theorem Spans.resize {l : Line} (h : Paired l.cells) (cols : Nat) :
    Paired (l.resize cols).cells := by
  rw [cells_resize]
  obtain ⟨q, hq⟩ := h.take cols
  rcases Nat.le_total cols l.cells.length with hle | hle
  · rw [Line.fit, Nat.sub_eq_zero_of_le hle, List.replicate_zero, List.append_nil]
    exact hq.dropOpenEnd
  · refine Spans.dropOpenEnd (q := false) ?_
    rw [Line.fit, List.take_of_length_le hle]
    exact h.append (paired_blanks _)

/-! ## Taking cells out -/

/-- A right half that has come to stand behind whole characters is blanked. -/
theorem paired_dropOpenStart {p : Bool} (hx : Paired xs) (hz : Spans p zs false) :
    Paired (if (xs ++ zs)[xs.length]?.any (·.tail) then (xs ++ zs).set xs.length .blank
      else xs ++ zs) := by
  rw [List.getElem?_append_right (Nat.le_refl _), Nat.sub_self]
  cases p with
  | false =>
    rw [if_neg]
    · exact hx.append hz
    · cases zs with
      | nil => decide
      | cons c rest =>
        have htail := hz.first_not_tail
        simp [htail]
  | true =>
    obtain ⟨t, rest, rfl, htail, hrest⟩ := hz.next_of_awaited
    rw [if_pos (by simpa using htail), set_append_cons rfl]
    exact hx.append (paired_blank.append hrest)

/-- **Taking cells out keeps characters whole**, unless none is taken out at
the left half of one. -/
theorem Spans.closeAt (h : Paired cells) (hc : cells[col]? = some c)
    (hsome : count = 0 → c.width ≠ 2) : Paired (closeAt col count cells) := by
  obtain ⟨xs, ys, hfreed⟩ := h.freed hc
  have hlen := hfreed.length_cells
  have hrest : ∃ p, Spans p ((c :: ys).drop (min count (cells.length - col)) ++
      List.replicate (min count (cells.length - col)) .blank) false := by
    rcases Nat.eq_zero_or_pos count with rfl | hpos
    · have hbare : Spans c.tail (c :: ys) false := by
        refine Spans.cons hfreed.proper ?_
        rw [beq_false_of_ne (hsome rfl)]
        exact hfreed.back
      refine ⟨c.tail, ?_⟩
      rw [Nat.zero_min, List.drop_zero, List.replicate_zero, List.append_nil]
      exact hbare
    · obtain ⟨k, hk⟩ : ∃ k, min count (cells.length - col) = k + 1 :=
        ⟨min count (cells.length - col) - 1, by omega⟩
      obtain ⟨p, hp⟩ := hfreed.back.drop k
      refine ⟨p, ?_⟩
      rw [hk, List.drop_succ_cons]
      exact hp.append (paired_blanks _)
  obtain ⟨p, hp⟩ := hrest
  have hpaired := paired_dropOpenStart hfreed.front hp
  unfold Row.closeAt
  simp only [hfreed.eq, ← List.drop_drop, List.take_left' hfreed.length_eq,
    List.drop_left' hfreed.length_eq]
  rw [← hfreed.eq, length_clearOtherHalf]
  rwa [hfreed.length_eq] at hpaired

/-- Taking no cell out at the left half of a character blanks its right half
all the same. -/
theorem Spans.closeAt_zero (h : Paired cells) (hc : cells[col]? = some c) (hwide : c.width = 2) :
    readHalves false (Row.closeAt col 0 cells) = none := by
  obtain ⟨xs, ys, hfreed⟩ := h.freed hc
  obtain ⟨rest, rfl⟩ := hfreed.of_wide hwide
  have htail : c.tail = false := by
    cases htail : c.tail with
    | false => rfl
    | true =>
      rw [hfreed.proper.width_eq_zero htail] at hwide
      cases hwide
  have hcell : (xs ++ c :: .blank :: rest)[col]? = some c := by
    rw [List.getElem?_append_right (Nat.le_of_eq hfreed.length_eq), hfreed.length_eq, Nat.sub_self]
    rfl
  unfold Row.closeAt
  simp only [hfreed.eq, Nat.zero_min, Nat.add_zero, List.replicate_zero, List.append_nil,
    List.take_append_drop, hcell, Option.any_some, htail, Bool.false_eq_true, if_false]
  rw [hfreed.front.read_append, readHalves_start htail, hwide]
  rfl

/-! ## Combining -/

/-- A mark that leaves the columns of its character alone keeps characters
whole: a right half, having no content, takes none. -/
theorem Spans.modify_combine (h : Paired cells) {mark : Char}
    (hwidth : ∀ c, cells[col]? = some c → (c.combine mark).width = c.width) :
    Paired (cells.modify col (·.combine mark)) := by
  have htail : ∀ c : Cell, (c.combine mark).tail = c.tail := fun c => by
    unfold Cell.combine
    split <;> rfl
  have hcell : ∀ c, cells[col]? = some c → (c.combine mark).Proper := by
    intro c hc
    obtain ⟨hbare, hnarrow⟩ := h.proper c (List.mem_of_getElem? hc)
    refine ⟨fun ht => ?_, ?_⟩
    · rw [htail] at ht
      unfold Cell.combine
      rw [hbare ht]
      exact hbare ht
    · rw [hwidth c hc]
      exact hnarrow
  refine ⟨?_, fun c hc => ?_⟩
  · refine Eq.trans (readHalves_congr ?_) h.read
    refine List.ext_getElem? fun i => ?_
    rw [List.getElem?_map, List.getElem?_map, List.getElem?_modify]
    cases hi : cells[i]? with
    | none => rfl
    | some c =>
      by_cases hcol : col = i
      · subst hcol
        simp [htail, hwidth c hi]
      · simp [hcol]
  · obtain ⟨i, hi⟩ := List.mem_iff_getElem?.mp hc
    rw [List.getElem?_modify] at hi
    obtain ⟨d, hd, rfl⟩ := Option.map_eq_some_iff.mp hi
    by_cases hcol : col = i
    · subst hcol
      rw [if_pos rfl]
      exact hcell d hd
    · rw [if_neg hcol]
      exact h.proper d (List.mem_of_getElem? hd)

end Teletype.Row

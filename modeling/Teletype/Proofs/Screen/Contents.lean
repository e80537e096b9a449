import Teletype.Proofs.Row.Contents
import Teletype.Proofs.Screen.Marks

/-!
# What the cells of a screen hold

A cell is to hold a character that a reader can be shown, with its marks, or nothing
(`Cell.isPrintable`). Only printing gives a cell another content, so it alone can put
something else there, and it does so in two ways (`taints`): the one character of
three columns is written like any other, and a control character, which takes no
column, is added to the character before the cursor as if it were a mark.
-/

namespace Teletype

open Row (AddsNothing)

namespace Text

/-- Whether a character is a control character: those below space, the one above the
tilde, and the 32 behind it. -/
def isControl (c : Char) : Bool :=
  c.toNat < 0x20 || (0x7F ≤ c.toNat && c.toNat < 0xA0)

theorem charWidth_of_isControl {c : Char} (h : isControl c = true) : charWidth c = 0 := by
  simp only [isControl, Bool.or_eq_true, Bool.and_eq_true, decide_eq_true_eq] at h
  unfold charWidth
  rcases h with hlow | ⟨hlow, hhigh⟩
  · rw [if_pos hlow]
  · rw [if_neg (by omega), if_neg (by omega), if_pos hhigh]

end Text

namespace Cell

/-- Whether the content is empty or a character of one or two columns followed by
characters that take none, with no control character among them. -/
def isPrintable (d : Cell) : Bool :=
  (match d.content.toList with
    | [] => true
    | base :: marks =>
      (Text.charWidth base == 1 || Text.charWidth base == 2) &&
        marks.all fun mark => Text.charWidth mark == 0) &&
    d.content.toList.all fun c => !Text.isControl c

variable {c mark : Char} {d : Cell}

theorem isPrintable_of_isEmpty (h : d.isEmpty = true) : d.isPrintable = true := by
  rw [isEmpty, String.isEmpty_iff] at h
  simp [isPrintable, h]

theorem isPrintable_written_iff (pen : Pen) :
    (written c pen).isPrintable = true ↔ Text.charWidth c = 1 ∨ Text.charWidth c = 2 := by
  have hlist : (written c pen).content.toList = [c] := by simp [written, Char.toString]
  have hcontrol : Text.charWidth c ≠ 0 → Text.isControl c = false := fun hwidth =>
    Bool.eq_false_iff.mpr fun h => hwidth (Text.charWidth_of_isControl h)
  rw [isPrintable, hlist]
  simp only [List.all_nil, Bool.and_true, List.all_cons, Bool.and_eq_true, Bool.or_eq_true,
    beq_iff_eq, Bool.not_eq_true']
  exact ⟨fun h => h.1, fun h => ⟨h, hcontrol (by omega)⟩⟩

/-- A character that takes no column is added to a content as a mark, unless it is a
control character. -/
theorem isPrintable_combine_iff (h : d.isPrintable = true) (hempty : d.isEmpty = false)
    (hmark : Text.charWidth mark = 0) :
    (d.combine mark).isPrintable = true ↔ Text.isControl mark = false := by
  have hcombine : (d.combine mark).content = d.content.push mark := by
    rw [combine, show d.content.isEmpty = false from hempty]
    rfl
  cases hcontent : d.content.toList with
  | nil =>
    rw [isEmpty, String.toList_eq_nil_iff.mp hcontent] at hempty
    cases hempty
  | cons base marks =>
    rw [isPrintable, hcontent] at h
    rw [isPrintable, hcombine, String.toList_push, hcontent]
    simp_all

end Cell

theorem Row.AddsNothing.isPrintable {xs ys : List Cell} (h : AddsNothing xs ys)
    (hxs : ∀ d ∈ xs, d.isPrintable = true) : ∀ d ∈ ys, d.isPrintable = true := by
  intro d hd
  rcases h.mem_or_empty d hd with hd | hempty
  · exact hxs d hd
  · exact Cell.isPrintable_of_isEmpty hempty

namespace Screen

/-- Every cell holds something that a reader can be shown, or nothing. -/
def Printable (s : Screen) : Prop :=
  s.AllRows fun cells => ∀ d ∈ cells, d.isPrintable = true

instance (s : Screen) : Decidable s.Printable :=
  inferInstanceAs (Decidable (s.AllRows _))

/-- Whether there is a character that a mark would be added to. -/
def takesMark (s : Screen) : Bool :=
  s.markColumn?.any fun col => (s.cell? col s.cursor.row).any fun d => !d.isEmpty

/-- Whether an operation puts something else into a cell than a reader can be shown. -/
def taints (s : Screen) : Operation → Bool
  | .print c => Text.charWidth c == 3 || (Text.isControl c && s.takesMark)
  | _ => false

variable {s t : Screen} {c : Char} {d : Cell} {col row width : Nat}

theorem printable_blanks (n : Nat) : ∀ d ∈ List.replicate n Cell.blank, d.isPrintable = true := by
  intro d hd
  rw [List.eq_of_mem_replicate hd]
  exact Cell.isPrintable_of_isEmpty rfl

namespace Printable

theorem of_cell? (h : s.Printable) (hd : s.cell? col row = some d) : d.isPrintable = true := by
  obtain ⟨l, hl, hget⟩ := Option.bind_eq_some_iff.mp hd
  exact h.grid l (List.mem_of_getElem? hl) d (List.mem_of_getElem? hget)

theorem mapCells (h : s.Printable) {f : List Cell → List Cell}
    (hf : ∀ cells, AddsNothing cells (f cells)) : (s.mapCells row f).Printable :=
  AllRows.mapCells h fun l hl => (hf l.cells).isPrintable (h.grid l (List.mem_of_getElem? hl))

/-! ## Printing -/

theorem write (h : s.Printable) (hwidth : Text.charWidth c = 1 ∨ Text.charWidth c = 2)
    (width : Nat) : (s.write c width).Printable := by
  rw [write_eq]
  refine AllRows.withCursor (AllRows.mapCells h fun l hl => ?_) _
  refine (AddsNothing.put ..).isPrintable (List.forall_mem_cons.mpr ⟨?_, ?_⟩)
  · exact (Cell.isPrintable_written_iff _).mpr hwidth
  · exact h.grid l (List.mem_of_getElem? hl)

theorem roomFor? (h : s.Printable) (ht : s.roomFor? width = some t) : t.Printable := by
  have hbegun : s.afterPendingWrap.Printable := AllRows.afterPendingWrap h printable_blanks
  rw [Screen.roomFor?] at ht
  split at ht
  · split at ht
    · cases ht
    · obtain rfl := Option.some.inj ht
      exact AllRows.wrap (hbegun.mapCells fun cells => .set cells _) printable_blanks
  · obtain rfl := Option.some.inj ht
    exact hbegun

/-- **A mark is one that a reader can be shown**, or there is nothing to add it to. -/
theorem combine_iff (h : s.Printable) (hmark : Text.charWidth c = 0) :
    (s.combine c).Printable ↔ (Text.isControl c && s.takesMark) = false := by
  cases hcol : s.markColumn? with
  | none =>
    rw [combine_eq, takesMark, hcol]
    exact ⟨fun _ => Bool.and_false _, fun _ => h⟩
  | some col =>
    have hjoined : ∀ d, s.cell? col s.cursor.row = some d → s.takesMark = !d.isEmpty := by
      intro d hd
      rw [takesMark, hcol, Option.any_some, hd, Option.any_some]
    rw [combine_eq, hcol]
    dsimp only
    constructor
    · intro hnew
      refine Bool.eq_false_iff.mpr fun htaints => ?_
      obtain ⟨hcontrol, htakes⟩ := Bool.and_eq_true_iff.mp htaints
      obtain ⟨d, hd, hshown⟩ : ∃ d, s.cell? col s.cursor.row = some d ∧ d.isEmpty = false := by
        rw [takesMark, hcol, Option.any_some] at htakes
        obtain ⟨d, hd, hshown⟩ := (Option.any_eq_true _ _).mp htakes
        exact ⟨d, hd, by simpa using hshown⟩
      have hcell : (s.mapCells s.cursor.row (·.modify col (·.combine c))).cell? col
          s.cursor.row = some (d.combine c) := by
        obtain ⟨l, hl, hget⟩ := Option.bind_eq_some_iff.mp hd
        rw [cell?_mapCells, hl, Option.bind_some, List.getElem?_modify_eq, hget]
        rfl
      have hfree := (Cell.isPrintable_combine_iff (h.of_cell? hd) hshown hmark).mp
        (of_cell? hnew hcell)
      rw [hcontrol] at hfree
      cases hfree
    · intro hfree
      refine AllRows.mapCells h fun l hl d hd => ?_
      rcases mem_modify hd with ⟨k, hk, rfl⟩ | hd
      · have hcell : s.cell? col s.cursor.row = some k := by
          rw [cell?, line?, hl]
          exact hk
        have hprintable := h.of_cell? hcell
        cases hempty : k.isEmpty with
        | true =>
          have hnone : k.combine c = k := if_pos hempty
          rwa [hnone]
        | false =>
          rw [hjoined k hcell, hempty, Bool.not_false, Bool.and_true] at hfree
          exact (Cell.isPrintable_combine_iff hprintable hempty hmark).mpr hfree
      · exact h.grid l (List.mem_of_getElem? hl) d hd

/-- **What is printed is what a reader can be shown**, unless it taints a cell. -/
theorem print_iff (hw : s.WellFormed) (h : s.Printable) (c : Char) :
    (s.print c).Printable ↔ s.taints (.print c) = false := by
  by_cases hzero : Text.charWidth c = 0
  · have hprint : s.print c = s.combine c := if_pos hzero
    rw [hprint, combine_iff h hzero, taints, hzero]
    exact Iff.rfl
  · have hcontrol : Text.isControl c = false :=
      Bool.eq_false_iff.mpr fun hc => hzero (Text.charWidth_of_isControl hc)
    rw [taints, hcontrol, Bool.false_and, Bool.or_false, print_eq_roomFor? hzero]
    by_cases hthree : Text.charWidth c = 3
    · -- there is always room for it, and it is no character of one or two columns
      have hroom : s.roomFor? 3 = some s.afterPendingWrap := rfl
      rw [hthree, hroom]
      refine iff_of_false (fun hnew => ?_) (by decide)
      have hcell := of_cell? hnew (cell?_write hw.afterPendingWrap c 3)
      have hwidth := (Cell.isPrintable_written_iff _).mp hcell
      omega
    · have hle := Text.charWidth_le_three c
      refine iff_of_true ?_ (beq_eq_false_iff_ne.mpr hthree)
      cases hroom : s.roomFor? (Text.charWidth c) with
      | none => exact AllRows.afterPendingWrap h printable_blanks
      | some t => exact (h.roomFor? hroom).write (by omega) _

/-! ## Every operation -/

theorem resize (h : s.Printable) (cols rows : Nat) : (s.resize cols rows).Printable := by
  have hall : ∀ d ∈ (s.scrollback.lines ++ s.primary).flatMap (·.cells), d.isPrintable = true := by
    intro d hd
    obtain ⟨l, hl, hdl⟩ := List.mem_flatMap.mp hd
    exact (List.mem_append.mp hl).elim (h.scrollback l) (h.primary l) d hdl
  exact AllRows.resize h printable_blanks
    (fun l hl => (addsNothing_of_mem_reflow hl).isPrintable hall)
    fun l hl => (AddsNothing.resize l _).isPrintable hl

/-- **A step keeps the contents of cells printable** unless it taints one. -/
theorem perform_iff (hw : s.WellFormed) (h : s.Printable) (op : Operation) :
    (s.perform op).Printable ↔ s.taints op = false := by
  have hkept : op.changesCells = false → (s.perform op).Printable := fun hop =>
    AllRows.perform h hw printable_blanks
      (fun _ _ _ _ _ _ hcells => (AddsNothing.erase ..).isPrintable hcells)
      fun hchanges => absurd (hop.symm.trans hchanges) Bool.false_ne_true
  cases op with
  | print c => exact h.print_iff hw c
  | insertChars n =>
    exact ⟨fun _ => rfl, fun _ => AllRows.withCursor (h.mapCells fun cells => .openAt ..) _⟩
  | deleteChars n =>
    exact ⟨fun _ => rfl, fun _ => AllRows.withCursor (h.mapCells fun cells => .closeAt ..) _⟩
  | alignmentTest =>
    refine ⟨fun _ => rfl, fun _ => AllRows.alignmentTest h fun n d hd => ?_⟩
    rw [List.eq_of_mem_replicate hd]
    exact (Cell.isPrintable_written_iff _).mpr (.inl (by decide))
  | resize cols rows => exact ⟨fun _ => rfl, fun _ => h.resize cols rows⟩
  | _ => exact ⟨fun _ => rfl, fun _ => hkept rfl⟩

theorem initial (cols rows capacity : Nat) : (Screen.initial cols rows capacity).Printable :=
  AllRows.initial printable_blanks cols rows capacity

end Printable

end Screen

end Teletype

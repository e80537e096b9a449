import Mathlib.Data.List.Forall2
import Mathlib.Data.List.SplitBy
import Teletype.Proofs.Reflow.Texts
import Teletype.Proofs.Screen.Operation

/-!
# Reflow keeps every cell

What a change of width does to arbitrary rows, said without the way it is done. Rows
make up lines of text, cut behind every row that does not run on (`lineTexts`). Each
line comes to rows of the new width that hold its cells in order and break them only
where a row is full or a character of two columns finds one column left
(`LaidOut`). Rows after the cursor that could not be told apart from no rows at all
are left out: blank ones, and below them those that run on to the end and show
nothing (`dropIdleEnd`). What is added is blank rows up to that of the cursor
(`keeps_reflow`).
-/

namespace Teletype

/-- Whether a row runs on and shows nothing. -/
def Line.isIdle (l : Line) : Bool :=
  l.wrapped && l.contentLength == 0

namespace Reflow

variable {cols : Nat} {row cells g rest : List Cell} {l : Line} {rows : List Line}

/-! ## Lines of text -/

/-- The rows of each line of text, cut behind every row that does not run on. -/
def blocks (rows : List Line) : List (List Line) :=
  rows.splitBy fun l _ => l.wrapped

/-- The cells of the rows of a line of text, without the blank ones at its end. -/
def joinRows (block : List Line) : List Cell :=
  Line.content (block.flatMap contribution)

/-- The lines of text that rows make up. -/
def lineTexts (rows : List Line) : List (List Cell) :=
  (blocks rows).map joinRows

/-- The rows without those at the end that run on and show nothing; the row of the
cursor and those above it stay. -/
def dropIdleEnd (rows : List Line) (cursor : Option Position) : List Line :=
  let kept := cursor.elim 0 (·.row + 1)
  rows.take kept ++ Text.dropEndWhile Line.isIdle (rows.drop kept)

theorem blocks_cons_ended (h : l.wrapped = false) (rows : List Line) :
    blocks (l :: rows) = [l] :: blocks rows := by
  show ([l] ++ rows).splitBy _ = _
  rw [List.splitBy_append]
  · rfl
  · intro x hx y _
    obtain rfl := Option.some.inj hx
    exact h

theorem blocks_cons_wrapped (h : l.wrapped = true) {block : List Line} {others : List (List Line)}
    (hrows : blocks rows = block :: others) : blocks (l :: rows) = (l :: block) :: others := by
  obtain ⟨hflatten, hne, hjoined, hcut⟩ := List.splitBy_eq_iff.mp hrows
  refine List.splitBy_eq_iff.mpr ⟨?_, ?_, ?_, ?_⟩
  · rw [hflatten]
    rfl
  · intro hmem
    rcases List.mem_cons.mp hmem with hnil | hmem
    · cases hnil
    · exact hne (List.mem_cons_of_mem _ hmem)
  · intro m hm
    rcases List.mem_cons.mp hm with rfl | hm
    · cases block with
      | nil => exact .singleton l
      | cons x xs => exact .cons_cons h (hjoined _ List.mem_cons_self)
    · exact hjoined m (List.mem_cons_of_mem _ hm)
  · cases others with
    | nil => exact .singleton _
    | cons next others =>
      obtain ⟨⟨hblock, hnext, hends⟩, hothers⟩ := List.isChain_cons_cons.mp hcut
      refine .cons_cons ⟨List.cons_ne_nil _ _, hnext, ?_⟩ hothers
      rw [List.getLast_cons hblock]
      exact hends

/-! ## Paragraphs -/

/-- **Paragraphs are lines of text**, if rows that run on to the end show something or
the cursor is in the last of them. -/
theorem cells_paragraphs (rows : List Line) (cursor : Option Position) (i : Nat)
    (hend : ∀ l ∈ rows.getLast?, l.wrapped = true →
      contribution l ≠ [] ∨ markIn cursor (i + (rows.length - 1)) ≠ none) :
    (paragraphs (markedFrom i rows cursor)).map (·.cells) =
      (blocks rows).map (List.flatMap contribution) := by
  induction rows generalizing i with
  | nil => rfl
  | cons l rows ih =>
    have hbelow : rows ≠ [] → (paragraphs (markedFrom (i + 1) rows cursor)).map (·.cells) =
        (blocks rows).map (List.flatMap contribution) := by
      intro hne
      refine ih (i + 1) fun k hk => ?_
      have hindex : i + 1 + (rows.length - 1) = i + ((l :: rows).length - 1) := by
        have hpos := List.length_pos_iff.mpr hne
        rw [List.length_cons]
        omega
      rw [hindex]
      refine hend k ?_
      rw [List.getLast?_cons, Option.mem_def.mp hk]
      rfl
    show (addRow (l, markIn cursor i) (paragraphs (markedFrom (i + 1) rows cursor))).map _ = _
    cases hl : l.wrapped with
    | false =>
      rw [addRow_ended hl, blocks_cons_ended hl, List.map_cons, List.map_cons,
        List.flatMap_singleton]
      congr 1
      by_cases hne : rows = []
      · subst hne
        rfl
      · exact hbelow hne
    | true =>
      rw [addRow_wrapped hl]
      by_cases hne : rows = []
      · subst hne
        -- the last of all rows: without cells and cursor it would open no paragraph
        have hkept : ¬ ((contribution l).isEmpty && (markIn cursor i).isNone) = true := by
          rcases hend l rfl hl with hcells | hmark
          · simp [hcells]
          · simp [Option.isNone_iff_eq_none, show markIn cursor i ≠ none from hmark]
        show (joinFront _ _ []).map _ = _
        rw [joinFront, if_neg hkept, List.map_singleton]
        exact congrArg (fun cells => [cells]) (List.flatMap_singleton contribution l).symm
      · -- the row goes in front of the first block below, and of the first paragraph
        obtain ⟨block, others, hblocks⟩ := List.exists_cons_of_ne_nil (List.splitBy_ne_nil.mpr hne)
        have hcells := hbelow hne
        rw [blocks_cons_wrapped hl hblocks]
        change blocks rows = _ at hblocks
        rw [hblocks] at hcells
        cases hparagraphs : paragraphs (markedFrom (i + 1) rows cursor) with
        | nil =>
          rw [hparagraphs] at hcells
          cases hcells
        | cons p below =>
          rw [hparagraphs, List.map_cons, List.map_cons, List.cons.injEq] at hcells
          obtain ⟨hfirst, hothers⟩ := hcells
          show (contribution l ++ p.cells) :: below.map _ = _
          rw [hfirst, hothers, List.map_cons, List.flatMap_cons]

/-! ## Rows that are left out -/

theorem contribution_of_isIdle (h : l.isIdle = true) : l.wrapped = true ∧ contribution l = [] := by
  rw [Line.isIdle, Bool.and_eq_true, beq_iff_eq] at h
  refine ⟨h.1, ?_⟩
  rw [contribution, if_pos h.1]
  exact List.length_eq_zero_iff.mp h.2

/-- Rows that run on to the end and show nothing give no paragraph. -/
theorem paragraphs_idle {cursor : Option Position} {i : Nat} (hidle : ∀ l ∈ rows, l.isIdle = true)
    (hcursor : ∀ p ∈ cursor, p.row < i) : paragraphs (markedFrom i rows cursor) = [] := by
  induction rows generalizing i with
  | nil => rfl
  | cons l rows ih =>
    obtain ⟨hl, hrest⟩ := List.forall_mem_cons.mp hidle
    obtain ⟨hwrapped, hnothing⟩ := contribution_of_isIdle hl
    show addRow (l, markIn cursor i) (paragraphs (markedFrom (i + 1) rows cursor)) = []
    rw [ih hrest fun p hp => Nat.lt_succ_of_lt (hcursor p hp), markIn_eq_none hcursor,
      addRow_wrapped hwrapped, hnothing, joinFront_nil]

/-- Below the cursor, rows that run on to the end and show nothing do not count. -/
theorem paragraphs_append_idle (rows : List Line) {idle : List Line} (cursor : Option Position)
    (i : Nat) (hidle : ∀ l ∈ idle, l.isIdle = true)
    (hcursor : ∀ p ∈ cursor, p.row < i + rows.length) :
    paragraphs (markedFrom i (rows ++ idle) cursor) = paragraphs (markedFrom i rows cursor) := by
  induction rows generalizing i with
  | nil => exact paragraphs_idle hidle hcursor
  | cons l rows ih =>
    have hbelow := ih (i + 1) fun p hp => by
      have hlt := hcursor p hp
      rw [List.length_cons] at hlt
      omega
    rw [List.cons_append]
    show addRow (l, markIn cursor i) (paragraphs (markedFrom (i + 1) (rows ++ idle) cursor)) = _
    rw [hbelow]
    rfl

theorem exists_dropIdleEnd_append (cursor : Option Position)
    (hcursor : ∀ p ∈ cursor, p.row < rows.length) :
    ∃ idle, rows = dropIdleEnd rows cursor ++ idle ∧ (∀ l ∈ idle, l.isIdle = true) ∧
      ∀ p ∈ cursor, p.row < (dropIdleEnd rows cursor).length := by
  obtain ⟨idle, hsplit, hidle⟩ :=
    Text.exists_dropEndWhile_append Line.isIdle (rows.drop (cursor.elim 0 (·.row + 1)))
  refine ⟨idle, ?_, hidle, fun p hp => ?_⟩
  · show rows = (rows.take _ ++ Text.dropEndWhile _ _) ++ idle
    rw [List.append_assoc, ← hsplit, List.take_append_drop]
  · obtain rfl := Option.mem_def.mp hp
    have hlt := hcursor p rfl
    show _ < (rows.take (p.row + 1) ++ _).length
    rw [List.length_append, List.length_take]
    omega

/-- What is left ends with a row that does not run on, one that shows something, or the
row of the cursor. -/
theorem getLast?_dropIdleEnd {cursor : Option Position}
    (hcursor : ∀ p ∈ cursor, p.row < rows.length) :
    ∀ l ∈ (dropIdleEnd rows cursor).getLast?, l.wrapped = true → contribution l ≠ [] ∨
      markIn cursor ((dropIdleEnd rows cursor).length - 1) ≠ none := by
  intro l hl hwrapped
  obtain ⟨kept, hkept⟩ :
      ∃ kept, Text.dropEndWhile Line.isIdle (rows.drop (cursor.elim 0 (·.row + 1))) = kept :=
    ⟨_, rfl⟩
  have hsplit : dropIdleEnd rows cursor = rows.take (cursor.elim 0 (·.row + 1)) ++ kept :=
    congrArg _ hkept
  rw [hsplit] at hl ⊢
  by_cases hnone : kept = []
  · right
    subst hnone
    rw [List.append_nil] at hl ⊢
    cases cursor with
    | none => cases hl
    | some p =>
      have hlt := hcursor p rfl
      have hlength : (rows.take (p.row + 1)).length - 1 = p.row := by
        rw [List.length_take]
        omega
      show markIn (some p) ((rows.take (p.row + 1)).length - 1) ≠ none
      rw [hlength, markIn, Option.bind_some, if_pos rfl]
      exact Option.some_ne_none p.col
  · left
    have hshows : l.isIdle = false := by
      rw [List.getLast?_append_of_ne_nil _ hnone, ← hkept] at hl
      exact Text.eq_false_of_mem_getLast?_dropEndWhile hl
    intro hnothing
    rw [contribution, if_pos hwrapped] at hnothing
    rw [Line.isIdle, hwrapped, Line.contentLength, hnothing] at hshows
    cases hshows

/-! ## A line of text, laid out -/

/-- Whether cells begin with a character of two columns. -/
def startsWithPair (cells : List Cell) : Bool :=
  cells[1]?.any (·.tail)

/-- How the cells of a row go on in the next one: the row is full, or a character of
two columns finds one column left in it; and no head is parted from its tail. -/
structure RunsInto (cols : Nat) (part next : List Cell) : Prop where
  full : part.length = cols ∨ part.length + 1 = cols ∧ startsWithPair next = true
  whole : ∀ c ∈ part.getLast?, c.tail = false → startsWithTail next = false

/-- A row of the width that holds some cells, with blank ones behind them. -/
structure HoldsPart (cols : Nat) (part : List Cell) (l : Line) : Prop where
  length_eq : l.cells.length = cols
  exists_blanks : ∃ n, l.cells = part ++ List.replicate n .blank

/-- The rows hold the cells of a line of text, part for part. All but the last run
on. -/
def LaidOut (cols : Nat) (cells : List Cell) (rows : List Line) : Prop :=
  (∃ n, rows.map (·.wrapped) = List.replicate n true ++ [false]) ∧
    ∃ parts : List (List Cell), parts.flatten = cells ∧ parts.IsChain (RunsInto cols) ∧
      List.Forall₂ (HoldsPart cols) parts rows

/-- No cell at the end of a row begun is a head whose tail is to come. -/
def Joint (row rest : List Cell) : Prop :=
  ∀ c ∈ row.getLast?, c.tail = false → startsWithTail rest = false

theorem IsGroup.joint (h : IsGroup rest g) (row : List Cell) : Joint (row ++ g) rest := by
  intro c hc htail
  cases h with
  | alone d hrest => exact hrest
  | pair d next hnext =>
    rw [List.getLast?_append_of_ne_nil _ (List.cons_ne_nil _ _)] at hc
    obtain rfl : next = c := Option.some.inj hc
    rw [hnext] at htail
    cases htail

theorem exists_cut_cons (hcols : 2 ≤ cols) (row cells : List Cell) :
    ∃ more others, cut cols row cells = (row ++ more) :: others := by
  induction cells using group_induction generalizing row with
  | nil => exact ⟨[], [], by rw [cut_nil, List.append_nil]⟩
  | group g rest hg ih =>
    rw [cut_group hcols hg]
    split
    · exact ⟨[], cut cols g rest, by rw [List.append_nil]⟩
    · obtain ⟨more, others, hcut⟩ := ih (row ++ g)
      exact ⟨g ++ more, others, by rw [hcut, List.append_assoc]⟩

/-- A row that a group has no room in runs into the one that the group begins. -/
theorem IsGroup.runsInto (h : IsGroup rest g) (hlen : row.length ≤ cols)
    (hjoint : Joint row (g ++ rest)) (hfull : isFull cols g.length row = true)
    (more : List Cell) : RunsInto cols row (g ++ more) := by
  rw [isFull, Bool.and_eq_true, decide_eq_true_eq] at hfull
  have hwide := hfull.1
  cases h with
  | alone c hrest =>
    rw [List.length_singleton] at hwide
    exact ⟨.inl (by omega), fun d hd htail => hjoint d hd htail⟩
  | pair c next hnext =>
    refine ⟨?_, fun d hd htail => hjoint d hd htail⟩
    have hpair : startsWithPair ([c, next] ++ more) = true := hnext
    change cols < row.length + 2 at hwide
    by_cases hrow : row.length = cols
    · exact .inl hrow
    · exact .inr ⟨by omega, hpair⟩

/-- **Cells are parted only where a row has no room for what comes next.** -/
theorem isChain_cut (hcols : 2 ≤ cols) (hlen : row.length ≤ cols) (hjoint : Joint row cells) :
    (cut cols row cells).IsChain (RunsInto cols) := by
  induction cells using group_induction generalizing row with
  | nil =>
    rw [cut_nil]
    exact .singleton row
  | group g rest hg ih =>
    rw [cut_group hcols hg]
    split
    next hfull =>
      -- the only place where cells are parted: in front of a group that has no room
      have hbelow := ih (Nat.le_trans hg.length_le hcols) (hg.joint [])
      obtain ⟨more, others, hcut⟩ := exists_cut_cons hcols g rest
      rw [hcut] at hbelow ⊢
      exact .cons_cons (hg.runsInto hlen hjoint hfull more) hbelow
    next hroom => exact ih (hg.length_append_le hcols hlen hroom) (hg.joint row)

theorem holdsPart_fit (h : row.length ≤ cols) (wrapped : Bool) :
    HoldsPart cols row { cells := Line.fit cols row, wrapped } where
  length_eq := Line.length_fit cols row
  exists_blanks := ⟨_, Line.fit_eq h⟩

/-- The rows that cells are cut into hold them. -/
theorem laidOut_lay (hcols : 2 ≤ cols) (p : Paragraph) :
    LaidOut cols (Line.content p.cells) (lay cols p) := by
  have hlength : ∀ r ∈ cut cols [] (Line.content p.cells), r.length ≤ cols :=
    length_of_mem_cut hcols (Nat.zero_le cols)
  have hnothing : Joint [] (Line.content p.cells) := fun c hc => by cases hc
  obtain ⟨full, last, hcut⟩ := exists_cut_concat cols [] (Line.content p.cells)
  refine ⟨⟨full.length, ?_⟩, cut cols [] (Line.content p.cells), flatten_cut hcols [] _,
    isChain_cut hcols (Nat.zero_le cols) hnothing, ?_⟩
  · rw [lay, hcut, asLines_concat, List.map_append, List.map_map]
    show full.map (fun _ => true) ++ [false] = _
    rw [List.map_const']
  · rw [hcut] at hlength
    rw [lay, hcut, asLines_concat]
    refine List.rel_append ?_ (.cons (holdsPart_fit (hlength last ?_) false) .nil)
    · rw [List.forall₂_map_right_iff, List.forall₂_same]
      exact fun r hr => holdsPart_fit (hlength r (List.mem_append_left _ hr)) true
    · exact List.mem_append_right _ List.mem_cons_self

/-! ## All rows -/

/-- The rows of a reflow hold lines of text one after the other, each in rows of its
own. Behind them there are blank rows up to that of the cursor, if any. -/
def Keeps (cols : Nat) (texts : List (List Cell)) (result : List Line × Option Position) : Prop :=
  ∃ (laid : List (List Line)) (n : Nat),
    result.1 = laid.flatten ++ List.replicate n (.blank cols) ∧
      List.Forall₂ (LaidOut cols) texts laid ∧
      (n = 0 ∨ ∃ q, result.2 = some q ∧ q.row + 1 = result.1.length)

theorem LaidOut.length_pos (h : LaidOut cols cells rows) : 0 < rows.length := by
  obtain ⟨⟨n, hn⟩, -⟩ := h
  have hlen := congrArg List.length hn
  rw [List.length_map, List.length_append, List.length_singleton] at hlen
  omega

theorem length_le_flatten {texts : List (List Cell)} {laid : List (List Line)}
    (h : List.Forall₂ (LaidOut cols) texts laid) : texts.length ≤ laid.flatten.length := by
  induction h with
  | nil => exact Nat.le_refl 0
  | cons hfirst _ ih =>
    have hpos := hfirst.length_pos
    rw [List.flatten_cons, List.length_append, List.length_cons]
    omega

/-- Every line of text has a row. -/
theorem Keeps.length_le {texts : List (List Cell)} {result : List Line × Option Position}
    (h : Keeps cols texts result) : texts.length ≤ result.1.length := by
  obtain ⟨laid, n, hresult, hlaid, -⟩ := h
  have hrows := length_le_flatten hlaid
  rw [hresult, List.length_append]
  omega

theorem layAll_fst (cols : Nat) (pendingWrap : Bool) (ps : List Paragraph) :
    (layAll cols pendingWrap ps).1 = (ps.map (lay cols)).flatten := by
  induction ps with
  | nil => rfl
  | cons p rest ih =>
    rw [layAll_cons, ih]
    rfl

/-- The rows that a reflow lays out anew, line of text by line of text. -/
theorem map_content_paragraphs {cursor : Option Position}
    (hcursor : ∀ p ∈ cursor, p.row < rows.length) :
    (paragraphs (marked rows cursor)).map (fun p => Line.content p.cells) =
      lineTexts (dropIdleEnd rows cursor) := by
  obtain ⟨idle, hsplit, hidle, hkept⟩ := exists_dropIdleEnd_append cursor hcursor
  have hparagraphs : paragraphs (marked rows cursor) =
      paragraphs (markedFrom 0 (dropIdleEnd rows cursor) cursor) := by
    have hidle' := paragraphs_append_idle (dropIdleEnd rows cursor) cursor 0 hidle
      fun p hp => by rw [Nat.zero_add]; exact hkept p hp
    rw [← hsplit] at hidle'
    exact hidle'
  have hcells := cells_paragraphs (dropIdleEnd rows cursor) cursor 0 fun l hl => by
    rw [Nat.zero_add]
    exact getLast?_dropIdleEnd hcursor l hl
  have hcontents := congrArg (List.map Line.content) hcells
  rw [List.map_map, List.map_map] at hcontents
  rw [hparagraphs]
  exact hcontents

/-- **Reflow keeps every cell.** -/
theorem keeps_reflow (hcols : 2 ≤ cols) (rows : List Line) (cursor : Option Position)
    (hcursor : ∀ p ∈ cursor, p.row < rows.length) :
    Keeps cols (lineTexts (dropIdleEnd (dropBlankEnd rows cursor) cursor))
      (reflow cols rows cursor) := by
  have hkept : ∀ p ∈ cursor, p.row < (dropBlankEnd rows cursor).length := by
    intro p hp
    obtain rfl := Option.mem_def.mp hp
    have hlt := hcursor p rfl
    show _ < (rows.take (p.row + 1) ++ _).length
    rw [List.length_append, List.length_take]
    omega
  have htexts := map_content_paragraphs hkept
  simp only [reflow]
  generalize paragraphs (marked (dropBlankEnd rows cursor) cursor) = ps at htexts ⊢
  have hlaid := layAll_fst cols (cursor.any (·.pendingWrap)) ps
  have hlines : List.Forall₂ (LaidOut cols)
      (lineTexts (dropIdleEnd (dropBlankEnd rows cursor) cursor)) (ps.map (lay cols)) := by
    rw [← htexts, List.forall₂_map_left_iff, List.forall₂_map_right_iff, List.forall₂_same]
    exact fun p _ => laidOut_lay hcols p
  generalize layAll cols (cursor.any (·.pendingWrap)) ps = laid at hlaid ⊢
  obtain ⟨lines, place⟩ := laid
  obtain rfl : lines = _ := hlaid
  cases place with
  | none => exact ⟨_, 0, (List.append_nil _).symm, hlines, .inl rfl⟩
  | some p =>
    -- blank rows are added only for a cursor that stands below the last line of text
    refine ⟨_, _, rfl, hlines, ?_⟩
    by_cases hroom : ((ps.map (lay cols)).flatten).length ≤ p.row + 1
    · exact .inr ⟨p, rfl, (length_reach hroom).symm⟩
    · exact .inl (by omega)

/-- A wide character that finds one column left begins the next row, and the blank row
below the cursor is left out. -/
theorem keeps_reflow_gap :
    let rows : List Line :=
      [{ cells := [.written 'a' {}, .written 'b' {}, .written '世' {}, .wideTail {}],
         wrapped := true },
       { cells := [.written 'c' {}, .blank, .blank, .blank] }, .blank 4]
    let cursor : Option Position := some ⟨1, 1, false⟩
    (∀ p ∈ cursor, p.row < rows.length) ∧
      Keeps 3 (lineTexts (dropIdleEnd (dropBlankEnd rows cursor) cursor)) (reflow 3 rows cursor) ∧
      (reflow 3 rows cursor).1.map Line.text = ["ab", "世c"] := by
  intro rows cursor
  have hcursor : ∀ p ∈ cursor, p.row < rows.length := by decide
  exact ⟨hcursor, keeps_reflow (by decide) rows cursor hcursor, by decide +kernel⟩

end Reflow

namespace Screen

/-- A row that runs on to the end and shows nothing is a line of text without a row. A
wide character that finds no room leaves one, and is erased in the row below. -/
theorem not_keeps_reflow_idle :
    let ops : List Operation := [.print 'a', .carriageReturn, .linefeed, .print 'b',
      .carriageReturn, .linefeed, .print 'c', .carriageReturn, .linefeed, .forward 2, .print '世',
      .eraseInLine 2, .up 2]
    let s := (initial 3 5 9).performAll ops
    let rows := s.scrollback.lines ++ s.primary
    (∀ p ∈ s.trackedCursor?, p.row < rows.length) ∧
      ¬ Reflow.Keeps 4 (Reflow.lineTexts (Reflow.dropBlankEnd rows s.trackedCursor?))
        (reflow 4 rows s.trackedCursor?) := by
  intro ops s rows
  refine ⟨by decide +kernel, fun h => ?_⟩
  have hlen := h.length_le
  revert hlen
  decide +kernel

end Screen

end Teletype

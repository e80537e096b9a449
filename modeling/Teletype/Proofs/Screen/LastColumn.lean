import Teletype.Proofs.Reflow.Checked
import Teletype.Proofs.Screen.Printing

/-!
# Waiting in the last column

A wrap is pending when the last column was written, and the cursor waits there for
the next character (`WaitsAtEdge`). Every movement gives the wrap up, and so does
everything that erases under the cursor; the rest leave the cursor in its column
(`Stays`). A resize of the primary grid finds a new place for the cursor, and
with it whether a wrap is pending there.

While the alternate grid is on display the cursor keeps its column. A wider
screen leaves it there with its wrap still pending, in the middle of the row, and
that and the flag itself are the only ways to lose what the flag means
(`waitsAtEdge_perform_iff`).
-/

namespace Teletype

/-! ## Where a reflow puts the cursor -/

namespace Reflow

variable {cols : Nat} {pendingWrap : Bool}

/-- A target whose place is a pending wrap is right behind a full row. -/
theorem le_col_locate {row used target : Nat} {cells : List Cell}
    (h : (locate cols row used cells target).pendingWrap = true) :
    cols ≤ (locate cols row used cells target).col + 1 := by
  fun_induction locate cols row used cells target with
  | case1 => exact Nat.le_add_of_sub_le (Nat.le_refl _)
  | _ => grind

theorem le_col_place? {p : Paragraph} {q : Position} (hq : place? cols pendingWrap p = some q)
    (h : q.pendingWrap = true) : cols ≤ q.col + 1 := by
  obtain ⟨mark, -, rfl⟩ := Option.map_eq_some_iff.mp hq
  have hspot : (locate cols 0 0 (Line.content p.cells) mark).pendingWrap = true →
      cols ≤ (locate cols 0 0 (Line.content p.cells) mark).col + 1 := le_col_locate
  grind

theorem le_col_layAll {ps : List Paragraph} {q : Position}
    (hq : (layAll cols pendingWrap ps).2 = some q) (h : q.pendingWrap = true) :
    cols ≤ q.col + 1 := by
  induction ps generalizing q with
  | nil => cases hq
  | cons p rest ih =>
    rw [layAll_cons] at hq
    cases hhere : place? cols pendingWrap p with
    | some spot =>
      rw [hhere] at hq
      obtain rfl := Option.some.inj hq
      exact le_col_place? hhere h
    | none =>
      rw [hhere] at hq
      obtain ⟨later, hlater, rfl⟩ := Option.map_eq_some_iff.mp hq
      have hle : cols ≤ later.col + 1 := ih hlater h
      exact hle

/-! A mark is carried along from the row that it is in to a place. -/

theorem exists_mark_joinFront {cells : List Cell} {mark : Option Nat} {ps : List Paragraph}
    (h : mark ≠ none ∨ ∃ p ∈ ps, p.mark ≠ none) : ∃ p ∈ joinFront cells mark ps, p.mark ≠ none := by
  cases ps with
  | nil =>
    have hmark : mark ≠ none := h.resolve_right fun ⟨p, hp, _⟩ => List.not_mem_nil hp
    have hkept : ¬ (cells.isEmpty && mark.isNone) = true := by simp [hmark]
    refine ⟨{ cells, mark }, ?_, hmark⟩
    rw [joinFront, if_neg hkept]
    exact List.mem_singleton_self _
  | cons p below =>
    rcases h with hmark | ⟨q, hq, hmark⟩
    · exact ⟨_, List.mem_cons_self, by simp [hmark]⟩
    · rcases List.mem_cons.mp hq with rfl | hq
      · exact ⟨_, List.mem_cons_self, by simp [hmark]⟩
      · exact ⟨q, List.mem_cons_of_mem _ hq, hmark⟩

theorem exists_mark_paragraphs {rows : List (Line × Option Nat)} (h : ∃ r ∈ rows, r.2 ≠ none) :
    ∃ p ∈ paragraphs rows, p.mark ≠ none := by
  induction rows with
  | nil =>
    obtain ⟨r, hr, -⟩ := h
    cases hr
  | cons row rest ih =>
    obtain ⟨l, mark⟩ := row
    have hfound : mark ≠ none ∨ ∃ p ∈ paragraphs rest, p.mark ≠ none := by
      obtain ⟨r, hr, hmark⟩ := h
      rcases List.mem_cons.mp hr with rfl | hr
      · exact .inl hmark
      · exact .inr (ih ⟨r, hr, hmark⟩)
    show ∃ p ∈ addRow (l, mark) (paragraphs rest), p.mark ≠ none
    cases hl : l.wrapped with
    | false =>
      rw [addRow_ended hl]
      rcases hfound with hmark | ⟨p, hp, hmark⟩
      · exact ⟨_, List.mem_cons_self, hmark⟩
      · exact ⟨p, List.mem_cons_of_mem _ hp, hmark⟩
    | true =>
      rw [addRow_wrapped hl]
      exact exists_mark_joinFront hfound

theorem layAll_snd_ne_none {ps : List Paragraph} (h : ∃ p ∈ ps, p.mark ≠ none) :
    (layAll cols pendingWrap ps).2 ≠ none := by
  induction ps with
  | nil =>
    obtain ⟨p, hp, -⟩ := h
    cases hp
  | cons p rest ih =>
    rw [layAll_cons]
    cases hmark : p.mark with
    | some mark => simp [place?, hmark]
    | none =>
      obtain ⟨q, hq, hq'⟩ := h
      have hrest : q ∈ rest := (List.mem_cons.mp hq).resolve_left fun heq => hq' (heq ▸ hmark)
      simpa [place?, hmark] using ih ⟨q, hrest, hq'⟩

/-- A cursor in one of the rows marks it. -/
theorem exists_mark_marked {rows : List Line} {p : Position} (h : p.row < rows.length) :
    ∃ r ∈ marked (dropBlankEnd rows (some p)) (some p), r.2 ≠ none := by
  have hlt : p.row < (dropBlankEnd rows (some p)).length := by
    simp only [dropBlankEnd, List.length_append, List.length_take]
    omega
  refine ⟨((dropBlankEnd rows (some p))[p.row], some p.col), ?_, Option.some_ne_none _⟩
  exact List.mem_map.mpr ⟨((dropBlankEnd rows (some p))[p.row], p.row),
    List.mk_mem_zipIdx_iff_getElem?.mpr (List.getElem?_eq_getElem hlt), by simp⟩

end Reflow

theorem reflow_snd (cols : Nat) (rows : List Line) (cursor : Option Position) :
    (reflow cols rows cursor).2 = (Reflow.layAll cols (cursor.any (·.pendingWrap))
      (Reflow.paragraphs (Reflow.marked (Reflow.dropBlankEnd rows cursor) cursor))).2 := by
  rw [reflow]
  split
  · next heq => rw [heq]
  · next heq => rw [heq]

/-- Without a cursor there is nothing to find a place for. -/
theorem reflow_snd_none (cols : Nat) (rows : List Line) : (reflow cols rows none).2 = none := by
  rw [reflow_snd]
  exact Reflow.layAll_snd_eq_none (Reflow.marks_paragraphs (i := 0) fun p hp => by cases hp)

/-- **A cursor in one of the rows has a place among the new ones**, and waits with a
wrap pending only behind a full row. -/
theorem exists_reflow_snd (cols col : Nat) (pendingWrap : Bool) {rows : List Line} {row : Nat}
    (h : row < rows.length) : ∃ q, (reflow cols rows (some ⟨row, col, pendingWrap⟩)).2 = some q ∧
      (q.pendingWrap = true → cols ≤ q.col + 1) := by
  rw [reflow_snd]
  have hmarked := Reflow.exists_mark_marked (p := ⟨row, col, pendingWrap⟩) h
  obtain ⟨q, hq⟩ := Option.ne_none_iff_exists'.mp (Reflow.layAll_snd_ne_none
    (Reflow.exists_mark_paragraphs hmarked))
  exact ⟨q, hq, Reflow.le_col_layAll hq⟩

namespace Screen

/-! ## What a pending wrap means -/

/-- A wrap is pending only in the last column, so no character is wrapped in the
middle of a row: with another column free it is written where the cursor is. -/
structure WaitsAtEdge (s : Screen) : Prop where
  col_eq : s.cursor.pendingWrap = true → s.cursor.col + 1 = s.cols
  print_eq : ∀ c, Text.charWidth c ≠ 0 → s.cursor.col + 1 < s.cols →
    s.print c = s.write c (Text.charWidth c)

variable {s t : Screen}

/-- A character is written at the cursor if no wrap is pending and the column is not
the last. -/
theorem print_of_not_pending (h : s.cursor.pendingWrap = false) {c : Char}
    (hc : Text.charWidth c ≠ 0) (hcol : s.cursor.col + 1 < s.cols) :
    s.print c = s.write c (Text.charWidth c) := by
  have hnone : s.afterPendingWrap = s := by
    rw [afterPendingWrap, h]
    rfl
  rw [print_eq hc, hnone]
  dsimp only
  rw [if_neg]
  rw [Bool.and_eq_true, decide_eq_true_eq, decide_eq_true_eq]
  omega

theorem waitsAtEdge_iff :
    s.WaitsAtEdge ↔ (s.cursor.pendingWrap = true → s.cursor.col + 1 = s.cols) where
  mp h := h.col_eq
  mpr h :=
    { col_eq := h
      print_eq := fun c hc hcol =>
        print_of_not_pending (Bool.eq_false_iff.mpr fun hp => by have := h hp; omega) hc hcol }

instance (s : Screen) : Decidable s.WaitsAtEdge :=
  decidable_of_iff _ waitsAtEdge_iff.symm

/-- Whether an operation leaves a pending wrap behind in the middle of a row. -/
def strands (s : Screen) : Operation → Bool
  | .resize cols _ => s.onAlternate && s.cursor.pendingWrap && decide (s.cols < max cols 1)
  | .setFlag .pendingWrap on => on && s.cursor.col + 1 != s.cols
  | _ => false

/-- The width is the same, and a wrap is pending only where one was. -/
structure Stays (s t : Screen) : Prop where
  cols_eq : t.cols = s.cols
  waits : t.cursor.pendingWrap = true →
    s.cursor.pendingWrap = true ∧ t.cursor.col = s.cursor.col

namespace Stays

theorem refl (s : Screen) : s.Stays s :=
  ⟨rfl, fun h => ⟨h, rfl⟩⟩

theorem trans {u : Screen} (h : s.Stays t) (h' : t.Stays u) : s.Stays u where
  cols_eq := h'.cols_eq.trans h.cols_eq
  waits hp := by
    obtain ⟨ht, hcol⟩ := h'.waits hp
    obtain ⟨hs, hcol'⟩ := h.waits ht
    exact ⟨hs, hcol.trans hcol'⟩

/-- A cursor without a pending wrap may be anywhere. -/
theorem of_settled (hcols : t.cols = s.cols) (h : t.cursor.pendingWrap = false) : s.Stays t where
  cols_eq := hcols
  waits hp := by
    rw [h] at hp
    cases hp

theorem of_cursor_eq (hcols : t.cols = s.cols) (h : t.cursor = s.cursor) : s.Stays t where
  cols_eq := hcols
  waits hp := by
    rw [h] at hp ⊢
    exact ⟨hp, rfl⟩

theorem waitsAtEdge (h : s.Stays t) (hs : s.WaitsAtEdge) : t.WaitsAtEdge := by
  refine waitsAtEdge_iff.mpr fun hp => ?_
  obtain ⟨hwait, hcol⟩ := h.waits hp
  rw [hcol, h.cols_eq]
  exact hs.col_eq hwait

theorem mapGrid (s : Screen) (f : Grid → Grid) : s.Stays (s.mapGrid f) :=
  of_cursor_eq (cols_mapGrid f) (cursor_mapGrid s f)

theorem mapCells (s : Screen) (row : Nat) (f : List Cell → List Cell) : s.Stays (s.mapCells row f) :=
  mapGrid s _

theorem settle (s : Screen) : s.Stays s.settle :=
  of_settled rfl rfl

theorem scrollUp (s : Screen) (n : Nat) : s.Stays (s.scrollUp n) :=
  of_cursor_eq (cols_scrollUp n) (cursor_scrollUp s n)

theorem scrollDown (s : Screen) (n : Nat) : s.Stays (s.scrollDown n) := by
  simp only [Screen.scrollDown]
  split
  · exact refl s
  · split
    · exact mapGrid s _
    · exact (mapGrid s _).trans (mapGrid _ _)

theorem advance (s : Screen) : s.Stays s.advance :=
  advance_cases (scrollUp s 1) (fun _ => ⟨rfl, fun h => ⟨h, rfl⟩⟩) (refl s)

theorem index (s : Screen) : s.Stays s.index :=
  (settle s).trans (advance _)

theorem pendingWrap_index (s : Screen) : s.index.cursor.pendingWrap = false :=
  Bool.eq_false_iff.mpr fun h => Bool.false_ne_true ((advance s.settle).waits h).1

theorem nextLine (s : Screen) : s.Stays s.nextLine :=
  of_settled (index s).cols_eq (pendingWrap_index s)

theorem linefeed (s : Screen) : s.Stays s.linefeed := by
  unfold Screen.linefeed
  split
  · exact nextLine s
  · exact index s

theorem reverseIndex (s : Screen) : s.Stays s.reverseIndex := by
  simp only [Screen.reverseIndex]
  split
  · exact (settle s).trans (scrollDown _ 1)
  · exact of_settled rfl rfl

theorem wrap (s : Screen) : s.Stays s.wrap := by
  rw [wrap_eq]
  obtain ⟨hcursor, -, -, -, hcols, -⟩ := s.leaveRow_eq
  exact (of_settled hcols (congrArg Cursor.pendingWrap hcursor)).trans (advance _)

theorem insertLines (s : Screen) (n : Nat) : s.Stays (s.insertLines n) := by
  unfold Screen.insertLines
  split
  · exact of_settled (cols_mapGrid _) rfl
  · exact refl s

theorem deleteLines (s : Screen) (n : Nat) : s.Stays (s.deleteLines n) := by
  unfold Screen.deleteLines
  split
  · exact of_settled (cols_mapGrid _) rfl
  · exact refl s

theorem eraseCells (s : Screen) (row first last : Nat) : s.Stays (s.eraseCells row first last) := by
  simp only [Screen.eraseCells]
  split
  · exact refl s
  · exact (settle s).trans (mapGrid _ _)

theorem eraseRows (s : Screen) (first last : Nat) : s.Stays (s.eraseRows first last) := by
  unfold Screen.eraseRows
  generalize List.range' first (last - first) = rows
  induction rows generalizing s with
  | nil => exact refl s
  | cons row rest ih => exact (eraseCells s row 0 s.cols).trans (ih _)

theorem eraseInDisplay (s : Screen) (mode : Nat) : s.Stays (s.eraseInDisplay mode) := by
  simp only [Screen.eraseInDisplay]
  split
  · exact (eraseCells s ..).trans (eraseRows ..)
  · exact (eraseRows s ..).trans (eraseCells ..)
  · exact eraseRows s ..
  · exact of_cursor_eq rfl rfl
  · exact refl s

theorem eraseInLine (s : Screen) (mode : Nat) : s.Stays (s.eraseInLine mode) := by
  simp only [Screen.eraseInLine]
  split
  · exact eraseCells s ..
  · exact eraseCells s ..
  · exact eraseCells s ..
  · exact refl s

theorem setMargins (s : Screen) (top bottom : Nat) : s.Stays (s.setMargins top bottom) := by
  simp only [Screen.setMargins]
  split <;> exact of_settled rfl rfl

theorem saveCursor (s : Screen) : s.Stays s.saveCursor := by
  unfold Screen.saveCursor
  split <;> exact of_cursor_eq rfl rfl

theorem enterAlternate (s : Screen) (clear : Bool) : s.Stays (s.enterAlternate clear) := by
  unfold Screen.enterAlternate
  split
  · exact refl s
  · cases clear <;> exact of_cursor_eq rfl rfl

theorem exitAlternate (s : Screen) (clear : Bool) : s.Stays (s.exitAlternate clear) := by
  unfold Screen.exitAlternate
  split
  · cases clear <;> exact of_cursor_eq rfl rfl
  · exact refl s

theorem combine (s : Screen) (mark : Char) : s.Stays (s.combine mark) := by
  rcases s.combine_cases mark with heq | ⟨col, heq⟩
  · rw [heq]
    exact refl s
  · rw [heq]
    exact mapGrid s _

end Stays

/-! ## Printing -/

/-- A cursor that moves on stops in the last column, if it gets there. -/
theorem WaitsAtEdge.moveOn (h : s.WaitsAtEdge) (hpos : 0 < s.cols) (width : Nat) :
    (s.moveOn width).WaitsAtEdge := by
  refine waitsAtEdge_iff.mpr ?_
  have hcol := h.col_eq
  unfold Screen.moveOn mapCursor
  dsimp only
  split
  · intro _
    show s.cols - 1 + 1 = s.cols
    omega
  · intro hp
    show s.cursor.col + width + 1 = s.cols
    have hwait : s.cursor.col + 1 = s.cols := hcol hp
    omega

theorem WaitsAtEdge.write (h : s.WaitsAtEdge) (hpos : 0 < s.cols) (c : Char) (width : Nat) :
    (s.write c width).WaitsAtEdge := by
  rw [write_eq]
  exact ((Stays.mapCells s _ _).waitsAtEdge h).moveOn (by rwa [cols_mapCells]) width

theorem WaitsAtEdge.print (h : s.WaitsAtEdge) (hpos : 0 < s.cols) (c : Char) :
    (s.print c).WaitsAtEdge := by
  have hbegun : ∀ t, t = s ∨ t = s.wrap → s.Stays t := by
    rintro t (rfl | rfl)
    · exact Stays.refl t
    · exact Stays.wrap s
  refine print_cases ((Stays.combine s c).waitsAtEdge h) (fun t ht => (hbegun t ht).waitsAtEdge h)
    (fun t w ht => ?_) fun t w ht => ?_
  · have hstays := hbegun t ht
    exact (hstays.waitsAtEdge h).write (hstays.cols_eq ▸ hpos) c w
  · have hstays : s.Stays t.blankCursor.wrap :=
      ((hbegun t ht).trans (Stays.mapCells t _ _)).trans (Stays.wrap _)
    exact (hstays.waitsAtEdge h).write (hstays.cols_eq ▸ hpos) c w

/-! ## A new size -/

/-- Clamped into a grid that is wide enough for it, a cursor keeps its column. -/
theorem pendingWrap_clamp (c : Cursor) (cols rows : Nat) :
    ((c.clamp cols rows).pendingWrap = true → (c.clamp cols rows).col + 1 = cols) ↔
      (c.pendingWrap = true → cols ≤ c.col + 1) := by
  unfold Cursor.clamp
  split
  · next hout =>
    exact ⟨fun _ _ => Nat.le_succ_of_le hout, fun _ hp => by cases hp⟩
  · next hin =>
    constructor
    · intro h hp
      exact Nat.le_of_eq (h hp).symm
    · intro h hp
      have hle := h hp
      show c.col + 1 = cols
      omega

/-- **A resize keeps a pending wrap in the last column**, unless a wider alternate grid
leaves the cursor where it was. -/
theorem waitsAtEdge_resize_iff (hw : s.WellFormed) (h : s.WaitsAtEdge) (cols rows : Nat) :
    (s.resize cols rows).WaitsAtEdge ↔ s.strands (.resize cols rows) = false := by
  rw [strands, waitsAtEdge_iff, cols_resize]
  simp only [resize]
  split
  · next hsame =>
    rw [Bool.and_eq_true, decide_eq_true_eq] at hsame
    rw [hsame.1]
    exact ⟨fun _ => by simp, fun _ => h.col_eq⟩
  cases halternate : s.onAlternate with
  | true =>
    have hnone : s.trackedCursor? = none := if_pos halternate
    rw [hnone, reflow_snd_none, pendingWrap_clamp, Bool.true_and]
    have hcol := h.col_eq
    cases hwait : s.cursor.pendingWrap with
    | false => simp
    | true =>
      have hedge := hcol hwait
      simp
      omega
  | false =>
    have htracked : s.trackedCursor? = some ⟨s.scrollback.lines.length + s.cursor.row,
        s.cursor.col, s.cursor.pendingWrap⟩ := if_neg (by rw [halternate]; decide)
    have hrow : s.scrollback.lines.length + s.cursor.row <
        (s.scrollback.lines ++ s.primary).length := by
      rw [List.length_append, hw.primary.length_eq]
      exact Nat.add_lt_add_left hw.row_lt _
    rw [htracked]
    obtain ⟨q, hq, hedge⟩ := exists_reflow_snd (max cols 1) s.cursor.col s.cursor.pendingWrap hrow
    rw [hq, pendingWrap_clamp]
    exact ⟨fun _ => rfl, fun _ => hedge⟩

/-! ## Runs -/

/-- **A step keeps a pending wrap in the last column** unless it strands it. -/
theorem waitsAtEdge_perform_iff (hw : s.WellFormed) (h : s.WaitsAtEdge) (op : Operation) :
    (s.perform op).WaitsAtEdge ↔ s.strands op = false := by
  have hstays : s.Stays (s.perform op) → s.strands op = false →
      ((s.perform op).WaitsAtEdge ↔ s.strands op = false) := fun hs hop =>
    ⟨fun _ => hop, fun _ => hs.waitsAtEdge h⟩
  cases op with
  | print c => exact ⟨fun _ => rfl, fun _ => h.print hw.cols_pos c⟩
  | resize cols rows => exact waitsAtEdge_resize_iff hw h cols rows
  | linefeed => exact hstays (.linefeed s) rfl
  | index => exact hstays (.index s) rfl
  | reverseIndex => exact hstays (.reverseIndex s) rfl
  | nextLine => exact hstays (.nextLine s) rfl
  | scrollUp n => exact hstays (.scrollUp s n) rfl
  | scrollDown n => exact hstays (.scrollDown s n) rfl
  | setMargins top bottom => exact hstays (.setMargins s top bottom) rfl
  | eraseInDisplay mode => exact hstays (.eraseInDisplay s mode) rfl
  | eraseInLine mode => exact hstays (.eraseInLine s mode) rfl
  | eraseChars n => exact hstays (.eraseCells s ..) rfl
  | insertLines n => exact hstays (.insertLines s n) rfl
  | deleteLines n => exact hstays (.deleteLines s n) rfl
  | insertChars n => exact hstays ((Stays.mapCells s ..).trans (.settle _)) rfl
  | deleteChars n => exact hstays ((Stays.mapCells s ..).trans (.settle _)) rfl
  | saveCursor => exact hstays (.saveCursor s) rfl
  | enterAlternate clear => exact hstays (.enterAlternate s clear) rfl
  | exitAlternate clear => exact hstays (.exitAlternate s clear) rfl
  | clearMargins | setTab | clearTab | clearTabs => exact hstays (.of_cursor_eq rfl rfl) rfl
  | setPen pen => exact hstays ⟨rfl, fun hp => ⟨hp, rfl⟩⟩ rfl
  | setFlag flag on =>
    cases flag with
    | pendingWrap =>
      rw [waitsAtEdge_iff]
      show (on = true → s.cursor.col + 1 = s.cols) ↔ (on && s.cursor.col + 1 != s.cols) = false
      cases on <;> simp
    | _ => exact hstays ⟨rfl, fun hp => ⟨hp, rfl⟩⟩ rfl
  -- what is left moves the cursor
  | _ => exact hstays (.of_settled (by first | rfl | exact cols_mapGrid _) rfl) rfl

theorem waitsAtEdge_initial (cols rows capacity : Nat) :
    (initial cols rows capacity).WaitsAtEdge :=
  waitsAtEdge_iff.mpr fun h => by cases h

end Screen

end Teletype

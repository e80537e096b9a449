import Teletype.Proofs.Screen.Printing
import Teletype.Proofs.Screen.Shifted

/-!
# What comes to the scrollback

Rows leave the screen at the top of a region that scrolls up, which printing and line feeds
do as well. A run is recorded together with every such step (`Recorded`), in the same words as
the operations themselves, and ends on the same screen (`Recorded.screen_perform`).

The scrollback is read off the record: behind the rows that it held before there are those
that left the top of the primary grid, in order, and the newest of all of these are kept
(`Recorded.Since`). Rows of the alternate grid, of a region further down and deleted rows are
not among them. Only the operations that write the scrollback anew do otherwise.
-/

namespace Teletype

/-- A region that scrolled up: where it was, and the rows that left it. -/
structure ScrolledUp where
  onAlternate : Bool
  top : Nat
  rows : List Line
  deriving Repr, DecidableEq

/-- Whether the rows left the top of the primary grid. -/
def ScrolledUp.isHistory (up : ScrolledUp) : Bool :=
  !up.onAlternate && up.top == 0

/-- The rows that left the top of the primary grid, the oldest first. -/
def history (ups : List ScrolledUp) : List Line :=
  (ups.filter ScrolledUp.isHistory).flatMap ScrolledUp.rows

/-- What `scrollUp` takes off the region. -/
def Screen.scrolledUp (s : Screen) (n : Nat) : ScrolledUp where
  onAlternate := s.onAlternate
  top := s.top
  rows := (s.grid.block s.top s.bottom).take n

/-- Whether the operation writes the scrollback anew. -/
def Screen.Operation.rewritesHistory : Screen.Operation → Bool
  | .resize _ _ | .reset => true
  | .eraseInDisplay mode => mode == 3
  | _ => false

/-- A screen, with all that scrolled up on the way to it. -/
structure Recorded where
  screen : Screen
  ups : List ScrolledUp := []

namespace Recorded

open Screen Scrollback

/-! ## Operations, recorded -/

/-- A step on which nothing scrolls up. -/
def map (r : Recorded) (f : Screen → Screen) : Recorded :=
  { r with screen := f r.screen }

/-- The step that is recorded. -/
def scrollUp (r : Recorded) (n : Nat) : Recorded where
  screen := r.screen.scrollUp n
  ups := r.ups ++ [r.screen.scrolledUp n]

def advance (r : Recorded) : Recorded :=
  if r.screen.cursor.row = r.screen.bottom then r.scrollUp 1
  else if r.screen.cursor.row + 1 < r.screen.rows then
    r.map (·.mapCursor fun c => { c with row := c.row + 1 })
  else r

def index (r : Recorded) : Recorded :=
  (r.map settle).advance

def nextLine (r : Recorded) : Recorded :=
  r.index.map (·.mapCursor fun c => { c with col := 0 })

def linefeed (r : Recorded) : Recorded :=
  if r.screen.modes.linefeedMode then r.nextLine else r.index

def wrap (r : Recorded) : Recorded :=
  let r := r.map fun s => s.mapRow s.cursor.row fun l => { l with wrapped := true }
  (r.map fun s => s.mapCursor (·.place 0 s.cursor.row)).advance

def print (r : Recorded) (c : Char) : Recorded :=
  let width := Text.charWidth c
  if width = 0 then r.map (·.combine c)
  else
    let r := if r.screen.cursor.pendingWrap && r.screen.cursor.autowrap then r.wrap else r
    if width = 2 && r.screen.cols ≤ r.screen.cursor.col + 1 then
      if !r.screen.cursor.autowrap || r.screen.cols < 2 then r
      else
        let r := r.map fun s => s.mapCells s.cursor.row (·.set s.cursor.col .blank)
        r.wrap.map (·.write c width)
    else r.map (·.write c width)

/-- Carries out an operation. On the others nothing scrolls up. -/
def perform (r : Recorded) : Operation → Recorded
  | .print c => r.print c
  | .linefeed => r.linefeed
  | .index => r.index
  | .nextLine => r.nextLine
  | .scrollUp n => r.scrollUp n
  | op => r.map (·.perform op)

/-- Carries out operations in order. -/
def performAll (r : Recorded) (ops : List Operation) : Recorded :=
  ops.foldl perform r

variable {r : Recorded} {s : Screen}

/-! ## The record changes nothing -/

theorem screen_advance (r : Recorded) : r.advance.screen = r.screen.advance := by
  unfold advance Screen.advance
  split
  next => rfl
  next =>
    split
    next => rfl
    next => rfl

theorem screen_index (r : Recorded) : r.index.screen = r.screen.index :=
  screen_advance _

theorem screen_nextLine (r : Recorded) : r.nextLine.screen = r.screen.nextLine :=
  congrArg (·.mapCursor fun c => { c with col := 0 }) (screen_index r)

theorem screen_linefeed (r : Recorded) : r.linefeed.screen = r.screen.linefeed := by
  unfold linefeed Screen.linefeed
  split
  · exact screen_nextLine r
  · exact screen_index r

theorem screen_wrap (r : Recorded) : r.wrap.screen = r.screen.wrap :=
  screen_advance _

theorem screen_print (r : Recorded) (c : Char) : (r.print c).screen = r.screen.print c := by
  have hbegun : (if r.screen.cursor.pendingWrap && r.screen.cursor.autowrap then r.wrap
      else r).screen = if r.screen.cursor.pendingWrap && r.screen.cursor.autowrap
      then r.screen.wrap else r.screen := by
    split
    · exact screen_wrap r
    · rfl
  simp only [print, Screen.print]
  split
  · rfl
  rw [← hbegun]
  generalize (if r.screen.cursor.pendingWrap && r.screen.cursor.autowrap then r.wrap else r) = t
  split
  · split
    · rfl
    · show (Recorded.wrap _).screen.write c _ = _
      rw [screen_wrap]
      rfl
  · rfl

/-- **A run that is recorded is the same run.** -/
theorem screen_perform (r : Recorded) (op : Operation) :
    (r.perform op).screen = r.screen.perform op := by
  cases op with
  | print c => exact screen_print r c
  | linefeed => exact screen_linefeed r
  | index => exact screen_index r
  | nextLine => exact screen_nextLine r
  | _ => rfl

theorem screen_performAll (r : Recorded) (ops : List Operation) :
    (r.performAll ops).screen = r.screen.performAll ops := by
  induction ops generalizing r with
  | nil => rfl
  | cons op rest ih =>
    show ((r.perform op).performAll rest).screen = (r.screen.perform op).performAll rest
    rw [ih, screen_perform]

end Recorded

/-! ## Operations that leave the scrollback alone -/

namespace Screen

variable {s : Screen}

theorem scrollback_combine (s : Screen) (c : Char) : (s.combine c).scrollback = s.scrollback := by
  unfold combine
  split
  · rfl
  · exact scrollback_mapGrid _ _

theorem scrollback_scrollDown (s : Screen) (n : Nat) :
    (s.scrollDown n).scrollback = s.scrollback := by
  simp only [scrollDown]
  split
  · rfl
  split
  · exact scrollback_mapGrid _ _
  · exact (scrollback_mapGrid _ _).trans (scrollback_mapGrid _ _)

theorem scrollback_eraseCells (s : Screen) (row first last : Nat) :
    (s.eraseCells row first last).scrollback = s.scrollback := by
  simp only [eraseCells]
  split
  · rfl
  · exact scrollback_mapGrid _ _

theorem scrollback_eraseRows (s : Screen) (first last : Nat) :
    (s.eraseRows first last).scrollback = s.scrollback := by
  unfold eraseRows
  induction List.range' first (last - first) generalizing s with
  | nil => rfl
  | cons row rest ih => exact (ih _).trans (scrollback_eraseCells s row 0 s.cols)

theorem scrollback_eraseInDisplay (s : Screen) {mode : Nat} (h : mode ≠ 3) :
    (s.eraseInDisplay mode).scrollback = s.scrollback := by
  simp only [eraseInDisplay]
  split
  · exact (scrollback_eraseRows _ _ _).trans (scrollback_eraseCells _ _ _ _)
  · exact (scrollback_eraseCells _ _ _ _).trans (scrollback_eraseRows _ _ _)
  · exact scrollback_eraseRows _ _ _
  · exact absurd rfl h
  · rfl

theorem scrollback_eraseInLine (s : Screen) (mode : Nat) :
    (s.eraseInLine mode).scrollback = s.scrollback := by
  simp only [eraseInLine]
  split
  · exact scrollback_eraseCells _ _ _ _
  · exact scrollback_eraseCells _ _ _ _
  · exact scrollback_eraseCells _ _ _ _
  · rfl

/-- Whether something may scroll up on the operation. -/
def Operation.mayScroll : Operation → Bool
  | .print _ | .linefeed | .index | .nextLine | .scrollUp _ => true
  | _ => false

theorem scrollback_perform {op : Operation} (hstill : op.mayScroll = false)
    (hop : op.rewritesHistory = false) : (s.perform op).scrollback = s.scrollback := by
  cases op with
  | print | linefeed | index | nextLine | scrollUp => cases hstill
  | resize | reset => cases hop
  | eraseInDisplay mode => exact scrollback_eraseInDisplay s (ne_of_beq_false hop)
  | scrollDown n => exact scrollback_scrollDown s n
  | eraseInLine mode => exact scrollback_eraseInLine s mode
  | eraseChars n => exact scrollback_eraseCells _ _ _ _
  | insertChars | deleteChars | alignmentTest => exact scrollback_mapGrid _ _
  | insertLines n =>
    show (s.insertLines n).scrollback = _
    unfold insertLines
    split
    · exact scrollback_mapGrid _ _
    · rfl
  | deleteLines n =>
    show (s.deleteLines n).scrollback = _
    unfold deleteLines
    split
    · exact scrollback_mapGrid _ _
    · rfl
  | reverseIndex =>
    show s.reverseIndex.scrollback = _
    simp only [reverseIndex]
    split
    · exact scrollback_scrollDown _ _
    · rfl
  | setMargins top bottom =>
    show (s.setMargins top bottom).scrollback = _
    simp only [setMargins]
    split <;> rfl
  | saveCursor =>
    show s.saveCursor.scrollback = _
    unfold saveCursor
    split <;> rfl
  | enterAlternate clear =>
    show (s.enterAlternate clear).scrollback = _
    unfold enterAlternate
    cases clear <;> split <;> rfl
  | exitAlternate clear =>
    show (s.exitAlternate clear).scrollback = _
    unfold exitAlternate
    cases clear <;> split <;> rfl
  | setFlag flag on => cases flag <;> rfl
  | _ => rfl

end Screen

namespace Recorded

open Screen Scrollback

variable {r : Recorded} {sb : Scrollback}

theorem pushAll_newest (sb : Scrollback) (xs ys : List Line) :
    { sb with lines := newest sb.capacity xs }.pushAll ys =
      { sb with lines := newest sb.capacity (xs ++ ys) } := by
  have hlines : ({ sb with lines := newest sb.capacity xs }.pushAll ys).lines =
      newest sb.capacity (xs ++ ys) := by
    rw [lines_pushAll]
    split
    next hnone => rw [List.isEmpty_iff.mp hnone, List.append_nil]
    next => exact newest_append_newest _ _ _
  have hcapacity : ({ sb with lines := newest sb.capacity xs }.pushAll ys).capacity =
      sb.capacity := capacity_pushAll _ _
  generalize { sb with lines := newest sb.capacity xs }.pushAll ys = after at hlines hcapacity
  rw [← hlines, ← hcapacity]

/-- The scrollback as the record tells it: the newest of the rows that it held and those
that left the top of the primary grid since. -/
def Since (sb : Scrollback) (r : Recorded) : Prop :=
  r.screen.scrollback = { sb with lines := newest sb.capacity (sb.lines ++ history r.ups) }

theorem history_append (xs ys : List ScrolledUp) :
    history (xs ++ ys) = history xs ++ history ys := by
  rw [history, List.filter_append, List.flatMap_append]
  rfl

/-- The rows that a scroll up hands on. -/
theorem leaving_eq_history (s : Screen) (n : Nat) :
    (if !s.onAlternate && s.top == 0 then s.primary.take (min n (s.bottom - s.top + 1)) else []) =
      history [s.scrolledUp n] := by
  cases hkept : (s.scrolledUp n).isHistory with
  | false =>
    rw [history, List.filter_cons_of_neg (Bool.eq_false_iff.mp hkept)]
    exact if_neg (Bool.eq_false_iff.mp hkept)
  | true =>
    have hplace : (!s.onAlternate && s.top == 0) = true := hkept
    obtain ⟨honPrimary, htop⟩ : s.onAlternate = false ∧ s.top = 0 := by simpa using hplace
    have hgrid : s.grid = s.primary := if_neg (Bool.eq_false_iff.mp honPrimary)
    rw [if_pos hplace, history, List.filter_cons_of_pos hkept, List.filter_nil,
      List.flatMap_singleton, scrolledUp, hgrid, htop, Grid.block, List.drop_zero, List.take_take]
    rfl

namespace Since

/-- Before the first step. -/
theorem start (hs : s.WellFormed) : Since s.scrollback { screen := s } := by
  have hall : newest s.scrollback.capacity (s.scrollback.lines ++ history []) =
      s.scrollback.lines := by
    show newest _ (_ ++ []) = _
    rw [List.append_nil, newest, Nat.sub_eq_zero_of_le hs.bounded, List.drop_zero]
  unfold Since
  rw [hall]

theorem map (h : Since sb r) {f : Screen → Screen}
    (hf : (f r.screen).scrollback = r.screen.scrollback) : Since sb (r.map f) :=
  hf.trans h

/-- What leaves the top of the primary grid is kept, and nothing else is. -/
theorem scrollUp (h : Since sb r) (n : Nat) : Since sb (r.scrollUp n) := by
  show (r.screen.scrollUp n).scrollback = _
  rw [scrollback_scrollUp, leaving_eq_history, h, pushAll_newest, List.append_assoc,
    ← history_append]
  rfl

theorem advance (h : Since sb r) : Since sb r.advance := by
  unfold Recorded.advance
  split
  · exact h.scrollUp 1
  split
  · exact h.map rfl
  · exact h

theorem index (h : Since sb r) : Since sb r.index :=
  advance (h.map rfl)

theorem nextLine (h : Since sb r) : Since sb r.nextLine :=
  h.index.map rfl

theorem linefeed (h : Since sb r) : Since sb r.linefeed := by
  unfold Recorded.linefeed
  split
  · exact h.nextLine
  · exact h.index

theorem wrap (h : Since sb r) : Since sb r.wrap :=
  advance ((h.map (scrollback_mapGrid _ _)).map rfl)

theorem print (h : Since sb r) (c : Char) : Since sb (r.print c) := by
  have hbegun : Since sb (if r.screen.cursor.pendingWrap && r.screen.cursor.autowrap then r.wrap
      else r) := by
    split
    · exact h.wrap
    · exact h
  simp only [Recorded.print]
  split
  · exact h.map (scrollback_combine _ c)
  generalize (if r.screen.cursor.pendingWrap && r.screen.cursor.autowrap then r.wrap else r) = t
    at hbegun
  split
  · split
    · exact hbegun
    · exact ((hbegun.map (scrollback_mapGrid _ _)).wrap).map (scrollback_write _ c _)
  · exact hbegun.map (scrollback_write _ c _)

/-- **One step**: the scrollback stays as the record tells it. -/
theorem perform (h : Since sb r) {op : Operation} (hop : op.rewritesHistory = false) :
    Since sb (r.perform op) := by
  cases op with
  | print c => exact h.print c
  | linefeed => exact h.linefeed
  | index => exact h.index
  | nextLine => exact h.nextLine
  | scrollUp n => exact h.scrollUp n
  | resize | reset => cases hop
  | _ => exact h.map (scrollback_perform rfl hop)

/-- **A whole run.** -/
theorem performAll (h : Since sb r) {ops : List Operation}
    (hops : ∀ op ∈ ops, op.rewritesHistory = false) : Since sb (r.performAll ops) := by
  induction ops generalizing r with
  | nil => exact h
  | cons op rest ih =>
    exact ih (h.perform (hops op List.mem_cons_self)) fun o ho => hops o (List.mem_cons_of_mem _ ho)

end Since

/-- **What a run leaves in the scrollback**: the newest of the rows that it held and those
that left the top of the primary grid. -/
theorem scrollback_performAll (hs : s.WellFormed) {ops : List Operation}
    (hops : ∀ op ∈ ops, op.rewritesHistory = false) :
    let r : Recorded := { screen := s }
    (s.performAll ops).scrollback = { s.scrollback with
      lines := newest s.scrollback.capacity
        (s.scrollback.lines ++ history (r.performAll ops).ups) } := by
  intro r
  have hsince : Since s.scrollback (r.performAll ops) := (Since.start hs).performAll hops
  have hscreen : (r.performAll ops).screen = s.performAll ops := screen_performAll r ops
  exact hscreen ▸ hsince

end Recorded

namespace Screen

/-- **Moving rows loses nothing but what it must.** On every screen that can come about, a
motion of rows shifts its block and leaves the cells of all other rows and the other grid
alone; and an operation that does not write the scrollback anew adds to it, in order, just
the rows that scrolled off the top of the primary grid, and keeps the newest. -/
theorem rows_move_or_leave (cols rows capacity : Nat) (ops : List Operation) :
    let s := (initial cols rows capacity).performAll ops
    (∀ (m : RowMotion) (n : Nat), m.applies s = true →
      s.grid.Shifted (s.perform (m.operation n)).grid (m.first s) s.bottom (m.moved s n) ∧
        (s.perform (m.operation n)).hidden = s.hidden) ∧
    ∀ op : Operation, op.rewritesHistory = false →
      let r := Recorded.perform { screen := s } op
      r.screen = s.perform op ∧
        (s.perform op).scrollback = { s.scrollback with
          lines := Scrollback.newest s.scrollback.capacity
            (s.scrollback.lines ++ history r.ups) } := by
  intro s
  have hs : s.WellFormed := (wellFormed_initial cols rows capacity).performAll ops
  refine ⟨fun m n ha => ⟨RowMotion.shifted_perform hs ha n, RowMotion.hidden_perform m s n⟩, ?_⟩
  intro op hop r
  have hone : ∀ o ∈ [op], o.rewritesHistory = false := fun o ho => List.mem_singleton.mp ho ▸ hop
  exact ⟨Recorded.screen_perform _ op, Recorded.scrollback_performAll hs hone⟩

/-- The last of two full rows is deleted and comes to nothing; if it is written past its end
instead, the first one goes to the scrollback. -/
theorem rows_move_or_leave_full :
    let s := (initial 2 2 1).performAll ("abcd".toList.map .print)
    RowMotion.deleteLines.applies s = true ∧
      (s.perform (RowMotion.deleteLines.operation 5)).grid.block 1 1 = [.blank 2] ∧
      (Operation.print 'e').rewritesHistory = false ∧
      (s.perform (.print 'e')).scrollback.lines.map Line.text = ["ab"] := by
  intro s
  have hlaw := rows_move_or_leave 2 2 1 ("abcd".toList.map .print)
  have happlies : RowMotion.deleteLines.applies s = true := by decide +kernel
  refine ⟨happlies, ?_, rfl, ?_⟩
  · exact (hlaw.1 .deleteLines 5 happlies).1.block_eq.trans (by decide +kernel)
  · have hhistory := (hlaw.2 (.print 'e') rfl).2
    show List.map Line.text (s.perform (.print 'e')).scrollback.lines = _
    rw [hhistory]
    decide +kernel

end Screen

end Teletype

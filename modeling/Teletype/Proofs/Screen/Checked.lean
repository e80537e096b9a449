import Teletype.Proofs.Reflow.Checked
import Teletype.Proofs.Row.Checked
import Teletype.Proofs.Screen.Tabs
import Teletype.Proofs.Screen.WellFormed

/-!
# Operations on a screen, checked

Every operation again, as the steps it takes on the rows, the margins and the
tab stops: each difference, index, slice and rotation is one that can fail. On
a well-formed screen none of them does, and the result is the operation's
(`perform?_eq`). As operations keep a screen well formed, no run ever leaves the
screen (`performAll?_eq`).
-/

namespace Teletype.Screen

open Access

/-! ## Updates -/

/-- Changes the grid on display, if the change has a result. -/
def mapGrid? (s : Screen) (f : Grid → Option Grid) : Option Screen :=
  (f s.grid).map fun g => s.mapGrid fun _ => g

/-- Changes a row on display, if there is such a row. -/
def mapRow? (s : Screen) (row : Nat) (f : Line → Option Line) : Option Screen :=
  s.mapGrid? fun g =>
    match g[row]? with
    | none => some g
    | some l => (f l).map (g.set row)

/-- Changes the cells of a row on display, if there is such a row. -/
def mapCells? (s : Screen) (row : Nat) (f : List Cell → Option (List Cell)) : Option Screen :=
  s.mapRow? row fun l => (f l.cells).map fun cells => { l with cells }

/-! ## Moving the cursor -/

/-- A new screen. -/
def initial? (cols rows capacity : Nat) : Option Screen := do
  let bottom ← sub? (max rows 1) 1
  return { initial cols rows capacity with bottom }

def moveTo? (s : Screen) (row col : Nat) : Option Screen := do
  let row ← if s.cursor.originMode then some (min (s.top + row) s.bottom)
    else (sub? s.rows 1).map (min row)
  let last ← sub? s.cols 1
  return s.mapCursor (·.place (min col last) row)

def moveToCol? (s : Screen) (col : Nat) : Option Screen := do
  let last ← sub? s.cols 1
  return s.mapCursor fun c => c.place (min col last) c.row

def tabForward? (s : Screen) (n : Nat) : Option Screen := do
  let col ← moves? s.nextStop? n s.cursor.col
  return s.mapCursor fun c => c.place col c.row

def tabBackward? (s : Screen) (n : Nat) : Option Screen := do
  let col ← moves? s.previousStop? n s.cursor.col
  return s.mapCursor fun c => c.place col c.row

/-- Sets or clears the tab stop in the column of the cursor. -/
def putTab? (s : Screen) (stop : Bool) : Option Screen := do
  let tabs ← set? s.cursor.col stop s.tabs
  return { s with tabs }

def clearMargins? (s : Screen) : Option Screen := do
  let bottom ← sub? s.rows 1
  return { s with top := 0, bottom }

def setMargins? (s : Screen) (top bottom : Nat) : Option Screen := do
  let last ← sub? s.rows 1
  let bottom := min bottom last
  let s ← if top < bottom then some { s with top, bottom } else s.clearMargins?
  s.moveTo? 0 0

/-! ## Moving rows -/

def scrollUp? (s : Screen) (n : Nat) : Option Screen := do
  let span ← sub? s.bottom s.top
  let n := min n (span + 1)
  let leaving ← slice? s.top (s.top + n) s.grid
  let shifted ← s.mapGrid? fun g =>
    (within? s.top (s.top + n) (overwrite (.blank s.cols)) g).bind
      (within? s.top (s.bottom + 1) (rotateLeft? n))
  return { shifted with
    scrollback := s.scrollback.pushAll (if !s.onAlternate && s.top == 0 then leaving else []) }

/-- The rows from `top` to the bottom margin, rotated down and the first `n`
overwritten. -/
def openRows? (s : Screen) (top n : Nat) : Option Screen :=
  s.mapGrid? fun g =>
    (within? top (s.bottom + 1) (rotateRight? n) g).bind
      (within? top (top + n) (overwrite (.blank s.cols)))

def scrollDown? (s : Screen) (n : Nat) : Option Screen := do
  let span ← sub? s.bottom s.top
  let n := min n (span + 1)
  if n = 0 then return s
  else
    let shifted ← s.openRows? s.top n
    if s.top = 0 then return shifted
    else
      let above ← sub? s.top 1
      shifted.mapGrid? fun g => do
        let l ← g[above]?
        set? above { l with wrapped := false } g

def insertLines? (s : Screen) (n : Nat) : Option Screen :=
  if s.inMargins then do
    let span ← sub? s.bottom s.cursor.row
    let opened ← s.openRows? s.cursor.row (min n (span + 1))
    return opened.carriageReturn
  else some s

def deleteLines? (s : Screen) (n : Nat) : Option Screen :=
  if s.inMargins then do
    let span ← sub? s.bottom s.cursor.row
    let n := min n (span + 1)
    let kept ← sub? (s.bottom + 1) n
    let closed ← s.mapGrid? fun g =>
      (within? s.cursor.row (s.bottom + 1) (rotateLeft? n) g).bind
        (within? kept (s.bottom + 1) (overwrite (.blank s.cols)))
    return closed.carriageReturn
  else some s

def advance? (s : Screen) : Option Screen :=
  if s.cursor.row = s.bottom then s.scrollUp? 1
  else if s.cursor.row + 1 < s.rows then some (s.mapCursor fun c => { c with row := c.row + 1 })
  else some s

def reverseIndex? (s : Screen) : Option Screen :=
  let s := s.settle
  if s.cursor.row = s.top then s.scrollDown? 1
  else if 0 < s.cursor.row then
    (sub? s.cursor.row 1).map fun row => s.mapCursor fun c => { c with row }
  else some s

def nextLine? (s : Screen) : Option Screen :=
  s.settle.advance?.map fun s => s.mapCursor fun c => { c with col := 0 }

def linefeed? (s : Screen) : Option Screen :=
  if s.modes.linefeedMode then s.nextLine? else s.settle.advance?

/-! ## Printing -/

def wrap? (s : Screen) : Option Screen :=
  let s := s.mapRow s.cursor.row fun l => { l with wrapped := true }
  (s.mapCursor (·.place 0 s.cursor.row)).advance?

/-- The column of the character before the cursor, if there is one. -/
def stepBack? (s : Screen) : Option (Option Nat) :=
  if s.cursor.pendingWrap then some (some s.cursor.col)
  else if 0 < s.cursor.col then (sub? s.cursor.col 1).map some
  else some none

def combine? (s : Screen) (mark : Char) : Option Screen :=
  s.stepBack?.bind fun
    | none => some s
    | some col =>
      (if 0 < col && (s.cell? col s.cursor.row).any (·.tail) then sub? col 1 else some col).map
        fun col => s.mapCells s.cursor.row (·.modify col (·.combine mark))

def moveOn? (s : Screen) (width : Nat) : Option Screen :=
  if s.cols ≤ s.cursor.col + width then
    (sub? s.cols 1).map fun last =>
      s.mapCursor fun c => { c with col := last, pendingWrap := c.autowrap }
  else some (s.mapCursor fun c => { c with col := c.col + width })

/-- Opens the cells to be written in insert mode. -/
def makeRoom? (s : Screen) (width : Nat) : Option Screen :=
  if s.cursor.insertMode then
    s.mapCells? s.cursor.row (Row.openAt? s.cols s.cursor.col width)
  else some s

def write? (s : Screen) (c : Char) (width : Nat) : Option Screen := do
  let { col, row, pen, .. } := s.cursor
  let opened ← s.makeRoom? width
  let written ← opened.mapCells? row (Row.write? col c (width == 2) pen)
  written.moveOn? width

/-- Wraps if a wrap is pending. -/
def wrapPending? (s : Screen) : Option Screen :=
  if s.cursor.pendingWrap && s.cursor.autowrap then s.wrap? else some s

def print? (s : Screen) (c : Char) : Option Screen :=
  let width := Text.charWidth c
  if width = 0 then s.combine? c
  else
    s.wrapPending?.bind fun s =>
      if width = 2 && s.cols ≤ s.cursor.col + 1 then
        if !s.cursor.autowrap || s.cols < 2 then some s
        else (s.mapCells s.cursor.row (·.set s.cursor.col .blank)).wrap?.bind (·.write? c width)
      else s.write? c width

/-! ## Erasing -/

def eraseCells? (s : Screen) (row first last : Nat) : Option Screen :=
  let last := min last s.cols
  if last ≤ first then some s
  else
    s.settle.mapRow? row fun l =>
      (Row.erase? first last s.cursor.pen.bg l.cells).map fun cells =>
        { cells, wrapped := l.wrapped && last ≠ s.cols }

def eraseRows? (s : Screen) (first last : Nat) : Option Screen :=
  (List.range' first (last - first)).foldlM (fun s row => s.eraseCells? row 0 s.cols) s

def eraseInDisplay? (s : Screen) (mode : Nat) : Option Screen :=
  let { col, row, .. } := s.cursor
  match mode with
  | 0 => (s.eraseCells? row col s.cols).bind (·.eraseRows? (row + 1) s.rows)
  | 1 => (s.eraseRows? 0 row).bind (·.eraseCells? row 0 (col + 1))
  | 2 => s.eraseRows? 0 s.rows
  | 3 => some { s with scrollback := s.scrollback.clear }
  | _ => some s

def eraseInLine? (s : Screen) (mode : Nat) : Option Screen :=
  let { col, row, .. } := s.cursor
  match mode with
  | 0 => s.eraseCells? row col s.cols
  | 1 => s.eraseCells? row 0 (col + 1)
  | 2 => s.eraseCells? row 0 s.cols
  | _ => some s

def insertChars? (s : Screen) (n : Nat) : Option Screen :=
  (s.mapCells? s.cursor.row (Row.openAt? s.cols s.cursor.col n)).map settle

def deleteChars? (s : Screen) (n : Nat) : Option Screen :=
  (s.mapCells? s.cursor.row (Row.closeAt? s.cols s.cursor.col n)).map settle

/-! ## Grids, resets and sizes -/

def alignmentTest? (s : Screen) : Option Screen := do
  let s ← (s.mapGrid (·.map fun l => { cells := l.cells.map fun _ => .written 'E' {} })).clearMargins?
  s.moveTo? 0 0

def reset? (s : Screen) : Option Screen := do
  let bottom ← sub? s.rows 1
  return { s.reset with bottom }

def softReset? (s : Screen) : Option Screen := do
  let bottom ← sub? s.rows 1
  return { s.softReset with bottom }

/-- The rows of a text up to the last one that the grid has room for. -/
def cutBelow? (rows first : Nat) (lines : List Line) : Option (List Line) :=
  if first + rows < lines.length then
    ((sub? lines.length first).bind (sub? · rows)).map fun _ => lines.take (first + rows)
  else some lines

/-- The cursor at its place among the rows from number `first` on. -/
def carried? (c : Cursor) (first : Nat) : Option Position → Option Cursor
  | some p => (sub? p.row first).map fun row =>
    { c with row, col := p.col, pendingWrap := p.pendingWrap }
  | none => some c

def resize? (s : Screen) (cols rows : Nat) : Option Screen :=
  let cols := max cols 1
  let rows := max rows 1
  if cols = s.cols && rows = s.rows then some s
  else do
    let (lines, cursor) ← reflow? cols (s.scrollback.lines ++ s.primary) s.trackedCursor?
    let first := firstShown lines.length rows cursor
    let kept ← cutBelow? rows first lines
    let above ← slice? 0 first kept
    let shown ← slice? first kept.length kept
    let bottom ← sub? rows 1
    let moved ← carried? s.cursor first cursor
    return { s with
      cols, rows, bottom
      primary := fitRows cols rows shown
      alternate := fitRows cols rows (s.alternate.map (·.resize cols))
      scrollback := s.scrollback.clear.pushAll above
      cursor := moved.clamp cols rows
      top := 0
      tabs := initialTabs cols }

/-! ## All operations -/

/-- Carries out an operation, if all it reaches for is there. -/
def perform? (s : Screen) : Operation → Option Screen
  | .print c => s.print? c
  | .linefeed => s.linefeed?
  | .index => s.settle.advance?
  | .reverseIndex => s.reverseIndex?
  | .nextLine => s.nextLine?
  | .tabForward n => s.tabForward? n
  | .tabBackward n => s.tabBackward? n
  | .scrollUp n => s.scrollUp? n
  | .scrollDown n => s.scrollDown? n
  | .setMargins top bottom => s.setMargins? top bottom
  | .clearMargins => s.clearMargins?
  | .setTab => s.putTab? true
  | .clearTab => s.putTab? false
  | .eraseInDisplay mode => s.eraseInDisplay? mode
  | .eraseInLine mode => s.eraseInLine? mode
  | .eraseChars n => s.eraseCells? s.cursor.row s.cursor.col (s.cursor.col + n)
  | .insertLines n => s.insertLines? n
  | .deleteLines n => s.deleteLines? n
  | .insertChars n => s.insertChars? n
  | .deleteChars n => s.deleteChars? n
  | .moveTo row col => s.moveTo? row col
  | .moveToCol col => s.moveToCol? col
  | .moveToRow row => s.moveTo? row s.cursor.col
  | .alignmentTest => s.alignmentTest?
  | .resize cols rows => s.resize? cols rows
  | .reset => s.reset?
  | .softReset => s.softReset?
  -- the others reach for nothing
  | op => some (s.perform op)

/-- Carries out operations in order, as long as all they reach for is there. -/
def performAll? (s : Screen) (ops : List Operation) : Option Screen :=
  ops.foldlM perform? s

/-! ## Nothing is out of range -/

variable {s : Screen}

theorem mapGrid?_eq {f : Grid → Option Grid} {k : Grid → Grid} (h : f s.grid = some (k s.grid)) :
    s.mapGrid? f = some (s.mapGrid k) := by
  rw [mapGrid?, h, Option.map_some]
  unfold mapGrid grid
  split <;> rfl

theorem mapRow?_eq {row : Nat} {f : Line → Option Line} {k : Line → Line}
    (h : ∀ l, s.grid[row]? = some l → f l = some (k l)) :
    s.mapRow? row f = some (s.mapRow row k) := by
  refine mapGrid?_eq (k := (·.modify row k)) ?_
  cases hl : s.grid[row]? with
  | none =>
    show some s.grid = some (s.grid.modify row k)
    rw [List.modify_eq_self (List.getElem?_eq_none_iff.mp hl)]
  | some l =>
    show (f l).map (s.grid.set row) = some (s.grid.modify row k)
    rw [h l hl, Option.map_some, List.modify_eq_set, hl]
    rfl

/-- A row that is there no longer runs on. -/
theorem endRow?_eq {row : Nat} (h : row < s.grid.length) :
    (s.mapGrid? fun g => g[row]?.bind fun l => set? row { l with wrapped := false } g) =
      some (s.mapRow row fun l => { l with wrapped := false }) := by
  refine mapGrid?_eq (k := (·.modify row fun l => { l with wrapped := false })) ?_
  rw [List.modify_eq_set, List.getElem?_eq_getElem h, Option.bind_some, Option.getD_some]
  exact set?_eq _ h

namespace WellFormed

theorem mapCells?_eq (h : s.WellFormed) (row : Nat) {f : List Cell → Option (List Cell)}
    {k : List Cell → List Cell} (hf : ∀ cells, cells.length = s.cols → f cells = some (k cells)) :
    s.mapCells? row f = some (s.mapCells row k) := by
  refine mapRow?_eq fun l hl => ?_
  rw [hf _ (h.grid.length_cells l (List.mem_of_getElem? hl)), Option.map_some]

theorem sub?_cols (h : s.WellFormed) : sub? s.cols 1 = some (s.cols - 1) :=
  sub?_eq h.cols_pos

theorem sub?_rows (h : s.WellFormed) : sub? s.rows 1 = some (s.rows - 1) :=
  sub?_eq h.rows_pos

/-! ## The cursor, the margins and the tab stops -/

theorem moveTo?_eq (h : s.WellFormed) (row col : Nat) :
    s.moveTo? row col = some (s.moveTo row col) := by
  unfold moveTo? Screen.moveTo
  rw [h.sub?_cols, h.sub?_rows]
  split <;> rfl

theorem moveToCol?_eq (h : s.WellFormed) (col : Nat) :
    s.moveToCol? col = some (s.moveToCol col) := by
  rw [moveToCol?, h.sub?_cols]
  rfl

theorem tabForward?_eq (h : s.WellFormed) (n : Nat) :
    s.tabForward? n = some (s.tabForward n) := by
  rw [tabForward?, moves?_nextStop? h.tabs n h.col_lt]
  rfl

theorem tabBackward?_eq (h : s.WellFormed) (n : Nat) :
    s.tabBackward? n = some (s.tabBackward n) := by
  rw [tabBackward?, moves?_previousStop? h.tabs n h.col_lt]
  rfl

theorem putTab?_eq (h : s.WellFormed) (stop : Bool) :
    s.putTab? stop = some { s with tabs := s.tabs.set s.cursor.col stop } := by
  rw [putTab?, set?_eq stop (by rw [h.tabs]; exact h.col_lt)]
  rfl

theorem clearMargins?_eq (h : s.WellFormed) : s.clearMargins? = some s.clearMargins := by
  rw [clearMargins?, h.sub?_rows]
  rfl

theorem setMargins?_eq (h : s.WellFormed) (top bottom : Nat) :
    s.setMargins? top bottom = some (s.setMargins top bottom) := by
  have hr := h.rows_pos
  rw [setMargins?, Screen.setMargins, h.sub?_rows, h.clearMargins?_eq]
  simp only [Option.bind_eq_bind, Option.bind_some]
  split
  · exact (h.withMargins (by omega) (by omega)).moveTo?_eq 0 0
  · exact h.clearMargins.moveTo?_eq 0 0

/-! ## Rows that move -/

/-- Taking rows out above the bottom margin, in whichever order the room they
leave is cleared. -/
theorem shiftUp?_eq (h : s.WellFormed) {top n : Nat} (hn : top + n ≤ s.bottom + 1) :
    (s.mapGrid? fun g => (within? top (top + n) (overwrite (.blank s.cols)) g).bind
        (within? top (s.bottom + 1) (rotateLeft? n))) =
      some (s.mapGrid (·.shiftUp top s.bottom n (.blank s.cols))) := by
  have hb := h.bottom_lt
  have hlen := h.grid.length_eq
  exact mapGrid?_eq (overwrite_rotateLeft _ hn (by omega))

theorem openRows?_eq (h : s.WellFormed) {top n : Nat} (hn : top + n ≤ s.bottom + 1) :
    s.openRows? top n = some (s.mapGrid (·.shiftDown top s.bottom n (.blank s.cols))) := by
  have hb := h.bottom_lt
  have hlen := h.grid.length_eq
  exact mapGrid?_eq (rotateRight_overwrite _ hn (by omega))

theorem scrollUp?_eq (h : s.WellFormed) (n : Nat) : s.scrollUp? n = some (s.scrollUp n) := by
  have ht := h.top_le
  have hb := h.bottom_lt
  have hlen := h.grid.length_eq
  unfold scrollUp? Screen.scrollUp
  rw [sub?_eq ht]
  simp only [Option.bind_eq_bind, Option.bind_some]
  rw [slice?_eq (Nat.le_add_right _ _) (by omega), h.shiftUp?_eq (by omega)]
  simp only [Option.bind_some, Option.pure_def]
  -- only rows that leave the top of the primary grid are kept
  by_cases hkept : (!s.onAlternate && s.top == 0) = true
  · obtain ⟨hprimary, htop⟩ := Bool.and_eq_true_iff.mp hkept
    have hgrid : s.grid = s.primary := if_neg (by simpa using hprimary)
    rw [if_pos hkept, if_pos hkept, eq_of_beq htop, hgrid, List.drop_zero, Nat.zero_add]
  · rw [if_neg hkept, if_neg hkept]

theorem scrollDown?_eq (h : s.WellFormed) (n : Nat) : s.scrollDown? n = some (s.scrollDown n) := by
  have ht := h.top_le
  have hb := h.bottom_lt
  unfold scrollDown? Screen.scrollDown
  rw [sub?_eq ht]
  simp only [Option.bind_eq_bind, Option.bind_some, Option.pure_def]
  split
  · rfl
  · rw [h.openRows?_eq (by omega), Option.bind_some]
    have ht' := top_mapGrid (s := s)
      (·.shiftDown s.top s.bottom (min n (s.bottom - s.top + 1)) (.blank s.cols))
    have hgrid := (h.shiftDown s.top (min n (s.bottom - s.top + 1)) (by omega)).grid.length_eq
    rw [rows_mapGrid] at hgrid
    generalize s.mapGrid _ = t at ht' hgrid
    rw [← ht'] at ht ⊢
    split
    · rfl
    · rw [sub?_eq (by omega), Option.bind_some]
      exact endRow?_eq (by omega)

theorem insertLines?_eq (h : s.WellFormed) (n : Nat) :
    s.insertLines? n = some (s.insertLines n) := by
  unfold insertLines? Screen.insertLines
  split
  · next hm =>
    simp only [inMargins, Bool.and_eq_true, decide_eq_true_eq] at hm
    rw [sub?_eq hm.2]
    simp only [Option.bind_eq_bind, Option.bind_some]
    rw [h.openRows?_eq (by omega)]
    rfl
  · rfl

theorem deleteLines?_eq (h : s.WellFormed) (n : Nat) :
    s.deleteLines? n = some (s.deleteLines n) := by
  have hb := h.bottom_lt
  have hlen := h.grid.length_eq
  unfold deleteLines? Screen.deleteLines
  split
  · next hm =>
    simp only [inMargins, Bool.and_eq_true, decide_eq_true_eq] at hm
    rw [sub?_eq hm.2]
    simp only [Option.bind_eq_bind, Option.bind_some]
    have hfit : s.cursor.row + min n (s.bottom - s.cursor.row + 1) ≤ s.bottom + 1 := by omega
    have hgrid : s.bottom + 1 ≤ s.grid.length := by omega
    have hclose := rotateLeft_overwrite (Line.blank s.cols) hfit hgrid
    rw [sub?_eq (by omega), Option.bind_some,
      mapGrid?_eq (k := (·.shiftUp s.cursor.row s.bottom _ (.blank s.cols))) hclose]
    rfl
  · rfl

/-! ## Feeding lines -/

theorem advance?_eq (h : s.WellFormed) : s.advance? = some s.advance := by
  unfold advance? Screen.advance
  split
  · exact h.scrollUp?_eq 1
  · split <;> rfl

theorem reverseIndex?_eq (h : s.WellFormed) : s.reverseIndex? = some s.reverseIndex := by
  unfold reverseIndex? Screen.reverseIndex
  have hs := h.settle
  dsimp only
  generalize s.settle = t at hs
  split
  · exact hs.scrollDown?_eq 1
  · split
    · next hrow =>
      rw [sub?_eq hrow]
      rfl
    · next hrow =>
      have hstay : t.cursor.row - 1 = t.cursor.row := by omega
      show some t = some (t.mapCursor fun c => { c with row := t.cursor.row - 1 })
      rw [hstay]
      rfl

theorem nextLine?_eq (h : s.WellFormed) : s.nextLine? = some s.nextLine := by
  rw [nextLine?, h.settle.advance?_eq]
  rfl

theorem linefeed?_eq (h : s.WellFormed) : s.linefeed? = some s.linefeed := by
  unfold linefeed? Screen.linefeed
  split
  · exact h.nextLine?_eq
  · exact h.settle.advance?_eq

/-! ## Printing -/

theorem wrap?_eq (h : s.WellFormed) : s.wrap? = some s.wrap := by
  have hm := h.mapRow s.cursor.row (f := fun l => { l with wrapped := true }) fun l hl => hl
  exact hm.carriageReturn.advance?_eq

theorem stepBack?_eq : s.stepBack? = some s.columnBefore? := by
  unfold stepBack? columnBefore?
  split
  · rfl
  · by_cases hcol : s.cursor.col = 0
    · rw [if_neg (by omega), if_pos hcol]
    · rw [if_pos (by omega), if_neg hcol, sub?_eq (by omega), Option.map_some]

theorem combine?_eq (mark : Char) : s.combine? mark = some (s.combine mark) := by
  unfold combine? Screen.combine
  rw [stepBack?_eq, Option.bind_some]
  cases s.columnBefore? with
  | none => rfl
  | some col =>
    dsimp only
    by_cases htail : (0 < col && (s.cell? col s.cursor.row).any (·.tail)) = true
    · have hcol : 0 < col := of_decide_eq_true (Bool.and_eq_true_iff.mp htail).1
      rw [if_pos htail, if_pos htail, sub?_eq hcol, Option.map_some]
    · rw [if_neg htail, if_neg htail, Option.map_some]

theorem moveOn?_eq (h : s.WellFormed) (width : Nat) : s.moveOn? width = some (s.moveOn width) := by
  unfold moveOn? Screen.moveOn mapCursor
  dsimp only
  rw [h.sub?_cols, Option.map_some]
  split <;> rfl

theorem makeRoom?_eq (h : s.WellFormed) (width : Nat) :
    s.makeRoom? width = some (if s.cursor.insertMode then
      s.mapCells s.cursor.row (Row.openAt s.cursor.col width) else s) := by
  unfold makeRoom?
  split
  · exact h.mapCells?_eq _ fun cells hl => Row.openAt?_eq hl _ _
  · rfl

theorem makeRoom (h : s.WellFormed) (width : Nat) :
    (if s.cursor.insertMode then s.mapCells s.cursor.row (Row.openAt s.cursor.col width)
      else s).WellFormed := by
  split
  · exact h.mapCells _ fun cells hl => by rw [Row.length_openAt, hl]
  · exact h

theorem write?_eq (h : s.WellFormed) (c : Char) (width : Nat) :
    s.write? c width = some (s.write c width) := by
  have hroom := h.makeRoom width
  unfold write?
  rw [h.makeRoom?_eq]
  simp only [Option.bind_eq_bind, Option.bind_some]
  rw [hroom.mapCells?_eq _ fun cells _ => Row.write?_eq .., Option.bind_some]
  exact (hroom.mapCells _ fun cells hl => by rw [Row.length_write, hl]).moveOn?_eq width

theorem wrapPending (h : s.WellFormed) :
    (if s.cursor.pendingWrap && s.cursor.autowrap then s.wrap else s).WellFormed := by
  split
  · exact h.wrap
  · exact h

theorem wrapPending?_eq (h : s.WellFormed) :
    s.wrapPending? = some (if s.cursor.pendingWrap && s.cursor.autowrap then s.wrap else s) := by
  unfold wrapPending?
  split
  · exact h.wrap?_eq
  · rfl

theorem print?_eq (h : s.WellFormed) (c : Char) : s.print? c = some (s.print c) := by
  have hw := h.wrapPending
  unfold print? Screen.print
  dsimp only
  split
  · exact combine?_eq c
  · rw [h.wrapPending?_eq, Option.bind_some]
    generalize (if s.cursor.pendingWrap && s.cursor.autowrap then s.wrap else s) = t at hw
    split
    · split
      · rfl
      · have hm : (t.mapCells t.cursor.row (·.set t.cursor.col .blank)).WellFormed :=
          hw.mapCells _ fun cells hl => by rw [List.length_set, hl]
        rw [hm.wrap?_eq, Option.bind_some]
        exact hm.wrap.write?_eq c _
    · exact hw.write?_eq c _

/-! ## Erasing -/

theorem eraseCells?_eq (h : s.WellFormed) (row first last : Nat) :
    s.eraseCells? row first last = some (s.eraseCells row first last) := by
  unfold eraseCells? Screen.eraseCells
  dsimp only
  split
  · rfl
  · refine mapRow?_eq fun l hl => ?_
    have hlen := h.settle.grid.length_cells l (List.mem_of_getElem? hl)
    have hcols : l.cells.length = s.cols := hlen
    rw [Row.erase?_eq _ (by omega) (by omega), Option.map_some]

theorem eraseRows?_eq (h : s.WellFormed) (first last : Nat) :
    s.eraseRows? first last = some (s.eraseRows first last) := by
  unfold eraseRows? Screen.eraseRows
  generalize List.range' first (last - first) = rows
  induction rows generalizing s with
  | nil => rfl
  | cons row rest ih =>
    rw [List.foldlM_cons, h.eraseCells?_eq, List.foldl_cons, Option.bind_eq_bind, Option.bind_some]
    exact ih (h.eraseCells row 0 s.cols)

theorem eraseInDisplay?_eq (h : s.WellFormed) :
    ∀ mode, s.eraseInDisplay? mode = some (s.eraseInDisplay mode)
  | 0 => by
    show (s.eraseCells? ..).bind _ = _
    rw [h.eraseCells?_eq, Option.bind_some, (h.eraseCells ..).eraseRows?_eq]
    rfl
  | 1 => by
    show (s.eraseRows? ..).bind _ = _
    rw [h.eraseRows?_eq, Option.bind_some, (h.eraseRows ..).eraseCells?_eq]
    rfl
  | 2 => h.eraseRows?_eq ..
  | 3 => rfl
  | _ + 4 => rfl

theorem eraseInLine?_eq (h : s.WellFormed) :
    ∀ mode, s.eraseInLine? mode = some (s.eraseInLine mode)
  | 0 => h.eraseCells?_eq ..
  | 1 => h.eraseCells?_eq ..
  | 2 => h.eraseCells?_eq ..
  | _ + 3 => rfl

theorem insertChars?_eq (h : s.WellFormed) (n : Nat) :
    s.insertChars? n = some (s.insertChars n) := by
  rw [insertChars?, h.mapCells?_eq _ fun cells hl => Row.openAt?_eq hl _ n]
  rfl

theorem deleteChars?_eq (h : s.WellFormed) (n : Nat) :
    s.deleteChars? n = some (s.deleteChars n) := by
  rw [deleteChars?, h.mapCells?_eq _ fun cells hl => Row.closeAt?_eq hl h.col_lt n]
  rfl

/-! ## Grids, resets and sizes -/

theorem alignmentTest?_eq (h : s.WellFormed) : s.alignmentTest? = some s.alignmentTest := by
  have hm : (s.mapGrid (·.map fun l =>
      { cells := l.cells.map fun _ => .written 'E' {} })).WellFormed :=
    h.mapGrid fun g hg => hg.map fun l => by simp
  rw [alignmentTest?, hm.clearMargins?_eq]
  exact hm.clearMargins.moveTo?_eq 0 0

theorem reset?_eq (h : s.WellFormed) : s.reset? = some s.reset := by
  rw [reset?, h.sub?_rows]
  rfl

theorem softReset?_eq (h : s.WellFormed) : s.softReset? = some s.softReset := by
  rw [softReset?, h.sub?_rows]
  rfl

end WellFormed

theorem firstShown_le (count rows : Nat) (cursor : Option Position) :
    firstShown count rows cursor ≤ count := by
  unfold firstShown
  split <;> omega

theorem firstShown_le_row (count rows : Nat) (p : Position) :
    firstShown count rows (some p) ≤ p.row :=
  Nat.min_le_right _ _

theorem carried?_eq (c : Cursor) (first : Nat) (cursor : Option Position) :
    (∀ p, cursor = some p → first ≤ p.row) → carried? c first cursor = some (match cursor with
      | some p => { c with row := p.row - first, col := p.col, pendingWrap := p.pendingWrap }
      | none => c) := by
  intro h
  cases cursor with
  | none => rfl
  | some p =>
    rw [carried?, sub?_eq (h p rfl)]
    rfl

theorem cutBelow?_eq (rows first : Nat) (lines : List Line) :
    cutBelow? rows first lines = some (lines.take (first + rows)) := by
  unfold cutBelow?
  split
  · rw [sub?_eq (by omega), Option.bind_some, sub?_eq (by omega), Option.map_some]
  · rw [List.take_of_length_le (by omega)]

/-- A grid is filled the same whether or not the rows past its end were cut. -/
theorem fitRows_take (cols rows : Nat) (g : Grid) :
    fitRows cols rows (g.take rows) = fitRows cols rows g := by
  rw [fitRows, fitRows, List.take_take, Nat.min_self, List.length_take]
  congr 2
  omega

theorem resize?_eq (s : Screen) (cols rows : Nat) :
    s.resize? cols rows = some (s.resize cols rows) := by
  unfold resize? resize
  dsimp only
  split
  · rfl
  · rw [reflow?_eq (Nat.le_max_right _ _)]
    simp only [Option.bind_eq_bind, Option.bind_some]
    generalize reflow (max cols 1) (s.scrollback.lines ++ s.primary) s.trackedCursor? = laid
    obtain ⟨lines, cursor⟩ := laid
    dsimp only
    have hle := firstShown_le lines.length (max rows 1) cursor
    have hrow : ∀ p, cursor = some p → firstShown lines.length (max rows 1) cursor ≤ p.row := by
      rintro p rfl
      exact firstShown_le_row _ _ p
    generalize firstShown lines.length (max rows 1) cursor = first at hle hrow
    have hkept : first ≤ (lines.take (first + max rows 1)).length := by
      rw [List.length_take]
      omega
    have habove : slice? 0 first (lines.take (first + max rows 1)) = some (lines.take first) := by
      rw [slice?_eq (Nat.zero_le first) hkept, List.take_take,
        Nat.min_eq_left (Nat.le_add_right _ _), List.drop_zero]
    have hshown : slice? first (lines.take (first + max rows 1)).length
        (lines.take (first + max rows 1)) = some ((lines.drop first).take (max rows 1)) := by
      rw [slice?_eq hkept (Nat.le_refl _), List.take_length, List.drop_take,
        Nat.add_sub_cancel_left]
    have hlast : 1 ≤ max rows 1 := Nat.le_max_right _ _
    rw [cutBelow?_eq, Option.bind_some, habove, Option.bind_some, hshown, Option.bind_some,
      sub?_eq hlast, Option.bind_some, carried?_eq s.cursor first cursor hrow, Option.bind_some,
      fitRows_take]
    rfl

/-! ## All operations -/

/-- **Nothing an operation reaches for on a well-formed screen is out of
range.** -/
theorem WellFormed.perform?_eq (h : s.WellFormed) (op : Operation) :
    s.perform? op = some (s.perform op) := by
  cases op with
  | print c => exact h.print?_eq c
  | linefeed => exact h.linefeed?_eq
  | index => exact h.settle.advance?_eq
  | reverseIndex => exact h.reverseIndex?_eq
  | nextLine => exact h.nextLine?_eq
  | tabForward n => exact h.tabForward?_eq n
  | tabBackward n => exact h.tabBackward?_eq n
  | scrollUp n => exact h.scrollUp?_eq n
  | scrollDown n => exact h.scrollDown?_eq n
  | setMargins top bottom => exact h.setMargins?_eq top bottom
  | clearMargins => exact h.clearMargins?_eq
  | setTab => exact h.putTab?_eq true
  | clearTab => exact h.putTab?_eq false
  | eraseInDisplay mode => exact h.eraseInDisplay?_eq mode
  | eraseInLine mode => exact h.eraseInLine?_eq mode
  | eraseChars n => exact h.eraseCells?_eq ..
  | insertLines n => exact h.insertLines?_eq n
  | deleteLines n => exact h.deleteLines?_eq n
  | insertChars n => exact h.insertChars?_eq n
  | deleteChars n => exact h.deleteChars?_eq n
  | moveTo row col => exact h.moveTo?_eq row col
  | moveToCol col => exact h.moveToCol?_eq col
  | moveToRow row => exact h.moveTo?_eq row _
  | alignmentTest => exact h.alignmentTest?_eq
  | resize cols rows => exact resize?_eq s cols rows
  | reset => exact h.reset?_eq
  | softReset => exact h.softReset?_eq
  | _ => rfl

theorem WellFormed.performAll?_eq (h : s.WellFormed) (ops : List Operation) :
    s.performAll? ops = some (s.performAll ops) := by
  induction ops generalizing s with
  | nil => rfl
  | cons op rest ih =>
    rw [performAll?, List.foldlM_cons, h.perform?_eq, Option.bind_eq_bind, Option.bind_some]
    exact ih (h.perform op)

theorem initial?_eq (cols rows capacity : Nat) :
    initial? cols rows capacity = some (initial cols rows capacity) := by
  have hrows : 1 ≤ max rows 1 := Nat.le_max_right _ _
  rw [initial?, sub?_eq hrows]
  rfl

end Teletype.Screen

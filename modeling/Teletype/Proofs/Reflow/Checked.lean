import Teletype.Proofs.Access
import Teletype.Proofs.Reflow.Cut

/-!
# Reflow, row by row

A change of width as one pass over the rows, which collects the cells of a
paragraph and puts its rows down behind those that are done already. A row's
number within its paragraph is then a difference of lengths. The pass comes to
what `reflow` says of whole paragraphs (`reflow?_eq`), so the differences are in
range.

Two things tell the pass from the definition. It carries what it has of the
paragraph along, where `paragraphs` is built from the end (`joinFront`); and it
notes the cursor wherever it meets it, where `layAll` takes the first mark. The
second is no difference as the cursor is in one row only.
-/

namespace Teletype

namespace Reflow

open Access

/-! ## One paragraph -/

/-- What laying out a paragraph has come to. -/
structure Progress where
  /-- The rows that are done, those of the paragraphs above among them. -/
  out : List Line
  /-- The row begun. -/
  current : List Cell := []
  /-- Where the cell looked for stands, if it was met. -/
  found : Option (Nat × Nat) := none

namespace Progress

/-- Ends the row begun if `width` more cells do not fit. -/
def makeRoom (cols width : Nat) (p : Progress) : Progress :=
  if cols < p.current.length + width && !p.current.isEmpty then
    { p with
      out := p.out ++ [{ cells := Line.fit cols p.current, wrapped := true }]
      current := [] }
  else p

/-- Notes where the next cell stands if it is the one looked for, in a paragraph
that begins at row `first`. -/
def notice? (first : Nat) (wanted : Bool) (p : Progress) : Option Progress :=
  if wanted then
    (sub? p.out.length first).map fun row => { p with found := some (row, p.current.length) }
  else some p

/-- Adds cells to the row begun. -/
def put (p : Progress) (cells : List Cell) : Progress :=
  { p with current := p.current ++ cells }

/-- Where the cell number `target` of a paragraph of `count` cells stands. -/
def spot? (cols first count : Nat) (target : Option Nat) (p : Progress) :
    Option (Option Position) :=
  match p.found, target with
  | some (row, col), _ => some (some ⟨row, col, false⟩)
  | none, none => some none
  | none, some target => do
    let past := target - count
    let row ← sub? p.out.length first
    if past = 0 && p.current.length = cols then
      let last ← sub? cols 1
      return some ⟨row, last, true⟩
    else
      let col := p.current.length + past
      return some ⟨row + col / cols, col % cols, false⟩

/-- Ends the paragraph. -/
def finish? (cols first count : Nat) (target : Option Nat) (p : Progress) :
    Option (List Line × Option Position) := do
  let spot ← p.spot? cols first count target
  return (p.out ++ [{ cells := Line.fit cols p.current }], spot)

end Progress

/-- Lays out cells, the first of which has the number `i` in the paragraph. -/
def layFrom? (cols first : Nat) (target : Option Nat) :
    Nat → List Cell → Progress → Option Progress
  | _, [], p => some p
  | i, [c], p => do
    let p ← (p.makeRoom cols 1).notice? first (target = some i)
    return p.put [c]
  | i, c :: next :: rest, p =>
    if next.tail then do
      let p ← (p.makeRoom cols 2).notice? first (target = some i || target = some (i + 1))
      layFrom? cols first target (i + 2) rest (p.put (pairCells cols c next))
    else do
      let p ← (p.makeRoom cols 1).notice? first (target = some i)
      layFrom? cols first target (i + 1) (next :: rest) (p.put [c])

/-- Lays out a paragraph behind the rows that are done. -/
def rewrap? (cols : Nat) (cells : List Cell) (target : Option Nat) (out : List Line) :
    Option (List Line × Option Position) := do
  let content := Line.content cells
  let p ← layFrom? cols out.length target 0 content { out }
  p.finish? cols out.length content.length target

/-! ## All rows -/

/-- What the pass has come to. -/
structure Flow where
  out : List Line := []
  /-- The cells of the paragraph begun. -/
  cells : List Cell := []
  /-- The number of the cell in it that the cursor stands on. -/
  target : Option Nat := none
  /-- Where the cursor stands among the rows that are done. -/
  cursor : Option Position := none

/-- A cursor that had a wrap pending stays right behind the character that it
stood on. -/
def keepBehind (cols : Nat) (pendingWrap : Bool) (spot : Position) : Position :=
  if spot.pendingWrap then spot
  else if pendingWrap && spot.col + 1 < cols then { spot with col := spot.col + 1 }
  else { spot with pendingWrap }

/-- Ends the paragraph begun. -/
def Flow.close? (cols : Nat) (pendingWrap : Bool) (f : Flow) : Option Flow := do
  let (out, spot) ← rewrap? cols f.cells f.target f.out
  let placed := spot.map fun spot =>
    keepBehind cols pendingWrap { spot with row := f.out.length + spot.row }
  return { out, cursor := placed <|> f.cursor }

/-- The column of the cursor if it is in row `i`. -/
def markIn (cursor : Option Position) (i : Nat) : Option Nat :=
  cursor.bind fun p => if p.row = i then some p.col else none

/-- Takes in rows, the first of which has the number `i`. -/
def flowFrom? (cols : Nat) (cursor : Option Position) : Nat → List Line → Flow → Option Flow
  | _, [], f => some f
  | i, l :: rest, f =>
    let target := (markIn cursor i).map (f.cells.length + ·) <|> f.target
    let f := { f with cells := f.cells ++ contribution l, target }
    if l.wrapped then flowFrom? cols cursor (i + 1) rest f
    else do
      let f ← f.close? cols (cursor.any (·.pendingWrap))
      flowFrom? cols cursor (i + 1) rest f

/-- Ends the paragraph that the last row runs on in. -/
def Flow.finish? (cols : Nat) (pendingWrap : Bool) (f : Flow) : Option Flow :=
  if f.cells.isEmpty && f.target.isNone then some f else f.close? cols pendingWrap

end Reflow

/-- `reflow` as a pass over the rows. -/
def reflow? (cols : Nat) (rows : List Line) (cursor : Option Position) :
    Option (List Line × Option Position) := do
  let taken ← Reflow.flowFrom? cols cursor 0 (Reflow.dropBlankEnd rows cursor) {}
  let f ← taken.finish? cols (cursor.any (·.pendingWrap))
  match f.cursor with
  | some p => return (Reflow.reach cols p.row f.out, some p)
  | none => return (f.out, none)

namespace Reflow

/-! ## One paragraph, as `cut` and `locate` have it -/

variable {cols first : Nat} {target : Option Nat} {c next : Cell} {cells rest : List Cell}

theorem layFrom?_alone (h : startsWithTail rest = false) (i : Nat) (p : Progress) :
    layFrom? cols first target i (c :: rest) p =
      ((p.makeRoom cols 1).notice? first (target = some i)).bind
        fun q => layFrom? cols first target (i + 1) rest (q.put [c]) := by
  cases rest with
  | nil => rfl
  | cons next rest =>
    replace h : next.tail = false := h
    rw [layFrom?, if_neg (by rw [h]; decide)]
    rfl

theorem layFrom?_pair (h : next.tail = true) (i : Nat) (p : Progress) :
    layFrom? cols first target i (c :: next :: rest) p =
      ((p.makeRoom cols 2).notice? first (target = some i || target = some (i + 1))).bind
        fun q => layFrom? cols first target (i + 2) rest (q.put (pairCells cols c next)) := by
  rw [layFrom?, if_pos h]
  rfl

namespace Progress

variable {p : Progress} {width : Nat}

theorem notice?_eq (h : first ≤ p.out.length) (wanted : Bool) :
    p.notice? first wanted = some (if wanted then
      { p with found := some (p.out.length - first, p.current.length) } else p) := by
  unfold notice?
  rw [Access.sub?_eq h, Option.map_some]
  split <;> rfl

@[simp] theorem found_makeRoom : (p.makeRoom cols width).found = p.found := by
  unfold makeRoom
  split <;> rfl

theorem length_out_le_makeRoom : p.out.length ≤ (p.makeRoom cols width).out.length := by
  unfold makeRoom
  split
  · simp
  · exact Nat.le_refl _

/-- Making room is ending the row begun where `cut` ends it. -/
theorem out_makeRoom_append (cells rest : List Cell) :
    (p.makeRoom cols width).out ++ asLines cols (cut cols ((p.makeRoom cols width).current ++ cells)
        rest) =
      p.out ++ asLines cols (if isFull cols width p.current then
        p.current :: cut cols cells rest else cut cols (p.current ++ cells) rest) := by
  unfold makeRoom isFull
  split
  · rw [asLines_cons _ (cut_ne_nil _ _ _), List.append_assoc]
    rfl
  · rfl

/-- Making room is going on to the row that `locate` goes on to. -/
theorem landing_makeRoom (h : first ≤ p.out.length) :
    ((p.makeRoom cols width).out.length - first, (p.makeRoom cols width).current.length) =
      landing cols width (p.out.length - first) p.current.length := by
  have hempty : (!p.current.isEmpty) = decide (p.current.length ≠ 0) := by
    cases p.current <;> simp
  unfold makeRoom landing
  rw [hempty]
  split
  · rw [List.length_append, List.length_singleton, List.length_nil]
    congr 1
    omega
  · rfl

/-- The progress that a group of `width` cells leaves, of which `cells` are put
down. -/
def after (cols first width : Nat) (wanted : Bool) (cells : List Cell) (p : Progress) : Progress :=
  let q := p.makeRoom cols width
  (if wanted then { q with found := some (q.out.length - first, q.current.length) } else q).put
    cells

/-- The cell looked for was met if it is among the first `i` cells, and not
otherwise. -/
structure Tracks (first i : Nat) (target : Option Nat) (p : Progress) : Prop where
  first_le : first ≤ p.out.length
  not_met : p.found = none → ∀ t, target = some t → i ≤ t
  met : p.found ≠ none → ∀ t, target = some t → t < i

/-- Where the cell looked for comes to stand if `cells` come next. -/
def expected (cols first i : Nat) (target : Option Nat) (cells : List Cell) (p : Progress) :
    Option Position :=
  match p.found with
  | some (row, col) => some ⟨row, col, false⟩
  | none => target.map fun t =>
    locate cols (p.out.length - first) p.current.length cells (t - i)

theorem out_after_append {wanted : Bool} (cells rest : List Cell) :
    (p.after cols first width wanted cells).out ++
        asLines cols (cut cols (p.after cols first width wanted cells).current rest) =
      p.out ++ asLines cols (if isFull cols width p.current then
        p.current :: cut cols cells rest else cut cols (p.current ++ cells) rest) := by
  rw [← out_makeRoom_append]
  cases wanted <;> rfl

/-- A group is noted exactly if the cell looked for is in it. -/
theorem Tracks.after {i : Nat} (h : p.Tracks first i target) {wanted : Bool}
    (hw : wanted = true ↔ ∃ t, target = some t ∧ i ≤ t ∧ t < i + width) (cells : List Cell) :
    (p.after cols first width wanted cells).Tracks first (i + width) target := by
  have hout : first ≤ (p.makeRoom cols width).out.length :=
    Nat.le_trans h.first_le length_out_le_makeRoom
  cases wanted with
  | true =>
    obtain ⟨u, hu, -, hlt⟩ := hw.mp rfl
    refine ⟨hout, (nomatch ·), fun _ t ht => ?_⟩
    rw [hu] at ht
    cases ht
    exact hlt
  | false =>
    have hmiss : ∀ t, target = some t → i ≤ t → i + width ≤ t := fun t ht hle =>
      Nat.le_of_not_lt fun hlt => Bool.noConfusion (hw.mpr ⟨t, ht, hle, hlt⟩)
    have hfound : (p.after cols first width false cells).found = p.found := found_makeRoom
    refine ⟨hout, fun hf t ht => ?_, fun hf t ht => ?_⟩
    · exact hmiss t ht (h.not_met (hfound ▸ hf) t ht)
    · exact Nat.lt_of_lt_of_le (h.met (hfound ▸ hf) t ht) (Nat.le_add_right i width)

/-- The place expected stays the same group by group. -/
theorem Tracks.expected_after {i : Nat} (h : p.Tracks first i target) {wanted : Bool}
    (hw : wanted = true ↔ ∃ t, target = some t ∧ i ≤ t ∧ t < i + width)
    {group put rest : List Cell}
    (hlocate : ∀ line used t, locate cols line used (group ++ rest) t =
      if t < width then ⟨(landing cols width line used).1, (landing cols width line used).2, false⟩
      else locate cols (landing cols width line used).1
        ((landing cols width line used).2 + put.length) rest (t - width)) :
    (p.after cols first width wanted put).expected cols first (i + width) target rest =
      p.expected cols first i target (group ++ rest) := by
  have hland : ((p.makeRoom cols width).out.length - first, _) = _ := landing_makeRoom h.first_le
  cases wanted with
  | true =>
    obtain ⟨t, rfl, hle, hlt⟩ := hw.mp rfl
    have hnone : p.found = none := by
      by_cases hf : p.found = none
      · exact hf
      · have := h.met hf t rfl
        omega
    show some _ = p.expected ..
    simp only [expected, hnone, Option.map_some, hlocate]
    rw [if_pos (by omega), ← hland]
  | false =>
    have hfound : (p.after cols first width false put).found = p.found := found_makeRoom
    cases hf : p.found with
    | some spot =>
      simp only [expected, hfound, hf]
    | none =>
      simp only [expected, hfound, hf]
      cases target with
      | none => rfl
      | some t =>
        have hle := h.not_met hf t rfl
        have hmiss : ¬ t - i < width := fun hlt =>
          Bool.noConfusion (hw.mpr ⟨t, rfl, hle, by omega⟩)
        have hlen : (p.after cols first width false put).current.length =
            (p.makeRoom cols width).current.length + put.length := List.length_append
        rw [Option.map_some, Option.map_some, hlocate, if_neg hmiss, ← hland, hlen, Nat.sub_sub]
        rfl

end Progress

/-- Behind the last cell, a place is what is left of the count. -/
theorem Progress.Tracks.finish?_eq {p : Progress} {count : Nat} (hc : 0 < cols)
    (h : p.Tracks first count target) :
    p.finish? cols first count target =
      some (p.out ++ [{ cells := Line.fit cols p.current }],
        p.expected cols first count target []) := by
  have hsub := Access.sub?_eq h.first_le
  have hsub1 : Access.sub? cols 1 = some (cols - 1) := Access.sub?_eq hc
  unfold Progress.finish? Progress.spot? Progress.expected
  cases hf : p.found with
  | some spot => rfl
  | none =>
    cases target with
    | none => rfl
    | some t =>
      simp only [hsub, hsub1, Option.bind_eq_bind, Option.bind_some, Option.pure_def,
        Option.map_some, locate]
      split <;> rfl

/-- **The pass over a paragraph comes to `cut` and `locate`**, and no difference
in it is below zero. -/
theorem layFrom?_finish? (hc : 0 < cols) (cells : List Cell) {i : Nat} {p : Progress}
    (h : p.Tracks first i target) :
    (layFrom? cols first target i cells p).bind
        (·.finish? cols first (i + cells.length) target) =
      some (p.out ++ asLines cols (cut cols p.current cells),
        p.expected cols first i target cells) := by
  induction cells using groups_induction generalizing i p with
  | nil =>
    rw [layFrom?, cut_nil]
    exact h.finish?_eq hc
  | alone c rest hrest ih =>
    have hw : decide (target = some i) = true ↔ ∃ t, target = some t ∧ i ≤ t ∧ t < i + 1 := by
      rw [decide_eq_true_iff]
      exact ⟨fun ht => ⟨i, ht, Nat.le_refl i, Nat.lt_succ_self i⟩, fun ⟨t, ht, hle, hlt⟩ => by
        rw [ht, Nat.le_antisymm (Nat.le_of_lt_succ hlt) hle]⟩
    have hlocate : ∀ line used t, locate cols line used ([c] ++ rest) t = _ :=
      fun line used t => locate_alone hrest
    rw [layFrom?_alone hrest, Progress.notice?_eq
      (Nat.le_trans h.first_le Progress.length_out_le_makeRoom), Option.bind_some]
    have hafter : (p.after cols first 1 _ [c]).Tracks first (i + 1) target := h.after hw [c]
    have hstep := ih hafter
    rw [Progress.out_after_append, ← cut_alone hrest, h.expected_after hw hlocate] at hstep
    rw [List.length_cons, Nat.add_comm rest.length, ← Nat.add_assoc]
    exact hstep
  | pair c next rest htail ih =>
    -- the cell looked for is met with its group, be it the head or the tail
    have hw : (decide (target = some i) || decide (target = some (i + 1))) = true ↔
        ∃ t, target = some t ∧ i ≤ t ∧ t < i + 2 := by
      rw [Bool.or_eq_true, decide_eq_true_iff, decide_eq_true_iff]
      constructor
      · rintro (ht | ht)
        · exact ⟨i, ht, by omega, by omega⟩
        · exact ⟨i + 1, ht, by omega, by omega⟩
      · rintro ⟨t, ht, hle, hlt⟩
        rcases Nat.eq_or_lt_of_le hle with rfl | hgt
        · exact .inl ht
        · exact .inr (by rw [ht, Nat.le_antisymm (Nat.le_of_lt_succ hlt) hgt])
    have hlocate : ∀ line used t, locate cols line used ([c, next] ++ rest) t = _ :=
      fun line used t => locate_pair htail
    rw [layFrom?_pair htail, Progress.notice?_eq
      (Nat.le_trans h.first_le Progress.length_out_le_makeRoom), Option.bind_some]
    have hafter : (p.after cols first 2 _ (pairCells cols c next)).Tracks first (i + 2) target :=
      h.after hw _
    have hstep := ih hafter
    rw [Progress.out_after_append, ← cut_pair htail, h.expected_after hw hlocate] at hstep
    rw [List.length_cons, List.length_cons, Nat.add_assoc rest.length, Nat.add_comm rest.length,
      ← Nat.add_assoc]
    exact hstep

theorem rewrap?_eq (hc : 0 < cols) (cells : List Cell) (target : Option Nat) (out : List Line) :
    rewrap? cols cells target out =
      some (out ++ asLines cols (cut cols [] (Line.content cells)),
        target.map (locate cols 0 0 (Line.content cells))) := by
  have h : Progress.Tracks out.length 0 target { out } :=
    ⟨Nat.le_refl _, fun _ t _ => Nat.zero_le t, fun hf => absurd rfl hf⟩
  have hlay := layFrom?_finish? hc (Line.content cells) h
  rw [Nat.zero_add] at hlay
  simp only [rewrap?, Option.bind_eq_bind, hlay, Progress.expected, Nat.sub_self, Nat.sub_zero,
    List.length_nil]

/-! ## All rows, as paragraphs -/

/-- Puts cells, with the cursor if it is among them, in front of the first
paragraph. -/
def joinFront (cells : List Cell) (mark : Option Nat) : List Paragraph → List Paragraph
  | p :: below =>
    { cells := cells ++ p.cells, mark := mark <|> p.mark.map (cells.length + ·) } :: below
  | [] => if cells.isEmpty && mark.isNone then [] else [{ cells, mark }]

theorem joinFront_nil (ps : List Paragraph) : joinFront [] none ps = ps := by
  cases ps with
  | nil => rfl
  | cons p below =>
    simp [joinFront]

theorem joinFront_joinFront (xs ys : List Cell) (m n : Option Nat) (ps : List Paragraph) :
    joinFront xs m (joinFront ys n ps) =
      joinFront (xs ++ ys) (m <|> n.map (xs.length + ·)) ps := by
  cases ps with
  | nil =>
    cases ys <;> cases n <;> simp [joinFront]
  | cons p below =>
    cases m <;> cases n <;> cases hp : p.mark <;>
      simp [joinFront, hp, Nat.add_assoc]

variable {l : Line} {mark : Option Nat}

theorem addRow_wrapped (h : l.wrapped = true) (below : List Paragraph) :
    addRow (l, mark) below = joinFront (contribution l) mark below := by
  cases below <;> simp [addRow, h, joinFront, prependRow]

theorem addRow_ended (h : l.wrapped = false) (below : List Paragraph) :
    addRow (l, mark) below = { cells := contribution l, mark } :: below := by
  simp [addRow, h, prependRow]

/-- The rows with the column of the cursor, the first row having the number
`i`. -/
def markedFrom (i : Nat) (rows : List Line) (cursor : Option Position) :
    List (Line × Option Nat) :=
  (rows.zipIdx i).map fun (l, j) => (l, markIn cursor j)

theorem markedFrom_cons (i : Nat) (rows : List Line) (cursor : Option Position) :
    markedFrom i (l :: rows) cursor = (l, markIn cursor i) :: markedFrom (i + 1) rows cursor :=
  rfl

/-- A cursor above rows marks none of them. -/
theorem markIn_eq_none {cursor : Option Position} {i : Nat}
    (h : ∀ p, cursor = some p → p.row < i) : markIn cursor i = none := by
  cases cursor with
  | none => rfl
  | some p =>
    have hlt := h p rfl
    exact if_neg (by omega)

theorem marks_joinFront {cells : List Cell} {ps : List Paragraph} (h : ∀ q ∈ ps, q.mark = none) :
    ∀ q ∈ joinFront cells none ps, q.mark = none := by
  intro q hq
  cases ps with
  | nil =>
    unfold joinFront at hq
    by_cases hcells : (cells.isEmpty && (none : Option Nat).isNone) = true
    · rw [if_pos hcells] at hq
      cases hq
    · rw [if_neg hcells] at hq
      rw [List.mem_singleton.mp hq]
  | cons p below =>
    rcases List.mem_cons.mp hq with rfl | hq
    · show (none <|> p.mark.map _) = none
      rw [h p List.mem_cons_self]
      rfl
    · exact h q (List.mem_cons_of_mem p hq)

theorem marks_paragraphs {cursor : Option Position} {rows : List Line} {i : Nat}
    (h : ∀ p, cursor = some p → p.row < i) :
    ∀ q ∈ paragraphs (markedFrom i rows cursor), q.mark = none := by
  induction rows generalizing i with
  | nil => intro q hq; cases hq
  | cons l rest ih =>
    have hbelow := ih (i := i + 1) fun p hp => Nat.lt_succ_of_lt (h p hp)
    have hcons : paragraphs (markedFrom i (l :: rest) cursor) =
        addRow (l, none) (paragraphs (markedFrom (i + 1) rest cursor)) := by
      rw [markedFrom_cons, markIn_eq_none h]
      rfl
    rw [hcons]
    cases hl : l.wrapped with
    | false =>
      rw [addRow_ended hl]
      exact List.forall_mem_cons.mpr ⟨rfl, hbelow⟩
    | true =>
      rw [addRow_wrapped hl]
      exact marks_joinFront hbelow

/-- A place further down. -/
def below (rows : Nat) (p : Position) : Position :=
  { p with row := rows + p.row }

theorem layAll_cons (pendingWrap : Bool) (p : Paragraph) (rest : List Paragraph) :
    layAll cols pendingWrap (p :: rest) =
      (lay cols p ++ (layAll cols pendingWrap rest).1,
        place? cols pendingWrap p <|>
          (layAll cols pendingWrap rest).2.map (below (lay cols p).length)) :=
  rfl

theorem layAll_snd_eq_none {pendingWrap : Bool} {ps : List Paragraph}
    (h : ∀ q ∈ ps, q.mark = none) : (layAll cols pendingWrap ps).2 = none := by
  induction ps with
  | nil => rfl
  | cons p rest ih =>
    have hhere : place? cols pendingWrap p = none := by
      rw [place?, h p List.mem_cons_self]
      rfl
    rw [layAll_cons, hhere, ih fun q hq => h q (List.mem_cons_of_mem p hq)]
    rfl

theorem keepBehind_below (pendingWrap : Bool) (rows : Nat) (spot : Position) :
    keepBehind cols pendingWrap (below rows spot) =
      below rows (keepBehind cols pendingWrap spot) := by
  unfold keepBehind below
  dsimp only
  split
  · rfl
  · split <;> rfl

theorem place?_eq (pendingWrap : Bool) (p : Paragraph) :
    place? cols pendingWrap p =
      (p.mark.map (locate cols 0 0 (Line.content p.cells))).map (keepBehind cols pendingWrap) := by
  rw [Option.map_map]
  rfl

theorem below_below (m n : Nat) (p : Position) : below m (below n p) = below (m + n) p := by
  rw [below, below, below, Nat.add_assoc]

/-- The pass with rows laid out behind those that are done. -/
def Flow.ended (f : Flow) (laid : List Line × Option Position) : Flow :=
  { out := f.out ++ laid.1, cursor := laid.2.map (below f.out.length) <|> f.cursor }

theorem Flow.ended_ended {f : Flow} {xs ys : List Line} {m n : Option Position}
    (h : m ≠ none → n = none) :
    (f.ended (xs, m)).ended (ys, n) = f.ended (xs ++ ys, m <|> n.map (below xs.length)) := by
  cases m with
  | none =>
    have hshift : (below f.out.length ∘ below xs.length) = below (f.out.length + xs.length) :=
      funext (below_below _ _)
    have hmap : (n.map (below xs.length)).map (below f.out.length) =
        n.map (below (f.out ++ xs).length) := by
      rw [Option.map_map, hshift, List.length_append]
    show Flow.mk .. = Flow.mk ..
    rw [Flow.ended, List.append_assoc, ← hmap]
    rfl
  | some p =>
    rw [h (Option.some_ne_none p), Flow.ended, Flow.ended, Flow.ended, List.append_assoc]
    rfl

/-- Ending a paragraph is laying it out behind the rows that are done. -/
theorem Flow.close?_eq (hc : 0 < cols) (pendingWrap : Bool) (f : Flow) :
    f.close? cols pendingWrap =
      let p : Paragraph := { cells := f.cells, mark := f.target }
      some (f.ended (lay cols p, place? cols pendingWrap p)) := by
  have hspots : ∀ spots : Option Position,
      spots.map (fun spot => keepBehind cols pendingWrap (below f.out.length spot)) =
        (spots.map (keepBehind cols pendingWrap)).map (below f.out.length) := by
    intro spots
    rw [Option.map_map]
    exact congrFun (congrArg Option.map (funext (keepBehind_below _ _))) spots
  dsimp only
  rw [place?_eq, Flow.ended, ← hspots, Flow.close?, rewrap?_eq hc]
  rfl

/-- A cursor that was met is in a row above `i`. -/
def Flow.Above (cursor : Option Position) (i : Nat) (f : Flow) : Prop :=
  f.target ≠ none ∨ f.cursor ≠ none → ∀ p, cursor = some p → p.row < i

/-- The pass once it has taken in row number `i`. -/
def Flow.take (cursor : Option Position) (i : Nat) (l : Line) (f : Flow) : Flow :=
  { f with
    cells := f.cells ++ contribution l
    target := (markIn cursor i).map (f.cells.length + ·) <|> f.target }

theorem markIn_ne_none {cursor : Option Position} {i : Nat} (h : markIn cursor i ≠ none) :
    ∀ p, cursor = some p → p.row = i := by
  rintro p rfl
  by_cases hp : p.row = i
  · exact hp
  · exact absurd (if_neg hp) h

/-- The cursor is met once, so it does not matter which place counts. -/
theorem Flow.Above.target_take {cursor : Option Position} {i : Nat} {f : Flow}
    (h : f.Above cursor i) (l : Line) :
    (f.take cursor i l).target = (f.target <|> (markIn cursor i).map (f.cells.length + ·)) := by
  cases ht : f.target with
  | none =>
    rw [Flow.take, ht]
    cases markIn cursor i <;> rfl
  | some t =>
    have hmark := markIn_eq_none (h (.inl (by rw [ht]; exact Option.some_ne_none t)))
    rw [Flow.take, ht, hmark]
    rfl

theorem Flow.Above.take {cursor : Option Position} {i : Nat} {f : Flow} (h : f.Above cursor i)
    (l : Line) : (f.take cursor i l).Above cursor (i + 1) := by
  intro hmet p hp
  by_cases hmark : markIn cursor i = none
  · have hold : f.target ≠ none ∨ f.cursor ≠ none := by
      refine hmet.imp (fun ht => ?_) id
      rw [h.target_take, hmark] at ht
      exact fun hnone => ht (by rw [hnone]; rfl)
    exact Nat.lt_succ_of_lt (h hold p hp)
  · exact Nat.lt_succ_of_le (Nat.le_of_eq (markIn_ne_none hmark p hp))

/-- The paragraph that is begun, if any, is ended as one. -/
theorem Flow.finish?_eq (hc : 0 < cols) (pendingWrap : Bool) (f : Flow) :
    f.finish? cols pendingWrap =
      some (f.ended (layAll cols pendingWrap (joinFront f.cells f.target []))) := by
  obtain ⟨out, cells, target, place⟩ := f
  unfold Flow.finish?
  by_cases hempty : (cells.isEmpty && target.isNone) = true
  · have hjoin : joinFront cells target [] = [] := if_pos hempty
    obtain ⟨hcells, htarget⟩ := Bool.and_eq_true_iff.mp hempty
    rw [if_pos hempty, hjoin, List.isEmpty_iff.mp hcells, Option.isNone_iff_eq_none.mp htarget,
      Flow.ended, layAll, List.append_nil]
    rfl
  · have hjoin : joinFront cells target [] = [{ cells, mark := target }] := if_neg hempty
    have hlast : ∀ place : Option Position, (place <|> none) = place := by
      intro place
      cases place <;> rfl
    rw [if_neg hempty, hjoin, Flow.close?_eq hc, layAll_cons, layAll, List.append_nil,
      Option.map_none, hlast]

/-- A place is found for a paragraph only if the cursor was met in it. -/
theorem place?_ne_none {pendingWrap : Bool} {p : Paragraph} (h : place? cols pendingWrap p ≠ none) :
    p.mark ≠ none := by
  intro hmark
  rw [place?, hmark] at h
  exact h rfl

theorem Flow.Above.ended {cursor : Option Position} {i : Nat} {f : Flow} (h : f.Above cursor i)
    (cols : Nat) (pendingWrap : Bool) (p : Paragraph) (hmark : p.mark = f.target) :
    (f.ended (lay cols p, place? cols pendingWrap p)).Above cursor i := by
  rintro (ht | hplace)
  · exact absurd rfl ht
  · refine h ?_
    by_cases hnone : place? cols pendingWrap p = none
    · right
      rwa [Flow.ended, hnone] at hplace
    · exact .inl (hmark ▸ place?_ne_none hnone)

/-- **The pass over the rows comes to their paragraphs.** -/
theorem flowFrom?_finish? (hc : 0 < cols) (cursor : Option Position) (pendingWrap : Bool)
    (hpending : cursor.any (·.pendingWrap) = pendingWrap) (rows : List Line) {i : Nat} {f : Flow}
    (h : f.Above cursor i) :
    (flowFrom? cols cursor i rows f).bind (·.finish? cols pendingWrap) =
      some (f.ended (layAll cols pendingWrap
        (joinFront f.cells f.target (paragraphs (markedFrom i rows cursor))))) := by
  induction rows generalizing i f with
  | nil => exact Flow.finish?_eq hc pendingWrap f
  | cons l rest ih =>
    have htake := h.take l
    have hcons : paragraphs (markedFrom i (l :: rest) cursor) =
        addRow (l, markIn cursor i) (paragraphs (markedFrom (i + 1) rest cursor)) := rfl
    rw [hcons]
    cases hl : l.wrapped with
    | true =>
      -- the row runs on, so its cells join the paragraph begun
      have hstep : flowFrom? cols cursor i (l :: rest) f =
          flowFrom? cols cursor (i + 1) rest (f.take cursor i l) := if_pos hl
      rw [hstep, ih htake, addRow_wrapped hl, joinFront_joinFront, h.target_take]
      rfl
    | false =>
      -- the row ends the paragraph, which is laid out before the rows below
      have hstep : flowFrom? cols cursor i (l :: rest) f =
          ((f.take cursor i l).close? cols pendingWrap).bind
            (flowFrom? cols cursor (i + 1) rest) := by
        rw [← hpending]
        exact if_neg (by rw [hl]; decide)
      have hjoin : joinFront f.cells f.target
            (addRow (l, markIn cursor i) (paragraphs (markedFrom (i + 1) rest cursor))) =
          { cells := (f.take cursor i l).cells, mark := (f.take cursor i l).target } ::
            paragraphs (markedFrom (i + 1) rest cursor) := by
        rw [addRow_ended hl, h.target_take]
        rfl
      rw [hstep, Flow.close?_eq hc, Option.bind_some, hjoin, layAll_cons]
      generalize hp : ({ cells := (f.take cursor i l).cells, mark := (f.take cursor i l).target } :
        Paragraph) = p
      have hmark : p.mark = (f.take cursor i l).target := by
        rw [← hp]
      have hrest := ih (htake.ended cols pendingWrap p hmark)
      rw [show (Flow.ended _ _).cells = [] from rfl, show (Flow.ended _ _).target = none from rfl,
        joinFront_nil] at hrest
      rw [hrest]
      refine congrArg some (Flow.ended_ended fun hplace => ?_)
      exact layAll_snd_eq_none (marks_paragraphs (htake (.inl (hmark ▸ place?_ne_none hplace))))

end Reflow

open Reflow in
/-- **Laying rows out anew takes no difference below zero.** -/
theorem reflow?_eq {cols : Nat} (hc : 0 < cols) (rows : List Line) (cursor : Option Position) :
    reflow? cols rows cursor = some (reflow cols rows cursor) := by
  have h : Flow.Above cursor 0 {} := by
    rintro (ht | hcursor)
    · exact absurd rfl ht
    · exact absurd rfl hcursor
  have hflow := flowFrom?_finish? hc cursor _ rfl (dropBlankEnd rows cursor) h
  rw [joinFront_nil] at hflow
  have hmarked : markedFrom 0 (dropBlankEnd rows cursor) cursor =
      marked (dropBlankEnd rows cursor) cursor := rfl
  rw [hmarked] at hflow
  have hpass : reflow? cols rows cursor =
      ((flowFrom? cols cursor 0 (dropBlankEnd rows cursor) {}).bind
        (·.finish? cols (cursor.any (·.pendingWrap)))).bind fun f =>
          match f.cursor with
          | some p => some (reach cols p.row f.out, some p)
          | none => some (f.out, none) := by
    rw [Option.bind_assoc]
    rfl
  rw [hpass, hflow, Option.bind_some, reflow]
  generalize layAll cols _ _ = laid
  obtain ⟨out, place⟩ := laid
  cases place with
  | none => rfl
  | some p =>
    have hbelow : below 0 p = p := by
      rw [below, Nat.zero_add]
    show some (reach cols (below 0 p).row out, some (below 0 p)) = _
    rw [hbelow]

end Teletype

import Teletype.Proofs.Access
import Teletype.Screen.Motion

/-!
# Tab stops, one after the other

Going to the `n`th tab stop as going to the next one `n` times, where each time
the columns ahead are looked up in the table of stops. It ends up where
`tabForward` and `tabBackward` say, as the stops ahead of a stop are the
remaining ones.
-/

namespace Teletype.Screen

open Access

/-- The first of some columns with a tab stop. -/
def firstStop? (tabs : List Bool) : List Nat → Option (Option Nat)
  | [] => some none
  | col :: rest => do
    let stop ← tabs[col]?
    if stop then return some col else firstStop? tabs rest

/-- From a column to the next tab stop, or the last column. -/
def nextStop? (s : Screen) (col : Nat) : Option Nat := do
  let stop ← firstStop? s.tabs (List.range' (col + 1) (s.cols - (col + 1)))
  let last ← sub? s.cols 1
  return stop.getD last

/-- From a column to the tab stop before it, or the first column. -/
def previousStop? (s : Screen) (col : Nat) : Option Nat := do
  let stop ← firstStop? s.tabs (List.range col).reverse
  return stop.getD 0

/-- Moves on so many times. -/
def moves? (move : Nat → Option Nat) : Nat → Nat → Option Nat
  | 0, col => some col
  | n + 1, col => (move col).bind (moves? move n)

/-! ## A list of stops -/

theorem firstStop?_eq {tabs : List Bool} {cols : List Nat} (h : ∀ col ∈ cols, col < tabs.length) :
    firstStop? tabs cols = some ((cols.filter fun col => tabs.getD col false).head?) := by
  induction cols with
  | nil => rfl
  | cons col rest ih =>
    have hlt : col < tabs.length := h col List.mem_cons_self
    have hcol : tabs[col]? = some tabs[col] := List.getElem?_eq_getElem hlt
    have hget : tabs.getD col false = tabs[col] := by
      rw [List.getD_eq_getElem?_getD, hcol, Option.getD_some]
    rw [firstStop?, hcol, List.filter_cons, hget, ih fun i hi => h i (List.mem_cons_of_mem _ hi)]
    cases tabs[col] <;> rfl

/-- Moving on `n` times is taking the `n`th stop ahead, where the stops ahead of
a stop are the remaining ones. -/
theorem moves?_eq {move : Nat → Option Nat} (ahead : Nat → List Nat) (P : Nat → Prop)
    {edge : Nat} (hmove : ∀ col, P col → move col = some ((ahead col).head?.getD edge))
    (hahead : ∀ col i rest, P col → ahead col = i :: rest → P i ∧ ahead i = rest)
    (hedge : P edge ∧ ahead edge = []) (n : Nat) {col : Nat} (hcol : P col) :
    moves? move n col = some (if n = 0 then col else (ahead col).getD (n - 1) edge) := by
  induction n generalizing col with
  | zero => rfl
  | succ n ih =>
    rw [moves?, hmove col hcol, Option.bind_some, if_neg (Nat.succ_ne_zero n),
      Nat.add_sub_cancel]
    cases hstops : ahead col with
    | nil =>
      show moves? move n edge = _
      rw [ih hedge.1, hedge.2]
      cases n <;> rfl
    | cons i rest =>
      obtain ⟨hi, hrest⟩ := hahead col i rest hcol hstops
      show moves? move n i = _
      rw [ih hi, hrest]
      cases n <;> rfl

theorem filter_filter_comm {α : Type} (p q : α → Bool) (xs : List α) :
    (xs.filter p).filter q = (xs.filter q).filter p := by
  rw [List.filter_filter, List.filter_filter]
  exact List.filter_congr fun x _ => Bool.and_comm _ _

/-! ## Forward -/

theorem filter_lt_range {col cols : Nat} (h : col < cols) :
    (List.range cols).filter (col < ·) = List.range' (col + 1) (cols - (col + 1)) := by
  have hcut : List.range cols =
      List.range' 0 (col + 1) ++ List.range' (col + 1) (cols - (col + 1)) := by
    rw [List.range_eq_range']
    have happend := List.range'_append_1 (s := 0) (m := col + 1) (n := cols - (col + 1))
    rw [Nat.zero_add, Nat.add_sub_cancel' h] at happend
    exact happend.symm
  have hleft : (List.range' 0 (col + 1)).filter (col < ·) = [] := by
    refine List.filter_eq_nil_iff.mpr fun i hi => ?_
    have := List.mem_range'_1.mp hi
    simp only [decide_eq_true_eq]
    omega
  have hright : (List.range' (col + 1) (cols - (col + 1))).filter (col < ·) =
      List.range' (col + 1) (cols - (col + 1)) := by
    refine List.filter_eq_self.mpr fun i hi => ?_
    have := List.mem_range'_1.mp hi
    simp only [decide_eq_true_eq]
    omega
  rw [hcut, List.filter_append, hleft, hright, List.nil_append]

/-- Behind the first of the columns picked from a range, the others are picked
from what is left of the range. -/
theorem filter_range'_of_cons {p : Nat → Bool} {first n i : Nat} {rest : List Nat}
    (h : (List.range' first n).filter p = i :: rest) :
    i < first + n ∧ (List.range' (i + 1) (first + n - (i + 1))).filter p = rest := by
  induction n generalizing first with
  | zero => cases h
  | succ n ih =>
    rw [List.range'_succ, List.filter_cons] at h
    split at h
    · obtain ⟨rfl, rfl⟩ := List.cons.inj h
      refine ⟨by omega, ?_⟩
      rw [show first + (n + 1) - (first + 1) = n by omega]
    · obtain ⟨hi, hrest⟩ := ih h
      have hend : first + 1 + n = first + (n + 1) := by omega
      rw [hend] at hi hrest
      exact ⟨hi, hrest⟩

variable {s : Screen}

theorem moves?_nextStop? (htabs : s.tabs.length = s.cols) (n : Nat) {col : Nat}
    (hcol : col < s.cols) :
    moves? s.nextStop? n col =
      some (if n = 0 then col else (s.tabStops.filter (col < ·)).getD (n - 1) (s.cols - 1)) := by
  have hstops : ∀ i, i < s.cols → s.tabStops.filter (i < ·) =
      (List.range' (i + 1) (s.cols - (i + 1))).filter fun col => s.tabs.getD col false := by
    intro i hi
    rw [tabStops, filter_filter_comm, filter_lt_range hi]
  refine moves?_eq (fun i => s.tabStops.filter (i < ·)) (· < s.cols) ?_ ?_ ?_ n hcol
  · intro i hi
    rw [nextStop?, firstStop?_eq, sub?_eq (by omega), hstops i hi]
    · rfl
    · intro j hj
      have := List.mem_range'_1.mp hj
      omega
  · intro i j rest hi hj
    rw [hstops i hi] at hj
    obtain ⟨hlt, hrest⟩ := filter_range'_of_cons hj
    rw [Nat.add_sub_cancel' hi] at hlt hrest
    exact ⟨hlt, (hstops j hlt).trans hrest⟩
  · refine ⟨Nat.sub_lt (Nat.zero_lt_of_lt hcol) Nat.one_pos, ?_⟩
    show s.tabStops.filter (s.cols - 1 < ·) = []
    rw [hstops _ (by omega), show s.cols - (s.cols - 1 + 1) = 0 by omega]
    rfl

/-! ## Backward -/

theorem filter_reverse_range_of_cons {p : Nat → Bool} {n i : Nat} {rest : List Nat}
    (h : (List.range n).reverse.filter p = i :: rest) :
    i < n ∧ (List.range i).reverse.filter p = rest := by
  induction n with
  | zero => cases h
  | succ n ih =>
    rw [List.range_succ, List.reverse_append, List.reverse_singleton, List.singleton_append,
      List.filter_cons] at h
    split at h
    · obtain ⟨rfl, rfl⟩ := List.cons.inj h
      exact ⟨Nat.lt_succ_self _, rfl⟩
    · obtain ⟨hi, hrest⟩ := ih h
      exact ⟨Nat.lt_succ_of_lt hi, hrest⟩

theorem filter_range_lt {col cols : Nat} (h : col ≤ cols) :
    (List.range cols).filter (· < col) = List.range col := by
  obtain ⟨n, rfl⟩ := Nat.exists_eq_add_of_le h
  have hleft : (List.range col).filter (· < col) = List.range col :=
    List.filter_eq_self.mpr fun i hi => decide_eq_true (List.mem_range.mp hi)
  have hright : ((List.range n).map (col + ·)).filter (· < col) = [] := by
    refine List.filter_eq_nil_iff.mpr fun i hi => ?_
    obtain ⟨j, -, rfl⟩ := List.mem_map.mp hi
    simp only [decide_eq_true_eq]
    omega
  rw [List.range_add, List.filter_append, hleft, hright, List.append_nil]

theorem moves?_previousStop? (htabs : s.tabs.length = s.cols) (n : Nat) {col : Nat}
    (hcol : col < s.cols) :
    moves? s.previousStop? n col =
      some (if n = 0 then col else (s.tabStops.filter (· < col)).reverse.getD (n - 1) 0) := by
  have hstops : ∀ i, i < s.cols → (s.tabStops.filter (· < i)).reverse =
      (List.range i).reverse.filter fun col => s.tabs.getD col false := by
    intro i hi
    rw [tabStops, filter_filter_comm, filter_range_lt (Nat.le_of_lt hi), List.filter_reverse]
  refine moves?_eq (fun i => (s.tabStops.filter (· < i)).reverse) (· < s.cols) ?_ ?_ ?_ n hcol
  · intro i hi
    rw [previousStop?, firstStop?_eq, hstops i hi]
    · rfl
    · intro j hj
      have := List.mem_range.mp (List.mem_reverse.mp hj)
      omega
  · intro i j rest hi hj
    rw [hstops i hi] at hj
    obtain ⟨hlt, hrest⟩ := filter_reverse_range_of_cons hj
    have hj' : j < s.cols := Nat.lt_trans hlt hi
    exact ⟨hj', (hstops j hj').trans hrest⟩
  · have hpos : 0 < s.cols := Nat.zero_lt_of_lt hcol
    exact ⟨hpos, hstops 0 hpos⟩

end Teletype.Screen

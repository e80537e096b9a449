import Teletype.Proofs.Access
import Teletype.Proofs.ByteQueue.Ring

/-!
# The ring as a bounded list

The ring written once more with its two copies in place, as slices that are copied over
slices of the same length (`push?`, `pop?`). Whatever it was asked so far, none of them is
out of range, and what it answers and stores is what a list of at most as many bytes would
answer and hold (`behaves_as_list`).
-/

namespace Teletype

namespace Access

variable {α : Type} {first last : Nat} {xs ys : List α}

/-- The remainder, unless it is one by zero. -/
def mod? (a b : Nat) : Option Nat :=
  if 0 < b then some (a % b) else none

/-- Copies elements over a slice that has just as many. -/
def copyOver? (first last : Nat) (ys xs : List α) : Option (List α) :=
  within? first last (fun inside => if inside.length = ys.length then some ys else none) xs

theorem mod?_eq {a b : Nat} (h : 0 < b) : mod? a b = some (a % b) :=
  if_pos h

theorem copyOver?_eq (h : first + ys.length = last) (hl : last ≤ xs.length) :
    copyOver? first last ys xs = some (xs.take first ++ (ys ++ xs.drop last)) := by
  have hlength : ((xs.take last).drop first).length = ys.length := by
    rw [length_take_drop hl]
    omega
  simp only [copyOver?, within?, slice?_eq (by omega : first ≤ last) hl, Option.bind_eq_bind,
    Option.bind_some, if_pos hlength, Option.pure_def]

end Access

namespace Ring

open Access

/-! ## Copies in place -/

/-- `push`, by a copy behind the stored bytes and one to the start of the array. -/
def push? (r : Ring) (bytes : List UInt8) : Option (Ring × Nat) := do
  let free ← sub? r.capacity r.count
  let count := min bytes.length free
  let tail ← mod? (r.head + r.count) r.capacity
  let room ← sub? r.capacity tail
  let first := min count room
  let front ← slice? 0 first bytes
  let buffer ← copyOver? tail (tail + first) front r.buffer.toList
  let second ← sub? count first
  let buffer ←
    if 0 < second then (slice? first count bytes).bind (copyOver? 0 second · buffer)
    else some buffer
  return ({ r with buffer := buffer.toArray, count := r.count + count }, count)

/-- `pop` into a buffer, by a copy of the bytes up to the end of the array and one of those
at its start. -/
def pop? (r : Ring) (out : List UInt8) : Option (Ring × Nat × List UInt8) := do
  let count := min out.length r.count
  let room ← sub? r.capacity r.head
  let first := min count room
  let front ← slice? r.head (r.head + first) r.buffer.toList
  let out ← copyOver? 0 first front out
  let second ← sub? count first
  let out ←
    if 0 < second then (slice? 0 second r.buffer.toList).bind (copyOver? first count · out)
    else some out
  let head ← mod? (r.head + count) r.capacity
  let left ← sub? r.count count
  return ({ r with head, count := left }, count, out)

variable {r : Ring} {bytes out : List UInt8}

/-- Writing the bytes one by one is copying them over a slice. -/
theorem toList_copyAt (start : Nat) (bytes : List UInt8) (buffer : Array UInt8)
    (h : start + bytes.length ≤ buffer.size) :
    copyOver? start (start + bytes.length) bytes buffer.toList =
      some (copyAt start bytes buffer).toList := by
  refine (copyOver?_eq rfl h).trans (congrArg some (List.ext_getElem? fun i => ?_))
  have hsize : buffer.toList.length = buffer.size := Array.length_toList
  have htake : (buffer.toList.take start).length = start := List.length_take_of_le (by omega)
  have hcopied : (copyAt start bytes buffer).toList[i]? = _ := Array.getElem?_toList
  rw [hcopied, getElem?_copyAt h]
  by_cases hbefore : i < start
  · rw [if_neg (by omega), List.getElem?_append_left (by omega),
      List.getElem?_take_of_lt hbefore, Array.getElem?_toList]
  · rw [List.getElem?_append_right (by omega), htake]
    by_cases hinside : i < start + bytes.length
    · rw [if_pos (by omega), List.getElem?_append_left (by omega)]
    · have hi : start + bytes.length + (i - start - bytes.length) = i := by omega
      rw [if_neg (by omega), List.getElem?_append_right (by omega), List.getElem?_drop, hi,
        Array.getElem?_toList]

/-- **Both copies of a push are in range.** -/
theorem push?_eq (h : r.Fits) (bytes : List UInt8) : r.push? bytes = some (r.push bytes) := by
  obtain ⟨hhead, hcount⟩ := h
  have hsize : r.buffer.size = r.capacity := rfl
  have htail : (r.head + r.count) % r.capacity < r.capacity := Nat.mod_lt _ (by omega)
  have hfree : r.free = r.capacity - r.count := rfl
  simp only [push?, push, sub?_eq hcount, mod?_eq (Nat.zero_lt_of_lt hhead),
    sub?_eq (Nat.le_of_lt htail), Option.bind_eq_bind, Option.bind_some, ← hfree]
  generalize hn : min bytes.length r.free = n
  generalize (r.head + r.count) % r.capacity = tail at htail
  generalize hf : min n (r.capacity - tail) = first
  have hstored : (bytes.take n).length = n := List.length_take_of_le (by omega)
  have hfront : slice? 0 first bytes = some ((bytes.take n).take first) := by
    rw [slice?_eq (Nat.zero_le _) (by omega), List.drop_zero, List.take_take,
      Nat.min_eq_left (by omega)]
  have hlength : ((bytes.take n).take first).length = first := List.length_take_of_le (by omega)
  have hcopied := toList_copyAt tail ((bytes.take n).take first) r.buffer (by omega)
  rw [hlength] at hcopied
  simp only [hfront, hcopied, sub?_eq (by omega : first ≤ n), Option.bind_some]
  generalize hb : copyAt tail ((bytes.take n).take first) r.buffer = buffer
  have hsame : buffer.size = r.capacity := by rw [← hb, size_copyAt, hsize]
  by_cases hsecond : 0 < n - first
  · have hdrop : ((bytes.take n).drop first).length = n - first := by
      rw [List.length_drop, hstored]
    have hrest := toList_copyAt 0 ((bytes.take n).drop first) buffer (by omega)
    rw [hdrop, Nat.zero_add] at hrest
    rw [if_pos hsecond, slice?_eq (by omega) (by omega), Option.bind_some, hrest]
    rfl
  · have hnone : (bytes.take n).drop first = [] := List.drop_eq_nil_of_le (by omega)
    rw [if_neg hsecond, hnone]
    rfl

/-- **Both copies of a pop are in range.** The bytes taken out stand in front of what is left
of the buffer. -/
theorem pop?_eq (h : r.Fits) (out : List UInt8) :
    r.pop? out = some ((r.pop out.length).1, min out.length r.count,
      (r.pop out.length).2 ++ out.drop (min out.length r.count)) := by
  obtain ⟨hhead, hcount⟩ := h
  have hsize : r.buffer.toList.length = r.capacity := Array.length_toList
  simp only [pop?, pop, sub?_eq (Nat.le_of_lt hhead), mod?_eq (Nat.zero_lt_of_lt hhead),
    sub?_eq (Nat.min_le_right out.length r.count), Option.bind_eq_bind, Option.bind_some,
    Array.toList_append, Array.toList_extract, List.extract_eq_take_drop, ← List.drop_take]
  generalize hn : min out.length r.count = n
  generalize hf : min n (r.capacity - r.head) = first
  have hroom : r.head + first ≤ r.buffer.toList.length := by omega
  have hfront : ((r.buffer.toList.take (r.head + first)).drop r.head).length = _ :=
    length_take_drop hroom
  have hslice := slice?_eq (Nat.le_add_right r.head first) hroom
  simp only [hslice, Option.bind_some]
  generalize (r.buffer.toList.take (r.head + first)).drop r.head = front at hfront
  have hcopied : copyOver? 0 first front out = some (front ++ out.drop first) :=
    copyOver?_eq (by rw [hfront]; omega) (by omega)
  simp only [hcopied, sub?_eq (by omega : first ≤ n), Option.bind_some]
  by_cases hsecond : 0 < n - first
  · have hback : ((r.buffer.toList.take (n - first)).drop 0).length = _ :=
      length_take_drop (by omega)
    have hlength : (front ++ out.drop first).length = out.length := by
      rw [List.length_append, List.length_drop]
      omega
    have hdrop : (front ++ out.drop first).drop n = out.drop n := by
      have hbehind : first + (n - front.length) = n := by omega
      rw [List.drop_append, List.drop_eq_nil_of_le (by omega), List.nil_append, List.drop_drop,
        hbehind]
    rw [if_pos hsecond, slice?_eq (Nat.zero_le _) (by omega), Option.bind_some,
      copyOver?_eq (by omega) (by omega), List.take_left' (by omega), hdrop, ← List.append_assoc]
    rfl
  · have hall : first = n := by omega
    rw [if_neg hsecond, hall, Nat.sub_self, List.take_zero, List.drop_nil, List.append_nil]
    rfl

/-! ## Every run -/

/-- Something to ask of a ring. -/
inductive Call where
  | push (bytes : List UInt8)
  /-- To fill a buffer from its start on. -/
  | pop (out : List UInt8)
  deriving Repr, DecidableEq

/-- What a ring answers. -/
inductive Answer where
  | stored (count : Nat)
  /-- How many bytes were taken out, and the buffer with them. -/
  | taken (count : Nat) (out : List UInt8)
  deriving Repr, DecidableEq

/-- Does what is asked for. -/
def answer (r : Ring) : Call → Ring × Answer
  | .push bytes =>
    let (next, count) := r.push bytes
    (next, .stored count)
  | .pop out =>
    let (next, taken) := r.pop out.length
    (next, .taken taken.length (taken ++ out.drop taken.length))

/-- `answer`, with its copies in place. -/
def answer? (r : Ring) : Call → Option (Ring × Answer)
  | .push bytes => (r.push? bytes).map fun (next, count) => (next, .stored count)
  | .pop out => (r.pop? out).map fun (next, count, out) => (next, .taken count out)

/-- What a list of at most `capacity` bytes answers: it takes in the first ones that there
is room for, and gives out the first ones that it holds. -/
def answerOfList (capacity : Nat) (stored : List UInt8) : Call → List UInt8 × Answer
  | .push bytes =>
    let count := min bytes.length (capacity - stored.length)
    (stored ++ bytes.take count, .stored count)
  | .pop out =>
    let count := min out.length stored.length
    (stored.drop count, .taken count (stored.take count ++ out.drop count))

/-- The answers to calls one after the other. -/
def inTurn {σ : Type} (answer : σ → Call → σ × Answer) (s : σ) : List Call → σ × List Answer
  | [] => (s, [])
  | call :: rest =>
    let (next, first) := answer s call
    let (last, others) := inTurn answer next rest
    (last, first :: others)

/-- `inTurn` of `answer`, with all copies in place. -/
def run? (r : Ring) : List Call → Option (Ring × List Answer)
  | [] => some (r, [])
  | call :: rest => do
    let (next, first) ← r.answer? call
    let (last, others) ← next.run? rest
    return (last, first :: others)

theorem answer_pop (h : r.Fits) (out : List UInt8) :
    r.answer (.pop out) = ((r.pop out.length).1, .taken (min out.length r.count)
      (r.contents.take out.length ++ out.drop (min out.length r.count))) := by
  rw [← length_pop h, ← bytes_pop h]
  rfl

theorem answer?_eq (h : r.Fits) (call : Call) : r.answer? call = some (r.answer call) := by
  cases call with
  | push bytes =>
    rw [answer?, push?_eq h]
    rfl
  | pop out =>
    rw [answer?, pop?_eq h, answer_pop h, ← bytes_pop h]
    rfl

theorem fits_answer (h : r.Fits) (call : Call) : (r.answer call).1.Fits := by
  cases call with
  | push bytes => exact fits_push h
  | pop out => exact fits_pop h

theorem capacity_answer (r : Ring) (call : Call) : (r.answer call).1.capacity = r.capacity := by
  cases call with
  | push bytes => exact capacity_push r bytes
  | pop out => exact capacity_pop r out.length

/-- **One call is answered as by the list.** -/
theorem contents_answer (h : r.Fits) (call : Call) :
    ((r.answer call).1.contents, (r.answer call).2) =
      answerOfList r.capacity r.contents call := by
  cases call with
  | push bytes =>
    have hfree : r.capacity - r.contents.length = r.free := by rw [length_contents]; rfl
    have hstored : bytes.take (min bytes.length r.free) = bytes.take r.free := by
      rw [Nat.min_comm, ← List.take_take, List.take_length]
    simp only [answer, answerOfList, hfree, contents_push h, hstored]
    rfl
  | pop out =>
    have htaken : r.contents.take (min out.length r.count) = r.contents.take out.length := by
      rw [← List.take_take, ← length_contents r, List.take_length]
    have hleft : r.contents.drop (min out.length r.count) = r.contents.drop out.length := by
      rcases Nat.le_total out.length r.count with hle | hle
      · rw [Nat.min_eq_left hle]
      · have hnone : r.contents.drop out.length = [] :=
          List.drop_eq_nil_of_le (by rw [length_contents]; exact hle)
        rw [Nat.min_eq_right hle, hnone, ← length_contents r, List.drop_length]
    rw [answer_pop h, contents_pop, answerOfList, length_contents, htaken, hleft]

theorem run?_eq (h : r.Fits) (calls : List Call) : r.run? calls = some (inTurn answer r calls) := by
  induction calls generalizing r with
  | nil => rfl
  | cons call rest ih =>
    rw [run?, answer?_eq h, Option.bind_eq_bind, Option.bind_some]
    exact congrArg (Option.bind · _) (ih (fits_answer h call))

theorem inTurn_answer (h : r.Fits) (calls : List Call) :
    ((inTurn answer r calls).1.contents, (inTurn answer r calls).2) =
        inTurn (answerOfList r.capacity) r.contents calls ∧
      (inTurn answer r calls).1.Fits ∧ (inTurn answer r calls).1.capacity = r.capacity := by
  induction calls generalizing r with
  | nil => exact ⟨rfl, h, rfl⟩
  | cons call rest ih =>
    obtain ⟨hanswers, hfits, hcapacity⟩ := ih (fits_answer h call)
    rw [capacity_answer] at hanswers hcapacity
    refine ⟨?_, hfits, hcapacity⟩
    have hcall := contents_answer h call
    simp only [inTurn, ← hcall, ← hanswers]

/-- **A ring is a bounded list.** Whatever is asked of a ring with any room at all, in any
order, every slice that it copies and every difference that it takes is in range; it
answers as the list of its stored bytes does, and these are what the list holds then. -/
theorem behaves_as_list {capacity : Nat} (h : 1 ≤ capacity) (calls : List Call) :
    let (r, answers) := inTurn answer (empty capacity) calls
    (empty capacity).run? calls = some (r, answers) ∧
      (r.contents, answers) = inTurn (answerOfList capacity) [] calls ∧
      r.capacity = capacity ∧ r.head < capacity ∧ r.count ≤ capacity := by
  have hfits : (empty capacity).Fits := fits_empty h
  have hcapacity : (empty capacity).capacity = capacity := Array.size_replicate
  obtain ⟨hanswers, hreached, hsame⟩ := inTurn_answer hfits calls
  rw [hcapacity] at hanswers hsame
  obtain ⟨hhead, hcount⟩ := hreached
  rw [hsame] at hhead hcount
  exact ⟨run?_eq hfits calls, hanswers, hsame, hhead, hcount⟩

/-- Six bytes, of which four are taken out, and seven more, of which six fill a ring of eight
and wrap at the end of its array. -/
theorem behaves_as_list_wrapped :
    let calls : List Call :=
      [.push [1, 2, 3, 4, 5, 6], .pop [0, 0, 0, 0], .push [7, 8, 9, 10, 11, 12, 13],
        .pop [0, 0, 0, 0, 0, 0, 0, 0, 0]]
    1 ≤ 8 ∧ ((empty 8).run? calls).map (·.2) =
      some [.stored 6, .taken 4 [1, 2, 3, 4], .stored 6,
        .taken 8 [5, 6, 7, 8, 9, 10, 11, 12, 0]] := by
  intro calls
  have hroom : 1 ≤ 8 := by decide
  obtain ⟨hrun, hlist, -⟩ := behaves_as_list hroom calls
  refine ⟨hroom, ?_⟩
  rw [hrun, Option.map_some]
  exact congrArg (fun reached => some reached.2) hlist

end Ring

end Teletype

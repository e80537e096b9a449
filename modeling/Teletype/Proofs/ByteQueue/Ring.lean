import Teletype.ByteQueue.Ring

/-!
# The ring as a list

A ring stands for the list of its bytes (`contents`): pushing appends the first
bytes that there is room for, and popping takes bytes off the front. Both wrap at
the end of the array, and since neither `head` nor `count` exceeds the capacity
they wrap at most once (`Fits`).
-/

namespace Teletype.Ring

/-- The stored bytes lie within the array. -/
structure Fits (r : Ring) : Prop where
  head_lt : r.head < r.capacity
  count_le : r.count ≤ r.capacity

variable {r : Ring} {bytes : List UInt8} {limit i : Nat}

/-! ## Places in the array -/

/-- Less than twice around, an index wraps once or not at all. -/
theorem mod_eq_ite {n c : Nat} (h : n < 2 * c) : n % c = if n < c then n else n - c := by
  split
  next hlt => exact Nat.mod_eq_of_lt hlt
  next hge => rw [Nat.mod_eq_sub_mod (by omega), Nat.mod_eq_of_lt (by omega)]

/-- A stored byte lies neither at the start, nor behind those that are stored, as far as
`n` more bytes are written there. -/
theorem place_of_stored {head count n c : Nat} (hhead : head < c) (hroom : count + n ≤ c)
    (hi : i < count) :
    n - min n (c - (head + count) % c) ≤ (head + i) % c ∧
      ((head + i) % c < (head + count) % c ∨
        (head + count) % c + min n (c - (head + count) % c) ≤ (head + i) % c) := by
  rw [mod_eq_ite (n := head + count) (by omega), mod_eq_ite (n := head + i) (by omega)]
  split <;> split <;> omega

/-- An added byte lies at the start if there was no more room behind those that are
stored, and else there. -/
theorem place_of_added {head count n c : Nat} (hhead : head < c) (hroom : count + n ≤ c)
    (hle : count ≤ i) (hi : i < count + n) :
    ((head + i) % c < n - min n (c - (head + count) % c) ∧
        min n (c - (head + count) % c) + (head + i) % c = i - count) ∨
      (n - min n (c - (head + count) % c) ≤ (head + i) % c ∧
        (head + count) % c ≤ (head + i) % c ∧
        (head + i) % c < (head + count) % c + min n (c - (head + count) % c) ∧
        (head + i) % c - (head + count) % c = i - count) := by
  rw [mod_eq_ite (n := head + count) (by omega), mod_eq_ite (n := head + i) (by omega)]
  split <;> split <;> omega

/-- Copying changes the places from `start` on, one for each byte. -/
theorem getElem?_copyAt {start : Nat} {buffer : Array UInt8}
    (h : start + bytes.length ≤ buffer.size) :
    (copyAt start bytes buffer)[i]? =
      if start ≤ i ∧ i < start + bytes.length then bytes[i - start]? else buffer[i]? := by
  unfold copyAt
  induction bytes generalizing start buffer with
  | nil => rw [if_neg (by simp)]; rfl
  | cons byte rest ih =>
    rw [List.length_cons] at h
    rw [List.foldl_cons, ih (by rw [Array.size_setIfInBounds]; omega), List.length_cons]
    rcases Nat.lt_trichotomy i start with hlt | rfl | hgt
    · rw [if_neg (by omega), if_neg (by omega), Array.getElem?_setIfInBounds_ne (by omega)]
    · rw [if_neg (by omega), if_pos (by omega), Array.getElem?_setIfInBounds_self_of_lt (by omega),
        Nat.sub_self]
      rfl
    · have hi : i - start = i - (start + 1) + 1 := by omega
      by_cases hin : i < start + 1 + rest.length
      · rw [if_pos (by omega), if_pos (by omega), hi, List.getElem?_cons_succ]
      · rw [if_neg (by omega), if_neg (by omega), Array.getElem?_setIfInBounds_ne (by omega)]

/-- The bytes at the first places of a list, in order. -/
theorem map_getElem?_range {n : Nat} (h : n ≤ bytes.length) :
    (List.range n).map (fun i => bytes[i]?.getD 0) = bytes.take n := by
  refine List.ext_getElem (by simp [h]) fun i hi _ => ?_
  have hlt : i < bytes.length := by
    rw [List.length_map, List.length_range] at hi
    omega
  simp [hlt]

/-! ## Pushing -/

theorem fits_empty {capacity : Nat} (h : 0 < capacity) : (empty capacity).Fits := by
  constructor
  · simpa [empty, Ring.capacity] using h
  · exact Nat.zero_le _

/-- Behind `count` are the new bytes, in front of it is what was there. -/
theorem getElem?_push (h : r.Fits) (hi : i < r.count + min bytes.length r.free) :
    (r.push bytes).1.buffer[(r.head + i) % r.capacity]? =
      if i < r.count then r.buffer[(r.head + i) % r.capacity]? else bytes[i - r.count]? := by
  obtain ⟨hhead, hcount⟩ := h
  have hfree : r.free = r.capacity - r.count := rfl
  have hsize : r.buffer.size = r.capacity := rfl
  have htail : (r.head + r.count) % r.capacity < r.capacity := Nat.mod_lt _ (by omega)
  have hroom : r.count + min bytes.length r.free ≤ r.capacity := by omega
  have hold := place_of_stored (i := i) hhead hroom
  have hnew := place_of_added (i := i) hhead hroom
  simp only [push]
  generalize hn : min bytes.length r.free = n at hi hold hnew
  generalize (r.head + r.count) % r.capacity = tail at htail hold hnew
  generalize (r.head + i) % r.capacity = place at hold hnew
  generalize hf : min n (r.capacity - tail) = first at hold hnew
  have hlength : (bytes.take n).length = n := List.length_take_of_le (by omega)
  have hfirst : ((bytes.take n).take first).length = first := List.length_take_of_le (by omega)
  have hsecond : ((bytes.take n).drop first).length = n - first := by rw [List.length_drop, hlength]
  rw [getElem?_copyAt (by rw [size_copyAt, hsecond]; omega), getElem?_copyAt (by rw [hfirst]; omega),
    hfirst, hsecond]
  by_cases hstored : i < r.count
  · obtain ⟨hstart, hbehind⟩ := hold hstored
    rw [if_pos hstored, if_neg (by omega), if_neg (by omega)]
  · rw [if_neg hstored]
    rcases hnew (by omega) hi with ⟨hstart, hj⟩ | ⟨hstart, hle, hlt, hj⟩
    · have hj' : first + (place - 0) = i - r.count := hj
      rw [if_pos (by omega), List.getElem?_drop, hj', List.getElem?_take_of_lt (by omega)]
    · rw [if_neg (by omega), if_pos ⟨hle, hlt⟩, hj, List.getElem?_take_of_lt (by omega),
        List.getElem?_take_of_lt (by omega)]

/-- **Pushing appends** the first bytes that there is room for. -/
theorem contents_push (h : r.Fits) :
    (r.push bytes).1.contents = r.contents ++ bytes.take r.free := by
  have hcapacity : (r.push bytes).1.capacity = r.capacity := capacity_push r bytes
  have hhead : (r.push bytes).1.head = r.head := rfl
  have htake : bytes.take (min bytes.length r.free) = bytes.take r.free := by
    rw [Nat.min_comm, ← List.take_take, List.take_length]
  unfold contents
  rw [count_push, hcapacity, hhead, List.range_add, List.map_append, List.map_map, ← htake,
    ← map_getElem?_range (Nat.min_le_left _ _)]
  congr 1
  · refine List.map_congr_left fun i hi => ?_
    have hlt : i < r.count := List.mem_range.mp hi
    rw [Array.getD_eq_getD_getElem?, getElem?_push h (by omega), if_pos hlt,
      Array.getD_eq_getD_getElem?]
  · refine List.map_congr_left fun i hi => ?_
    have hlt : i < min bytes.length r.free := List.mem_range.mp hi
    rw [Function.comp_apply, Array.getD_eq_getD_getElem?, getElem?_push h (by omega),
      if_neg (by omega), Nat.add_sub_cancel_left]

theorem fits_push (h : r.Fits) : (r.push bytes).1.Fits where
  head_lt := by rw [capacity_push]; exact h.head_lt
  count_le := by
    have hfree : r.free = r.capacity - r.count := rfl
    have hcount := h.count_le
    rw [capacity_push, count_push]
    omega

/-! ## Popping -/

/-- The bytes taken out are those at the first places behind `head`. -/
theorem getElem?_pop (h : r.Fits) (hi : i < min limit r.count) :
    (r.pop limit).2[i]? = r.buffer[(r.head + i) % r.capacity]? := by
  obtain ⟨hhead, hcount⟩ := h
  have hsize : r.buffer.size = r.capacity := rfl
  have hplace := mod_eq_ite (n := r.head + i) (c := r.capacity) (by omega)
  simp only [pop, Array.getElem?_toList]
  generalize hn : min limit r.count = n at hi
  generalize (r.head + i) % r.capacity = place at hplace
  by_cases hwraps : i < min n (r.capacity - r.head)
  · have hj : r.head + i = place := by split at hplace <;> omega
    rw [Array.getElem?_append_left (by rw [Array.size_extract]; omega), Array.getElem?_extract,
      if_pos (by omega), hj]
  · have hfirst : (r.buffer.extract r.head (r.head + min n (r.capacity - r.head))).size =
        r.capacity - r.head := by
      rw [Array.size_extract]
      omega
    have hj : 0 + (i - (r.capacity - r.head)) = place := by split at hplace <;> omega
    rw [Array.getElem?_append_right (by omega), hfirst, Array.getElem?_extract,
      if_pos (by omega), hj]

theorem length_pop (h : r.Fits) : (r.pop limit).2.length = min limit r.count := by
  obtain ⟨hhead, hcount⟩ := h
  have hsize : r.buffer.size = r.capacity := rfl
  simp only [pop, Array.length_toList, Array.size_append, Array.size_extract]
  omega

theorem length_contents (r : Ring) : r.contents.length = r.count := by
  simp [contents]

/-- **Popping takes bytes off the front.** -/
theorem bytes_pop (h : r.Fits) : (r.pop limit).2 = r.contents.take limit := by
  refine List.ext_getElem? fun i => ?_
  by_cases hi : i < min limit r.count
  · have hlt : (r.head + i) % r.capacity < r.buffer.size :=
      Nat.mod_lt _ (Nat.zero_lt_of_lt h.head_lt)
    rw [getElem?_pop h hi, List.getElem?_take_of_lt (by omega), contents, List.getElem?_map,
      List.getElem?_range (by omega), Option.map_some, Array.getD_eq_getD_getElem?,
      Array.getElem?_eq_getElem hlt]
    rfl
  · rw [List.getElem?_eq_none (by rw [length_pop h]; omega),
      List.getElem?_eq_none (by rw [List.length_take, length_contents]; omega)]

theorem contents_pop (r : Ring) : (r.pop limit).1.contents = r.contents.drop limit := by
  have hcapacity : (r.pop limit).1.capacity = r.capacity := capacity_pop r limit
  have hhead : (r.pop limit).1.head = (r.head + min limit r.count) % r.capacity := rfl
  have hbuffer : (r.pop limit).1.buffer = r.buffer := rfl
  refine List.ext_getElem? fun i => ?_
  rw [List.getElem?_drop]
  unfold contents
  rw [count_pop, hcapacity, hhead, hbuffer, List.getElem?_map, List.getElem?_map]
  by_cases hi : limit + i < r.count
  · rw [List.getElem?_range (by omega), List.getElem?_range hi, Option.map_some, Option.map_some,
      Nat.mod_add_mod, Nat.min_eq_left (by omega), Nat.add_assoc]
  · rw [List.getElem?_eq_none (by rw [List.length_range]; omega),
      List.getElem?_eq_none (by rw [List.length_range]; omega)]
    rfl

theorem fits_pop (h : r.Fits) : (r.pop limit).1.Fits where
  head_lt := Nat.mod_lt _ (Nat.zero_lt_of_lt h.head_lt)
  count_le := Nat.le_trans (Nat.sub_le _ _) h.count_le

end Teletype.Ring

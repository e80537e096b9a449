import Teletype.ByteQueue
import Teletype.Proofs.ByteQueue.Ring

/-!
# Turns at a queue

All that a turn can do to a queue, said once for each side (`writeTurn_cases`,
`readTurn_cases`): it changes nothing, or it moves bytes at one end of the list
that the queue stands for (`contents`).
-/

namespace Teletype.ByteQueue

/-- The bytes stored, the oldest first. -/
def contents (q : ByteQueue) : List UInt8 :=
  q.ring.contents

/-- Whether there is room for another byte. -/
def isFull (q : ByteQueue) : Bool :=
  q.ring.free = 0

/-- A queue as its operations leave it. -/
structure Sound (q : ByteQueue) : Prop where
  fits : q.ring.Fits
  /-- What was stored is thrown away when the queue is closed. -/
  empty_of_closed : q.isOpen = false → q.length = 0

variable {q q' : ByteQueue}

theorem length_contents (q : ByteQueue) : q.contents.length = q.length :=
  Ring.length_contents q.ring

theorem contents_eq_nil (h : q.length = 0) : q.contents = [] :=
  List.eq_nil_of_length_eq_zero ((length_contents q).trans h)

theorem sound_initial (capacity : Nat) : (initial capacity).Sound where
  fits := Ring.fits_empty (Nat.le_max_right capacity 1)
  empty_of_closed := fun h => nomatch h

theorem capacity_initial (capacity : Nat) : (initial capacity).capacity = max capacity 1 := by
  simp [initial, ByteQueue.capacity, Ring.empty, Ring.capacity]

theorem Sound.close (h : q.Sound) : q.close.Sound where
  fits := ⟨h.fits.head_lt, Nat.zero_le _⟩
  empty_of_closed := fun _ => rfl

theorem Sound.length_le (h : q.Sound) : q.length ≤ q.capacity :=
  h.fits.count_le

theorem Sound.capacity_pos (h : q.Sound) : 0 < q.capacity :=
  Nat.zero_lt_of_lt h.fits.head_lt

/-- A queue is not full and empty at once. -/
theorem Sound.not_isFull_of_empty (h : q.Sound) (hempty : q.length = 0) : q.isFull = false := by
  have hpos : 0 < q.ring.capacity := h.capacity_pos
  have hcount : q.ring.count = 0 := hempty
  have hfree : q.ring.free = q.ring.capacity - q.ring.count := rfl
  exact decide_eq_false (by omega)

theorem isFull_congr (hcapacity : q'.capacity = q.capacity) (hlength : q'.length = q.length) :
    q'.isFull = q.isFull := by
  have hfree : ∀ q : ByteQueue, q.isFull = decide (q.capacity - q.length = 0) := fun _ => rfl
  rw [hfree, hfree, hcapacity, hlength]

/-! ## Writing -/

/-- Bytes were stored at the end of an open queue. -/
structure Stores (q : ByteQueue) (bytes : List UInt8) (q' : ByteQueue) : Prop where
  was_open : q.isOpen = true
  isOpen_eq : q'.isOpen = true
  sound : q'.Sound
  capacity_eq : q'.capacity = q.capacity
  contents_eq : q'.contents = q.contents ++ bytes

/-- What a turn of a writer can come to. -/
inductive WriteTurn (q : ByteQueue) (w : Writing) : ByteQueue × Turn Nat Writing → Prop
  /-- There is nothing to write. -/
  | nothing (hrest : w.rest = []) : WriteTurn q w (q, .done w.stored)
  | closed (hrest : w.rest ≠ []) (hclosed : q.isOpen = false) : WriteTurn q w (q, .closed)
  /-- There is no room. -/
  | full (hrest : w.rest ≠ []) (hopen : q.isOpen = true) (hfull : q.isFull = true) :
      WriteTurn q w (q, .waiting w)
  /-- Enough is stored. -/
  | complete (q' : ByteQueue) (n : Nat) (hpos : 0 < n) (hle : n ≤ w.rest.length)
      (hstores : Stores q (w.rest.take n) q') (henough : w.allowPartial = true ∨ n = w.rest.length) :
      WriteTurn q w (q', .done (w.stored + n))
  /-- Some is stored, and for the rest there is no room. -/
  | some (q' : ByteQueue) (n : Nat) (hpos : 0 < n) (hlt : n < w.rest.length)
      (hstores : Stores q (w.rest.take n) q') (hfull : q'.isFull = true)
      (hpartial : w.allowPartial = false) :
      WriteTurn q w
        (q', .waiting { w with rest := w.rest.drop n, stored := w.stored + n })

theorem sound_open {ring : Ring} (h : ring.Fits) : (ByteQueue.mk ring true).Sound :=
  ⟨h, fun hclosed => nomatch hclosed⟩

theorem stores_push {ring : Ring} (h : ring.Fits) (bytes : List UInt8) :
    Stores ⟨ring, true⟩ (bytes.take (min bytes.length ring.free)) ⟨(ring.push bytes).1, true⟩ where
  was_open := rfl
  isOpen_eq := rfl
  sound := sound_open (Ring.fits_push h)
  capacity_eq := Ring.capacity_push ring bytes
  contents_eq := by
    have htake : bytes.take (min bytes.length ring.free) = bytes.take ring.free := by
      rw [Nat.min_comm, ← List.take_take, List.take_length]
    rw [htake]
    exact Ring.contents_push h

/-- **A turn of a writer** stores as many bytes as there is room for. -/
theorem Sound.writeTurn (h : q.Sound) (w : Writing) : WriteTurn q w (q.writeTurn w) := by
  obtain ⟨ring, isOpen⟩ := q
  have hfits : ring.Fits := h.fits
  unfold ByteQueue.writeTurn
  by_cases hrest : w.rest = []
  · rw [if_pos (by rw [hrest]; rfl)]
    exact .nothing hrest
  rw [if_neg (by rwa [List.isEmpty_iff])]
  cases isOpen with
  | false => exact .closed hrest rfl
  | true =>
    simp only [Bool.not_true, Bool.false_eq_true, if_false]
    by_cases hfull : ring.free = 0
    · rw [if_pos hfull]
      exact .full hrest rfl (decide_eq_true hfull)
    rw [if_neg hfull]
    have hpos : 0 < w.rest.length := List.length_pos_iff.mpr hrest
    have hfree : ring.free = ring.capacity - ring.count := rfl
    have hstores := stores_push hfits w.rest
    have hcount : (ring.push w.rest).2 = min w.rest.length ring.free := rfl
    rw [hcount]
    split
    next henough =>
      refine .complete _ _ (by omega) (Nat.min_le_left _ _) hstores ?_
      rcases Bool.or_eq_true_iff.mp henough with hpartial | hempty
      · exact .inl hpartial
      · rw [List.isEmpty_iff, List.drop_eq_nil_iff] at hempty
        exact .inr (by omega)
    next hmore =>
      rw [Bool.or_eq_true, not_or, List.isEmpty_iff, List.drop_eq_nil_iff] at hmore
      refine .some _ _ (by omega) (by omega) hstores (decide_eq_true ?_)
        ((Bool.not_eq_true _).mp hmore.1)
      show (ring.push w.rest).1.capacity - (ring.push w.rest).1.count = 0
      rw [Ring.capacity_push, Ring.count_push]
      omega

/-- Where there is no room, a writer waits with all that it has. -/
theorem writeTurn_of_isFull {w : Writing} (hrest : w.rest ≠ []) (hopen : q.isOpen = true)
    (hfull : q.isFull = true) : q.writeTurn w = (q, .waiting w) := by
  rw [ByteQueue.writeTurn, if_neg (by rwa [List.isEmpty_iff]), if_neg (by simp [hopen]),
    if_pos (of_decide_eq_true hfull)]

theorem Stores.length_add_le {bytes : List UInt8} (h : Stores q bytes q') :
    q.length + bytes.length ≤ q.capacity := by
  have hlength := congrArg List.length h.contents_eq
  rw [List.length_append, length_contents, length_contents] at hlength
  rw [← h.capacity_eq, ← hlength]
  exact h.sound.length_le

/-- What does not fit waits in the end. -/
theorem Sound.waits_of_lt (h : q.Sound) (hopen : q.isOpen = true) {w : Writing}
    (hpartial : w.allowPartial = false) (hlt : q.capacity < q.length + w.rest.length) :
    ∃ q' rest, q.writeTurn w = (q', .waiting rest) ∧ q'.isFull = true := by
  have hturn := h.writeTurn w
  generalize q.writeTurn w = turn at hturn ⊢
  have hlen := h.length_le
  cases hturn with
  | nothing hrest =>
    rw [hrest, List.length_nil] at hlt
    omega
  | closed _ hclosed =>
    rw [hopen] at hclosed
    cases hclosed
  | full _ _ hfull => exact ⟨q, w, rfl, hfull⟩
  | complete q' n _ _ hstores henough =>
    -- all of it was stored, and so it had room
    have hroom := hstores.length_add_le
    have hall : n = w.rest.length := henough.resolve_left (by rw [hpartial]; decide)
    rw [hall, List.take_length] at hroom
    omega
  | some q' n _ _ _ hfull => exact ⟨q', _, rfl, hfull⟩

theorem capacity_le_of_isFull (hfull : q.isFull = true) : q.capacity ≤ q.length := by
  have hfree : q.capacity - q.length = 0 := of_decide_eq_true hfull
  omega

/-- What fits is stored at once. -/
theorem Sound.stores_of_le (h : q.Sound) (hopen : q.isOpen = true) {w : Writing}
    (hpartial : w.allowPartial = false) (hle : q.length + w.rest.length ≤ q.capacity) :
    ∃ q' count, q.writeTurn w = (q', .done count) ∧ Stores q w.rest q' := by
  have hturn := h.writeTurn w
  generalize q.writeTurn w = turn at hturn ⊢
  cases hturn with
  | nothing hrest => exact ⟨q, _, rfl, hopen, hopen, h, rfl, by rw [hrest, List.append_nil]⟩
  | closed _ hclosed =>
    rw [hopen] at hclosed
    cases hclosed
  | full hrest _ hfull =>
    have hroom := capacity_le_of_isFull hfull
    have hpos := List.length_pos_iff.mpr hrest
    omega
  | complete q' n _ _ hstores henough =>
    obtain rfl : n = w.rest.length := henough.resolve_left (by rw [hpartial]; decide)
    rw [List.take_length] at hstores
    exact ⟨q', _, rfl, hstores⟩
  | some q' n _ hlt hstores hfull =>
    -- a full queue holds more than what was there and fits
    have hroom := capacity_le_of_isFull hfull
    have hlength := congrArg List.length hstores.contents_eq
    rw [List.length_append, length_contents, length_contents, List.length_take,
      Nat.min_eq_left (Nat.le_of_lt hlt)] at hlength
    rw [hstores.capacity_eq] at hroom
    omega

theorem Sound.of_writeTurn (h : q.Sound) (w : Writing) : (q.writeTurn w).1.Sound := by
  have hturn := h.writeTurn w
  generalize q.writeTurn w = turn at hturn
  cases hturn with
  | complete _ _ _ _ hstores => exact hstores.sound
  | some _ _ _ _ hstores => exact hstores.sound
  | _ => exact h

/-- No turn opens or closes a queue. -/
theorem isOpen_writeTurn (q : ByteQueue) (w : Writing) : (q.writeTurn w).1.isOpen = q.isOpen := by
  unfold ByteQueue.writeTurn
  split
  · rfl
  · split
    · rfl
    · split <;> rfl

/-! ## Reading -/

/-- What a turn of a reader can come to. -/
inductive ReadTurn (q : ByteQueue) (r : Reading) :
    ByteQueue × Turn (List UInt8) Reading → Prop
  | closed (hclosed : q.isOpen = false) : ReadTurn q r (q, .closed)
  /-- There are no bytes, and it waits for some. -/
  | waits (hopen : q.isOpen = true) (hempty : q.length = 0) (hblock : r.block = true) :
      ReadTurn q r (q, .waiting r)
  /-- There are no bytes. -/
  | nothing (hopen : q.isOpen = true) (hempty : q.length = 0) (hblock : r.block = false) :
      ReadTurn q r (q, .done [])
  /-- It takes bytes off the front. -/
  | takes (q' : ByteQueue) (hopen : q.isOpen = true) (hpos : 0 < q.length)
      (hopen' : q'.isOpen = true) (hsound : q'.Sound) (hcapacity : q'.capacity = q.capacity)
      (hcontents : q'.contents = q.contents.drop r.limit) :
      ReadTurn q r (q', .done (q.contents.take r.limit))

/-- **A turn of a reader** takes as many bytes as it may. -/
theorem Sound.readTurn (h : q.Sound) (r : Reading) : ReadTurn q r (q.readTurn r) := by
  obtain ⟨ring, isOpen⟩ := q
  have hfits : ring.Fits := h.fits
  unfold ByteQueue.readTurn
  cases isOpen with
  | false => exact .closed rfl
  | true =>
    simp only [Bool.not_true, Bool.false_eq_true, if_false]
    by_cases hempty : ring.count = 0
    · rw [if_pos hempty]
      split
      next hblock => exact .waits rfl hempty hblock
      next hblock => exact .nothing rfl hempty ((Bool.not_eq_true _).mp hblock)
    rw [if_neg hempty]
    rw [Ring.bytes_pop hfits]
    exact .takes _ rfl (Nat.pos_of_ne_zero hempty) rfl (sound_open (Ring.fits_pop hfits))
      (Ring.capacity_pop _ _) (Ring.contents_pop _)

theorem Sound.of_readTurn (h : q.Sound) (r : Reading) :
    (q.readTurn r).1.Sound ∧ (q.contents = [] → (q.readTurn r).1.contents = []) := by
  have hturn := h.readTurn r
  generalize q.readTurn r = turn at hturn
  cases hturn with
  | takes q' _ _ _ hsound _ hcontents =>
    refine ⟨hsound, fun hempty => ?_⟩
    rw [hcontents, hempty, List.drop_nil]
  | _ => exact ⟨h, id⟩

theorem isOpen_readTurn (q : ByteQueue) (r : Reading) : (q.readTurn r).1.isOpen = q.isOpen := by
  unfold ByteQueue.readTurn
  split
  · rfl
  · split <;> rfl

/-- Only a closed queue is found closed. -/
theorem isOpen_of_readTurn_closed {r : Reading}
    (h : (q.readTurn r).2 = .closed) : q.isOpen = false := by
  unfold ByteQueue.readTurn at h
  split at h
  next hclosed => simpa using hclosed
  next =>
    split at h
    · dsimp only at h
      split at h <;> cases h
    · cases h

theorem isOpen_drain (q : ByteQueue) (limit : Nat) : (q.drain limit).1.isOpen = q.isOpen := by
  induction q using drain.induct limit with
  | case1 q hmore popped _ _ _ ih =>
    rw [drain, dif_pos hmore]
    exact ih
  | case2 q hmore => rw [drain, dif_neg hmore]

/-- **Draining takes everything**, in pieces that are not empty and not too long. -/
theorem Sound.of_drain (h : q.Sound) {limit : Nat} (hlimit : 0 < limit) :
    (q.drain limit).1.Sound ∧ (q.drain limit).1.contents = [] ∧
      (q.drain limit).2.flatten = q.contents ∧
      ∀ piece ∈ (q.drain limit).2, piece ≠ [] ∧ piece.length ≤ limit := by
  induction q using drain.induct limit with
  | case1 q hmore popped _ _ hdrain ih =>
    obtain ⟨hopen, hpos, -⟩ := hmore
    have hfits : q.ring.Fits := h.fits
    have hpopped : (⟨popped.1, q.isOpen⟩ : ByteQueue).Sound :=
      hopen ▸ sound_open (Ring.fits_pop hfits)
    obtain ⟨hsound, hempty, hflatten, hpieces⟩ := ih hpopped
    have hlength : (q.ring.pop limit).2.length = min limit q.ring.count := Ring.length_pop hfits
    rw [drain, dif_pos ⟨hopen, hpos, hlimit⟩]
    refine ⟨hsound, hempty, ?_, List.forall_mem_cons.mpr
      ⟨⟨fun hnil => ?_, hlength ▸ Nat.min_le_left limit _⟩, hpieces⟩⟩
    · rw [List.flatten_cons, hflatten]
      show (q.ring.pop limit).2 ++ (q.ring.pop limit).1.contents = q.ring.contents
      rw [Ring.bytes_pop hfits, Ring.contents_pop, List.take_append_drop]
    · have hnone : (q.ring.pop limit).2.length = 0 := congrArg List.length hnil
      omega
  | case2 q hmore =>
    have hzero : q.length = 0 := by
      cases hopen : q.isOpen with
      | true => exact Nat.eq_zero_of_not_pos fun hpos => hmore ⟨hopen, hpos, hlimit⟩
      | false => exact h.empty_of_closed hopen
    rw [drain, dif_neg hmore, contents_eq_nil hzero]
    exact ⟨h, rfl, rfl, nofun⟩

end Teletype.ByteQueue

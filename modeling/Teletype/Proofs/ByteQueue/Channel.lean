import Teletype.ByteQueue.Channel
import Teletype.Proofs.ByteQueue.Turns

/-!
# Nothing is lost between two sides

A write may take many turns, with reads and the closing of the queue between them.
What holds between any two moves is `Coherent`: what was read and what is stored
now are together what was stored so far, and a side sleeps only while the queue is
as it found it. Each move keeps this (`Coherent.move`), and so does every run
(`lossless`).
-/

namespace Teletype

namespace Side

variable {α : Type} {side : Side α} {operation : α}

@[simp] theorem operation?_wake (side : Side α) : side.wake.operation? = side.operation? := by
  cases side <;> rfl

theorem wake_ne_asleep : side.wake ≠ .asleep operation := by
  cases side <;> exact nofun

end Side

namespace Channel

/-- A write that is under way as its turns leave it. -/
structure Sending.Sound (s : Sending) : Prop where
  rest_eq : s.progress.rest = s.data.drop s.progress.stored
  le_length : s.progress.stored ≤ s.data.length
  /-- A write that has nothing left to do is over, but for one of nothing. -/
  eq_nil : s.progress.rest = [] → s.data = []

/-- What is true of a write that was not refused: it stored all of its bytes, or some
of them if that was enough. -/
def Sent.Kept (s : Sent) : Prop :=
  ∀ n, s.count? = some n →
    n ≤ s.data.length ∧ (s.allowPartial = false → n = s.data.length) ∧ (s.data ≠ [] → 0 < n)

/-- What holds of a channel between two moves. -/
structure Coherent (capacity : Nat) (c : Channel) : Prop where
  sound : c.queue.Sound
  capacity_eq : c.queue.capacity = max capacity 1
  fifo : c.queue.isOpen = true → c.taken ++ c.queue.contents = c.stored
  underway : ∀ s, c.writer.operation? = some s → s.Sound
  sent : ∀ s ∈ c.sent, s.Kept
  writer_asleep : ∀ s, c.writer = .asleep s → c.queue.isOpen = true ∧ c.queue.isFull = true
  reader_asleep : ∀ r, c.reader = .asleep r → c.queue.isOpen = true ∧ c.queue.length = 0

variable {capacity : Nat} {c : Channel} {s : Sending} {r : ByteQueue.Reading} {q : ByteQueue}

theorem coherent_initial (capacity : Nat) : Coherent capacity (initial capacity) where
  sound := ByteQueue.sound_initial capacity
  capacity_eq := ByteQueue.capacity_initial capacity
  fifo := fun _ => ByteQueue.contents_eq_nil rfl
  underway := nofun
  sent := nofun
  writer_asleep := nofun
  reader_asleep := nofun

/-! ## The writer -/

theorem stored_of_operation (hw : c.writer.operation? = some s) :
    c.stored = c.sent.flatMap Sent.bytes ++ s.bytes := by
  rw [stored, hw]
  simp

/-- Once a write has ended, what it has stored is that of an ended one. -/
theorem stored_ended {sent : List Sent} {ended : Sent} (hw : c.writer = .idle)
    (hsent : c.sent = sent ++ [ended]) :
    c.stored = sent.flatMap Sent.bytes ++ ended.bytes := by
  rw [stored, hw, hsent, List.flatMap_append]
  simp [Side.operation?]

/-- Storing more of a write is going on where it stopped. -/
theorem Sending.Sound.take_add (h : s.Sound) (n : Nat) :
    s.data.take (s.progress.stored + n) = s.bytes ++ s.progress.rest.take n := by
  rw [List.take_add, h.rest_eq, bytes]

/-- Bytes that are stored change how many there are, which wakes the other side. -/
theorem length_ne_of_stores {bytes : List UInt8} (h : c.queue.Stores bytes q)
    (hpos : 0 < bytes.length) : ¬ q.length = c.queue.length := by
  rw [← q.length_contents, ← c.queue.length_contents, h.contents_eq, List.length_append]
  omega

theorem kept_concat {sent : List Sent} {ended : Sent} (h : ∀ s ∈ sent, s.Kept)
    (hended : ended.Kept) : ∀ s ∈ sent ++ [ended], s.Kept :=
  List.forall_mem_append.mpr ⟨h, List.forall_mem_singleton.mpr hended⟩

theorem Coherent.writerTurn (h : Coherent capacity c) : Coherent capacity c.writerTurn := by
  unfold Channel.writerTurn
  split
  next s hw =>
    have hs : s.Sound := h.underway s (by rw [hw]; rfl)
    have hstored : c.stored = c.sent.flatMap Sent.bytes ++ s.bytes :=
      stored_of_operation (by rw [hw]; rfl)
    have hlength : s.progress.rest.length = s.data.length - s.progress.stored := by
      rw [hs.rest_eq, List.length_drop]
    have hle := hs.le_length
    -- what was stored is read on, and the write has come as far as the queue says
    have hmore : ∀ (q : ByteQueue) (n : Nat), c.queue.Stores (s.progress.rest.take n) q →
        c.taken ++ q.contents =
          c.sent.flatMap Sent.bytes ++ s.data.take (s.progress.stored + n) := by
      intro q n hstores
      rw [hstores.contents_eq, ← List.append_assoc, h.fifo hstores.was_open, hstored,
        List.append_assoc, hs.take_add]
    have hturn := h.sound.writeTurn s.progress
    generalize c.queue.writeTurn s.progress = turn at hturn
    cases hturn with
    | nothing hrest =>
      have hnil := hs.eq_nil hrest
      have hzero : s.progress.stored = 0 := by rw [hnil] at hle; exact Nat.le_zero.mp hle
      dsimp only
      rw [if_pos rfl, hzero]
      refine { h with
        fifo := fun hopen => ?_
        underway := nofun
        sent := kept_concat h.sent ?_
        writer_asleep := nofun }
      · rw [stored_ended rfl rfl]
        refine (h.fifo hopen).trans (hstored.trans ?_)
        simp [Sending.bytes, Sent.bytes, hzero]
      · intro n hn
        cases hn
        exact ⟨Nat.zero_le _, fun _ => by rw [hnil]; rfl, fun hne => absurd hnil hne⟩
    | closed hrest hclosed =>
      dsimp only
      rw [if_pos rfl]
      exact { h with
        fifo := fun hopen => absurd (hclosed.symm.trans hopen) (by decide)
        underway := nofun
        sent := kept_concat h.sent nofun
        writer_asleep := nofun }
    | full hrest hopen hfull =>
      dsimp only
      rw [if_pos rfl]
      refine { h with fifo := fun hopen => ?_, underway := ?_, writer_asleep := ?_ }
      · rw [stored_of_operation rfl]
        exact (h.fifo hopen).trans hstored
      · rintro _ ⟨⟩
        exact hs
      · exact fun _ _ => ⟨hopen, hfull⟩
    | complete q n hpos hle hstores henough =>
      dsimp only
      rw [if_neg (length_ne_of_stores hstores (by rw [List.length_take]; omega))]
      refine { h with
        sound := hstores.sound
        capacity_eq := hstores.capacity_eq.trans h.capacity_eq
        fifo := fun _ => ?_
        underway := nofun
        sent := kept_concat h.sent ?_
        writer_asleep := nofun
        reader_asleep := fun r hr => absurd hr Side.wake_ne_asleep }
      · rw [stored_ended rfl rfl]
        exact hmore q n hstores
      · intro m hm
        cases hm
        have hcount : s.progress.stored + n ≤ s.data.length := by omega
        refine ⟨hcount, fun hpartial => ?_, fun _ => by omega⟩
        rcases henough with hpartial' | hall
        · exact absurd (hpartial'.symm.trans hpartial) (by decide)
        · show s.progress.stored + n = s.data.length
          omega
    | some q n hpos hlt hstores hfull hpartial =>
      dsimp only
      rw [if_neg (length_ne_of_stores hstores (by rw [List.length_take]; omega))]
      refine { h with
        sound := hstores.sound
        capacity_eq := hstores.capacity_eq.trans h.capacity_eq
        fifo := fun _ => ?_
        underway := ?_
        writer_asleep := fun _ _ => ⟨hstores.isOpen_eq, hfull⟩
        reader_asleep := fun r hr => absurd hr Side.wake_ne_asleep }
      · rw [stored_of_operation rfl]
        exact hmore q n hstores
      · rintro _ ⟨⟩
        refine ⟨?_, ?_, fun hnil => ?_⟩
        · show s.progress.rest.drop n = s.data.drop (s.progress.stored + n)
          rw [hs.rest_eq, List.drop_drop]
        · show s.progress.stored + n ≤ s.data.length
          omega
        · have := List.drop_eq_nil_iff.mp hnil
          omega
  next => exact h

/-! ## The reader -/

theorem taken_ended {received : List Received} {ended : Received}
    (hreceived : c.received = received ++ [ended]) :
    c.taken = received.flatMap Received.bytes ++ ended.bytes := by
  rw [taken, hreceived, List.flatMap_append]
  simp

/-- Waking the writer takes nothing from what it has stored. -/
theorem stored_wake {d : Channel} (hsent : d.sent = c.sent) (hwriter : d.writer = c.writer.wake) :
    c.stored = d.stored := by
  rw [stored, stored, hsent, hwriter, Side.operation?_wake]

theorem Coherent.readerTurn (h : Coherent capacity c) : Coherent capacity c.readerTurn := by
  unfold Channel.readerTurn
  split
  next r hr =>
    have hturn := h.sound.readTurn r
    generalize c.queue.readTurn r = turn at hturn
    cases hturn with
    | closed hclosed =>
      dsimp only
      rw [if_pos rfl]
      exact { h with
        fifo := fun hopen => absurd (hclosed.symm.trans hopen) (by decide)
        reader_asleep := nofun }
    | waits hopen hempty hblock =>
      dsimp only
      rw [if_pos rfl]
      exact { h with reader_asleep := fun _ _ => ⟨hopen, hempty⟩ }
    | nothing hopen hempty hblock =>
      dsimp only
      rw [if_pos rfl]
      refine { h with fifo := fun hopen => ?_, reader_asleep := nofun }
      rw [taken_ended rfl, Received.bytes, Option.getD_some, List.append_nil]
      exact h.fifo hopen
    | takes q hopen hpos hopen' hsound hcapacity hcontents =>
      have hfifo : (c.taken ++ c.queue.contents.take r.limit) ++ q.contents = c.stored := by
        rw [hcontents, List.append_assoc, List.take_append_drop]
        exact h.fifo hopen
      dsimp only
      by_cases hlength : q.length = c.queue.length
      · -- nothing was to be taken, so that the writer has no more room than before
        rw [if_pos hlength]
        refine { h with
          sound := hsound
          capacity_eq := hcapacity.trans h.capacity_eq
          fifo := fun _ => ?_
          writer_asleep := fun s hs => ⟨hopen', ?_⟩
          reader_asleep := nofun }
        · rw [taken_ended rfl]
          exact hfifo
        · rw [ByteQueue.isFull_congr hcapacity hlength]
          exact (h.writer_asleep s hs).2
      · rw [if_neg hlength]
        refine { h with
          sound := hsound
          capacity_eq := hcapacity.trans h.capacity_eq
          fifo := fun _ => ?_
          underway := fun s hs => h.underway s (by rwa [Side.operation?_wake] at hs)
          writer_asleep := fun s hs => absurd hs Side.wake_ne_asleep
          reader_asleep := nofun }
        rw [taken_ended rfl]
        exact hfifo.trans (stored_wake rfl rfl)
  next => exact h

/-! ## Moves -/

/-- A write that begins has everything to do. -/
theorem sound_begun (data : List UInt8) (allowPartial : Bool) :
    (Sending.mk data { rest := data, allowPartial }).Sound where
  rest_eq := rfl
  le_length := Nat.zero_le _
  eq_nil := id

/-- A writer that wakes wants the lock, and nothing else has changed. -/
theorem Coherent.wakeWriter (h : Coherent capacity c) : Coherent capacity { c with writer := c.writer.wake } :=
  { h with
    fifo := fun hopen => (h.fifo hopen).trans (stored_wake rfl rfl)
    underway := fun s hs => h.underway s (by rwa [Side.operation?_wake] at hs)
    writer_asleep := fun _ hs => absurd hs Side.wake_ne_asleep }

theorem Coherent.wakeReader (h : Coherent capacity c) : Coherent capacity { c with reader := c.reader.wake } :=
  { h with reader_asleep := fun _ hr => absurd hr Side.wake_ne_asleep }

/-- **Every move keeps what holds of a channel.** -/
theorem Coherent.move (h : Coherent capacity c) (m : Move) : Coherent capacity (c.move m) := by
  cases m with
  | write data allowPartial =>
    simp only [Channel.move]
    split
    next hw =>
      have hstored : c.stored = c.sent.flatMap Sent.bytes ++ [] := by
        rw [stored, hw]
        rfl
      refine { h with fifo := fun hopen => ?_, underway := ?_, writer_asleep := nofun }
      · rw [stored_of_operation rfl]
        exact (h.fifo hopen).trans hstored
      · rintro _ ⟨⟩
        exact sound_begun data allowPartial
    next => exact h
  | writerTurn => exact h.writerTurn
  | wakeWriter => exact h.wakeWriter
  | read limit block =>
    simp only [Channel.move]
    split
    next => exact { h with reader_asleep := nofun }
    next => exact h
  | readerTurn => exact h.readerTurn
  | wakeReader => exact h.wakeReader
  | close =>
    have hwoken := h.wakeWriter.wakeReader
    exact { hwoken with
      sound := h.sound.close
      fifo := nofun
      writer_asleep := fun _ hs => absurd hs Side.wake_ne_asleep
      reader_asleep := fun _ hr => absurd hr Side.wake_ne_asleep }

theorem Coherent.run (h : Coherent capacity c) (moves : List Move) :
    Coherent capacity (c.run moves) := by
  induction moves generalizing c with
  | nil => exact h
  | cons m rest ih => exact ih (h.move m)

/-! ## The end -/

theorem isOpen_writerTurn (c : Channel) : c.writerTurn.queue.isOpen = c.queue.isOpen := by
  unfold Channel.writerTurn
  split
  next s _ =>
    have hopen := c.queue.isOpen_writeTurn s.progress
    generalize c.queue.writeTurn s.progress = turn at hopen
    obtain ⟨q, turn⟩ := turn
    cases turn <;> exact hopen
  next => rfl

theorem isOpen_readerTurn (c : Channel) : c.readerTurn.queue.isOpen = c.queue.isOpen := by
  unfold Channel.readerTurn
  split
  next r _ =>
    have hopen := c.queue.isOpen_readTurn r
    generalize c.queue.readTurn r = turn at hopen
    obtain ⟨q, turn⟩ := turn
    cases turn <;> exact hopen
  next => rfl

/-- A queue is open until it is closed. -/
theorem isOpen_move (c : Channel) (m : Move) :
    (c.move m).queue.isOpen = true ↔ c.queue.isOpen = true ∧ m ≠ .close := by
  cases m with
  | writerTurn => simp [Channel.move, isOpen_writerTurn]
  | readerTurn => simp [Channel.move, isOpen_readerTurn]
  | close => simp [Channel.move, ByteQueue.close]
  | write data allowPartial =>
    simp only [Channel.move]
    split <;> simp
  | read limit block =>
    simp only [Channel.move]
    split <;> simp
  | wakeWriter => simp [Channel.move]
  | wakeReader => simp [Channel.move]

theorem isOpen_run (c : Channel) (moves : List Move) :
    (c.run moves).queue.isOpen = true ↔ c.queue.isOpen = true ∧ .close ∉ moves := by
  induction moves generalizing c with
  | nil => simp [run]
  | cons m rest ih =>
    show ((c.move m).run rest).queue.isOpen = true ↔ _
    rw [ih, isOpen_move, List.mem_cons, not_or, and_assoc, ne_comm]

/-- What becomes of a write that finds the queue closed. -/
def Sending.refused (s : Sending) : Sent :=
  { data := s.data
    allowPartial := s.progress.allowPartial
    count? := if s.data = [] then some 0 else none }

/-- Behind the end a write is over at its next turn, and fails, but for one of
nothing. -/
theorem Coherent.writerTurn_of_closed (h : Coherent capacity c) (hclosed : c.queue.isOpen = false)
    (hw : c.writer = .ready s) :
    c.writerTurn = { c with writer := .idle, sent := c.sent ++ [s.refused] } := by
  have hs : s.Sound := h.underway s (by rw [hw]; rfl)
  have hturn := h.sound.writeTurn s.progress
  simp only [Channel.writerTurn, hw]
  generalize c.queue.writeTurn s.progress = turn at hturn
  cases hturn with
  | nothing hrest =>
    have hnil := hs.eq_nil hrest
    have hzero : s.progress.stored = 0 := by
      have hle := hs.le_length
      rw [hnil] at hle
      exact Nat.le_zero.mp hle
    simp [Sending.refused, hnil, hzero]
  | closed hrest =>
    have hne : s.data ≠ [] := by
      intro hnil
      exact hrest (by rw [hs.rest_eq, hnil, List.drop_nil])
    simp [Sending.refused, hne]
  | full _ hopen => exact absurd (hclosed.symm.trans hopen) (by decide)
  | complete _ _ _ _ hstores => exact absurd (hclosed.symm.trans hstores.was_open) (by decide)
  | some _ _ _ _ hstores => exact absurd (hclosed.symm.trans hstores.was_open) (by decide)

/-- And a read fails. -/
theorem Coherent.readerTurn_of_closed (h : Coherent capacity c) (hclosed : c.queue.isOpen = false)
    (hr : c.reader = .ready r) :
    c.readerTurn =
      { c with reader := .idle, received := c.received ++ [{ request := r, bytes? := none }] } := by
  have hturn := h.sound.readTurn r
  simp only [Channel.readerTurn, hr]
  generalize c.queue.readTurn r = turn at hturn
  cases hturn with
  | closed => simp
  | waits hopen => exact absurd (hclosed.symm.trans hopen) (by decide)
  | nothing hopen => exact absurd (hclosed.symm.trans hopen) (by decide)
  | takes _ hopen => exact absurd (hclosed.symm.trans hopen) (by decide)

/-! ## Every run -/

/-- **A queue is a lossless channel, whoever moves when.** Until it is closed, what
was read, and then what is stored now, is what was stored so far, in order; never is
more stored than there is room for, and a write that is not refused has stored all of
its bytes, or some if that was enough. Once it is closed nothing is stored, and every
operation that takes a turn is over and has failed, but for a write of nothing. A
writer sleeps only at a queue that is open and full, a reader only at one that is open
and empty, so they never sleep both. -/
theorem lossless (capacity : Nat) (moves : List Move) :
    let c := (initial capacity).run moves
    (c.queue.isOpen = true ↔ .close ∉ moves) ∧
    (c.queue.isOpen = true → c.taken ++ c.queue.contents = c.stored) ∧
    c.queue.length ≤ max capacity 1 ∧
    (∀ s ∈ c.sent, s.Kept) ∧
    (c.queue.isOpen = false →
      c.queue.contents = [] ∧
      (∀ s, c.writer = .ready s →
        c.move .writerTurn = { c with writer := .idle, sent := c.sent ++ [s.refused] }) ∧
      ∀ r, c.reader = .ready r →
        c.move .readerTurn = { c with
          reader := .idle, received := c.received ++ [{ request := r, bytes? := none }] }) ∧
    (∀ s, c.writer = .asleep s → c.queue.isOpen = true ∧ c.queue.isFull = true) ∧
    (∀ r, c.reader = .asleep r → c.queue.isOpen = true ∧ c.queue.length = 0) ∧
    ¬ ∃ s r, c.writer = .asleep s ∧ c.reader = .asleep r := by
  intro c
  have h : Coherent capacity c := (coherent_initial capacity).run moves
  have hopen : c.queue.isOpen = true ↔ .close ∉ moves :=
    (isOpen_run _ moves).trans (and_iff_right rfl)
  refine ⟨hopen, h.fifo, h.capacity_eq ▸ h.sound.length_le, h.sent, fun hclosed => ?_,
    h.writer_asleep, h.reader_asleep, ?_⟩
  · exact ⟨ByteQueue.contents_eq_nil (h.sound.empty_of_closed hclosed),
      fun s hw => h.writerTurn_of_closed hclosed hw, fun r hr => h.readerTurn_of_closed hclosed hr⟩
  · rintro ⟨s, r, hw, hr⟩
    have hfull := (h.writer_asleep s hw).2
    rw [h.sound.not_isFull_of_empty (h.reader_asleep r hr).2] at hfull
    cases hfull

/-- Five bytes through room for two: after two turns of the writer and one of the reader
the writer sleeps for the second time. -/
theorem lossless_in_pieces :
    let moves := [.write [1, 2, 3, 4, 5] false, .writerTurn, .read 3 false, .readerTurn, .writerTurn]
    let c := (initial 2).run moves
    .close ∉ moves ∧ c.queue.isOpen = true ∧ c.stored = [1, 2, 3, 4] ∧
      c.taken ++ c.queue.contents = [1, 2, 3, 4] ∧
      c.writer = .asleep ⟨[1, 2, 3, 4, 5], { rest := [5], stored := 4 }⟩ ∧ c.queue.isFull = true := by
  intro moves c
  have hnever : Move.close ∉ moves := by decide
  have hstored : c.stored = [1, 2, 3, 4] := by decide
  have hasleep : c.writer = .asleep ⟨[1, 2, 3, 4, 5], { rest := [5], stored := 4 }⟩ := by decide
  obtain ⟨hopen, hfifo, -, -, -, hfull, -⟩ := lossless 2 moves
  have hopen := hopen.mpr hnever
  exact ⟨hnever, hopen, hstored, hstored ▸ hfifo hopen, hasleep, (hfull _ hasleep).2⟩

end Channel

end Teletype

import Teletype.Proofs.Session.Delivery

/-!
# Waiting for room that nobody makes

What a session sends waits where the queue to the child is full, until the writer takes
something out of it. The writer leaves when the queue is closed, and then nothing waits;
but it also leaves when the device refuses what it hands over, and then the queue stays
open. From then on the queue only fills up. Once it is full, what waits for room in it
waits forever, and the session with it: it gets no further, and even the end of the
child is not heard (`waitsInVain_iff`).

All of this is seen in a small part of the state (`Outgoing`). What a move can do to it
is said once (`step_move`), and the rest is about these steps.
-/

namespace Teletype

namespace Traffic

open Session

/-- What is on its way to the child, and who is there to take it. -/
structure Outgoing where
  queue : ByteQueue
  unsent : Option ByteQueue.Writing
  isRunning : Bool
  writer : Writer

/-- What is on its way to the child. -/
def outgoing (t : Traffic) : Outgoing where
  queue := t.session.toChild
  unsent := t.session.unsent
  isRunning := t.session.isRunning
  writer := t.writer

/-- Whether the device refuses bytes with a move. -/
def refusesBy (t : Traffic) (m : Move) : Bool :=
  match m, t.writer with
  | .failWrite, .delivering _ => true
  | _, _ => false

/-- Whether the device refuses bytes in the course of a run. -/
def refuses (t : Traffic) : List Move → Bool
  | [] => false
  | m :: rest => t.refusesBy m || (t.move m).refuses rest

namespace Outgoing

/-- Whether something waits for room in an open queue that is full and that nobody
reads. -/
def waitsInVain (o : Outgoing) : Bool :=
  o.unsent.isSome && o.queue.isOpen && o.queue.isFull && o.writer = .gone

/-- What waits when a turn at the queue is over. -/
def left : ByteQueue.Turn Nat ByteQueue.Writing → Option ByteQueue.Writing
  | .waiting w => some w
  | _ => none

/-- What can happen to bytes on their way to the child. The flag says whether the device
refuses some. -/
inductive Step : Bool → Outgoing → Outgoing → Prop
  | rests (o : Outgoing) : Step false o o
  /-- The session stores what there is room for: what waited before, or bytes of
  its own. -/
  | stores {o : Outgoing} (w : ByteQueue.Writing)
      (hw : o.unsent = some w ∨ o.unsent = none ∧ o.isRunning = true ∧ w.rest ≠ []) :
      Step false o
        { o with queue := (o.queue.writeTurn w).1, unsent := left (o.queue.writeTurn w).2 }
  /-- The writer takes bytes, if there are any. -/
  | takes {o : Outgoing} (bytes : List UInt8) (limit : Nat) (hwriter : o.writer = .waiting) :
      Step false o
        { o with queue := (o.queue.readTurn { limit, block := true }).1, writer := .delivering bytes }
  | delivers {o : Outgoing} (bytes : List UInt8) (hwriter : o.writer = .delivering bytes) :
      Step false o { o with writer := .waiting }
  /-- The writer finds the queue closed. -/
  | leaves {o : Outgoing} (hwriter : o.writer = .waiting) (hclosed : o.queue.isOpen = false) :
      Step false o { o with writer := .gone }
  | refused {o : Outgoing} (bytes : List UInt8) (hwriter : o.writer = .delivering bytes) :
      Step true o { o with writer := .gone }
  /-- The session ends, with nothing waiting. -/
  | ends {o : Outgoing} (hsent : o.unsent = none) :
      Step false o { o with queue := o.queue.close, unsent := none, isRunning := false }

theorem Step.of_eq {o o' : Outgoing} (h : o' = o) : Step false o o' :=
  h ▸ .rests o'

end Outgoing

open Outgoing

variable {t : Traffic} {e : Emulator}

/-! ## What a move does -/

theorem outgoing_send (t : Traffic) (w : ByteQueue.Writing) :
    outgoing { t with session := t.session.send w } =
      { t.outgoing with
        queue := (t.session.toChild.writeTurn w).1
        unsent := left (t.session.toChild.writeTurn w).2 } := by
  unfold send
  generalize t.session.toChild.writeTurn w = turn
  obtain ⟨queue, turn⟩ := turn
  cases turn <;> rfl

/-- Sending is a step, unless something waits already. -/
theorem step_write (hsent : t.session.unsent = none) (bytes : List UInt8) :
    Step false t.outgoing (outgoing { t with session := t.session.write bytes }) := by
  unfold write
  split
  next hsends =>
    rw [Bool.and_eq_true, Bool.not_eq_true'] at hsends
    have hbytes : bytes ≠ [] := fun hnil => by
      rw [hnil] at hsends
      cases hsends.2
    rw [outgoing_send]
    exact .stores _ (.inr ⟨hsent, hsends.1, hbytes⟩)
  next => exact .rests _

theorem step_resume (t : Traffic) :
    Step false t.outgoing (outgoing { t with session := t.session.resume }) := by
  unfold resume
  split
  next w hunsent =>
    rw [outgoing_send]
    exact .stores _ (.inl hunsent)
  next => exact .rests _

theorem outgoing_beginMessage (t : Traffic) : t.beginMessage.outgoing = t.outgoing := by
  unfold Traffic.beginMessage
  split
  · rfl
  next message inbox _ =>
    dsimp only
    split
    · cases message <;> rfl
    · rfl

theorem step_answer (hsent : t.session.unsent = none) (purpose : Purpose) :
    Step false t.outgoing (t.answer purpose).outgoing := by
  unfold Traffic.answer
  split
  · exact .rests _
  next e hemulator =>
    exact step_write (t := { t with
      session := { t.session with emulator := some e.takeReplies.2 }
      task := .telling purpose
      fed := t.fed ++ [.takeReplies] }) hsent _

theorem step_take (hsent : t.session.unsent = none) (found : Bool) (purpose : Purpose) :
    Step false t.outgoing (t.take found purpose).outgoing := by
  unfold Traffic.take
  split
  · exact .rests _
  · split
    · exact step_answer hsent purpose
    · exact .rests _

theorem outgoing_tell (t : Traffic) : t.tell.outgoing = t.outgoing := by
  unfold Traffic.tell Step.andThen
  dsimp only
  rw [dispatchEvents_fst]
  rfl

theorem step_finish (hsent : t.session.unsent = none) (code : Int) :
    Step false t.outgoing (t.finish code).outgoing := by
  have hends : (t.finish code).outgoing =
      { t.outgoing with queue := t.session.toChild.close, unsent := none, isRunning := false } := by
    unfold outgoing
    rw [session_finish]
    rfl
  rw [hends]
  exact .ends hsent

theorem outgoing_readChunk (t : Traffic) (count : Nat) :
    (t.readChunk count).outgoing = t.outgoing := by
  unfold Traffic.readChunk
  dsimp only
  split <;> rfl

theorem outgoing_readerTurn (t : Traffic) : t.readerTurn.outgoing = t.outgoing := by
  unfold Traffic.readerTurn
  split
  · split <;> rfl
  all_goals rfl

theorem step_writerTurn (t : Traffic) : Step false t.outgoing t.writerTurn.outgoing := by
  have hqueue : t.session.toChild.readTurn { limit := chunkSize, block := true } =
    t.outgoing.queue.readTurn { limit := chunkSize, block := true } := rfl
  unfold Traffic.writerTurn
  split
  next hwriter =>
    have hclosed := ByteQueue.isOpen_of_readTurn_closed (q := t.session.toChild)
      (r := { limit := chunkSize, block := true })
    generalize hturn : t.session.toChild.readTurn { limit := chunkSize, block := true } = turn
      at hclosed
    split
    next queue bytes =>
      have hstep : Step false t.outgoing _ := .takes bytes chunkSize hwriter
      rw [← hqueue, hturn] at hstep
      exact hstep
    next => exact .leaves hwriter (hclosed rfl)
    next => exact .rests _
  next bytes hwriter => exact .delivers bytes hwriter
  next => exact .rests _

theorem step_sessionTurn (t : Traffic) : Step false t.outgoing t.sessionTurn.outgoing := by
  unfold Traffic.sessionTurn
  split
  next => exact step_resume t
  next hunsent =>
    have hsent : t.session.unsent = none := Option.not_isSome_iff_eq_none.mp hunsent
    split
    next => exact .of_eq (outgoing_beginMessage t)
    next found purpose _ => exact step_take hsent found purpose
    next => exact .of_eq (outgoing_tell t)
    next => exact .rests _
    next code readerGone _ =>
      split
      · exact step_finish hsent code
      · exact .rests _

/-- **What a move does to bytes on their way to the child.** -/
theorem step_move (h : Delivers e t) (m : Move) :
    Step (t.refusesBy m) t.outgoing (t.move m).outgoing := by
  cases m with
  | sessionTurn => exact step_sessionTurn t
  | writerTurn => exact step_writerTurn t
  | readerTurn => exact .of_eq (outgoing_readerTurn t)
  | read count => exact .of_eq (outgoing_readChunk t count)
  | failWrite =>
    cases hwriter : t.writer with
    | delivering bytes =>
      simp only [Traffic.move, refusesBy, hwriter]
      exact .refused bytes hwriter
    | waiting | gone =>
      simp only [Traffic.move, refusesBy, hwriter]
      exact .rests _
  | giveUp =>
    simp only [Traffic.move]
    split
    next code htask =>
      refine step_finish ?_ code
      -- when all is drained, no answer is waiting any more
      rw [← Option.not_isSome_iff_eq_none]
      intro hunsent
      have hwaits := h.mayWait hunsent
      rw [htask] at hwaits
      cases hwaits
    next => exact .rests _
  | write bytes =>
    simp only [Traffic.move]
    split
    next hfree =>
      rw [isFree, Bool.and_eq_true, Option.isNone_iff_eq_none] at hfree
      exact step_write hfree.2 bytes
    next => exact .rests _
  | reset =>
    simp only [Traffic.move]
    split
    · refine .of_eq ?_
      unfold Session.reset Session.Step.andThen
      dsimp only
      rw [dispatchEvents_fst]
      rfl
    · exact .rests _
  | hangUp => exact .rests _
  | _ =>
    simp only [Traffic.move]
    split <;> exact .rests _

/-! ## What holds between any two moves -/

namespace Outgoing

/-- What holds of bytes on their way to the child. The flag says whether the device has
ever refused some. -/
structure Settled (refused : Bool) (o : Outgoing) : Prop where
  sound : o.queue.Sound
  isOpen_eq : o.queue.isOpen = o.isRunning
  running : o.unsent.isSome = true → o.isRunning = true
  rest : ∀ w, o.unsent = some w → w.rest ≠ []
  /-- The writer leaves when the device refuses bytes, or when the queue is closed. -/
  gone : o.writer = .gone → refused = true ∨ o.isRunning = false
  stays : refused = true → o.writer = .gone

variable {refused flag : Bool} {o o' : Outgoing}

/-- What waits after a turn at a queue is not nothing, and there is no room for it. -/
theorem left_writeTurn {q : ByteQueue} (hq : q.Sound) {w w' : ByteQueue.Writing}
    (h : left (q.writeTurn w).2 = some w') :
    w'.rest ≠ [] ∧ q.isOpen = true ∧ (q.writeTurn w).1.isFull = true := by
  have hturn := hq.writeTurn w
  generalize q.writeTurn w = turn at hturn h
  cases hturn with
  | nothing | closed | complete => cases h
  | full hrest hopen hfull =>
    obtain rfl := Option.some.inj h
    exact ⟨hrest, hopen, hfull⟩
  | some q' n _ hlt hstores hfull =>
    obtain rfl := Option.some.inj h
    refine ⟨fun hnil => ?_, hstores.was_open, hfull⟩
    have hlen := congrArg List.length hnil
    rw [List.length_drop] at hlen
    change w.rest.length - n = 0 at hlen
    omega

/-- **Every step keeps what holds.** -/
theorem Settled.step (h : Settled refused o) (hstep : Step flag o o') :
    Settled (refused || flag) o' := by
  cases hstep with
  | rests =>
    rw [Bool.or_false]
    exact h
  | stores w hw =>
    -- what is left waits in a queue that is open, so the session is running
    have hopen := o.queue.isOpen_writeTurn w
    rw [Bool.or_false]
    exact
      { sound := h.sound.of_writeTurn w
        isOpen_eq := hopen.trans h.isOpen_eq
        running := fun hleft => by
          obtain ⟨w', hw'⟩ := Option.isSome_iff_exists.mp hleft
          exact h.isOpen_eq ▸ (left_writeTurn h.sound hw').2.1
        rest := fun w' hw' => (left_writeTurn h.sound hw').1
        gone := h.gone
        stays := h.stays }
  | takes bytes limit hwriter =>
    have hopen := o.queue.isOpen_readTurn { limit, block := true }
    rw [Bool.or_false]
    exact
      { sound := (h.sound.of_readTurn _).1
        isOpen_eq := hopen.trans h.isOpen_eq
        running := h.running
        rest := h.rest
        gone := nofun
        stays := fun hrefused => absurd (hwriter.symm.trans (h.stays hrefused)) (by decide) }
  | delivers bytes hwriter =>
    rw [Bool.or_false]
    exact { h with
      gone := nofun
      stays := fun hrefused => absurd (hwriter.symm.trans (h.stays hrefused)) nofun }
  | leaves hwriter hclosed =>
    rw [Bool.or_false]
    exact { h with
      gone := fun _ => .inr (h.isOpen_eq.symm.trans hclosed)
      stays := fun _ => rfl }
  | refused bytes hwriter =>
    rw [Bool.or_true]
    exact { h with
      gone := fun _ => .inl rfl
      stays := fun _ => rfl }
  | ends hsent =>
    rw [Bool.or_false]
    exact
      { sound := h.sound.close
        isOpen_eq := rfl
        running := nofun
        rest := nofun
        gone := fun _ => .inr rfl
        stays := h.stays }

/-- A session waits in vain just if the device has refused bytes, and the queue is
full. -/
theorem Settled.inVain_iff (h : Settled refused o) : o.waitsInVain = true ↔
    refused = true ∧ o.unsent.isSome = true ∧ o.queue.isFull = true := by
  rw [waitsInVain]
  simp only [Bool.and_eq_true, decide_eq_true_eq]
  constructor
  · rintro ⟨⟨⟨hunsent, hopen⟩, hfull⟩, hgone⟩
    have hrunning := h.running hunsent
    refine ⟨(h.gone hgone).resolve_right fun hstopped => ?_, hunsent, hfull⟩
    rw [hrunning] at hstopped
    cases hstopped
  · rintro ⟨hrefused, hunsent, hfull⟩
    exact ⟨⟨⟨hunsent, h.isOpen_eq.trans (h.running hunsent)⟩, hfull⟩, h.stays hrefused⟩

/-- **What waits in vain goes on waiting**, whatever happens. -/
theorem Settled.step_eq (h : Settled refused o) (hvain : o.waitsInVain = true)
    (hstep : Step flag o o') : o' = o := by
  obtain ⟨hrefused, hunsent, hfull⟩ := h.inVain_iff.mp hvain
  have hgone := h.stays hrefused
  have hopen := h.isOpen_eq.trans (h.running hunsent)
  cases hstep with
  | rests => rfl
  | stores w hw =>
    obtain hwaits | ⟨hnone, -⟩ := hw
    · -- there is no room, so the turn changes nothing
      rw [ByteQueue.writeTurn_of_isFull (h.rest w hwaits) hopen hfull]
      obtain ⟨queue, unsent, isRunning, writer⟩ := o
      obtain rfl : unsent = some w := hwaits
      rfl
    · rw [hnone] at hunsent
      cases hunsent
  | takes bytes limit hwriter => cases hwriter.symm.trans hgone
  | delivers bytes hwriter => cases hwriter.symm.trans hgone
  | leaves hwriter => cases hwriter.symm.trans hgone
  | refused bytes hwriter => cases hwriter.symm.trans hgone
  | ends hsent =>
    rw [hsent] at hunsent
    cases hunsent

end Outgoing

theorem settled_start (config : Config) (size : WindowSize) (pid : Nat) :
    Settled false (start config size pid).outgoing where
  sound := ByteQueue.sound_initial config.queueCapacity
  isOpen_eq := rfl
  running := nofun
  rest := nofun
  gone := nofun
  stays := nofun

variable {refused : Bool}

theorem settled_run (h : Delivers e t) (hsettled : Settled refused t.outgoing)
    (moves : List Move) : Settled (refused || t.refuses moves) (t.run moves).outgoing := by
  induction moves generalizing t refused with
  | nil =>
    rw [refuses, Bool.or_false]
    exact hsettled
  | cons m rest ih =>
    rw [refuses, ← Bool.or_assoc]
    exact ih (h.move m) (hsettled.step (step_move h m))

theorem outgoing_run_of_waitsInVain (h : Delivers e t) (hsettled : Settled refused t.outgoing)
    (hvain : t.outgoing.waitsInVain = true) (moves : List Move) :
    (t.run moves).outgoing = t.outgoing := by
  induction moves generalizing t refused with
  | nil => rfl
  | cons m rest ih =>
    have hsame := hsettled.step_eq hvain (step_move h m)
    have hrest := ih (h.move m) (hsettled.step (step_move h m)) (by rw [hsame]; exact hvain)
    exact hrest.trans hsame

/-- Bytes that do not fit are given to a session that nobody reads from. -/
theorem waitsInVain_write (hsettled : Settled true t.outgoing) (hfree : t.isFree = true)
    (hrunning : t.session.isRunning = true) {bytes : List UInt8}
    (hlt : t.session.toChild.capacity < t.session.toChild.length + bytes.length) :
    (t.move (.write bytes)).outgoing.waitsInVain = true := by
  have hopen : t.session.toChild.isOpen = true := hsettled.isOpen_eq.trans hrunning
  obtain ⟨queue, rest, hturn, hfull⟩ :=
    hsettled.sound.waits_of_lt (w := { rest := bytes }) hopen rfl hlt
  change t.session.toChild.writeTurn _ = _ at hturn
  have hopen' := t.session.toChild.isOpen_writeTurn { rest := bytes }
  rw [hturn, hopen] at hopen'
  have hsends : (t.session.isRunning && !bytes.isEmpty) = true := by
    have hlen : t.session.toChild.length ≤ t.session.toChild.capacity := hsettled.sound.length_le
    have hbytes : bytes ≠ [] := fun hnil => by
      rw [hnil, List.length_nil] at hlt
      omega
    rw [hrunning, Bool.true_and, Bool.not_eq_true', List.isEmpty_eq_false_iff]
    exact hbytes
  have hmove : (t.move (.write bytes)).outgoing =
      { t.outgoing with queue, unsent := some rest } := by
    simp only [move, if_pos hfree, Session.write, if_pos hsends]
    rw [outgoing_send, hturn]
    rfl
  rw [hmove, waitsInVain]
  simp only [Option.isSome_some, Bool.true_and, Bool.and_eq_true, decide_eq_true_eq]
  exact ⟨⟨hopen', hfull⟩, hsettled.stays rfl⟩

/-- **When a session waits for room that nobody makes.** It does just if the device has
refused bytes, and the queue is full again with something left over. Then it does so
forever, whatever happens: nothing of this changes any more. And after a refusal it
takes no more than a write of bytes that do not fit. -/
theorem waitsInVain_iff (config : Config) (size : WindowSize) (pid : Nat) (moves : List Move) :
    let t := (start config size pid).run moves
    let refused := (start config size pid).refuses moves
    (t.outgoing.waitsInVain = true ↔
      refused = true ∧ t.session.unsent.isSome = true ∧ t.session.toChild.isFull = true) ∧
    (t.outgoing.waitsInVain = true → ∀ more, (t.run more).outgoing = t.outgoing) ∧
    (refused = true → t.isFree = true → t.session.isRunning = true → ∀ bytes : List UInt8,
      t.session.toChild.capacity < t.session.toChild.length + bytes.length →
        (t.move (.write bytes)).outgoing.waitsInVain = true) := by
  intro t refused
  have h := delivers_start config size pid
  have hsettled : Settled refused t.outgoing := by
    have hrun := settled_run h (settled_start config size pid) moves
    rwa [Bool.false_or] at hrun
  refine ⟨hsettled.inVain_iff, fun hvain more => ?_, fun hrefused hfree hrunning bytes hlt => ?_⟩
  · exact outgoing_run_of_waitsInVain (h.run moves) hsettled hvain more
  · rw [hrefused] at hsettled
    exact waitsInVain_write hsettled hfree hrunning hlt

/-- A run in which the device refuses a byte that the session has sent, and the child
asks where it stands. A queue of six bytes then has no room for the answer behind what
was sent before. -/
def unanswered : List Move :=
  [.write [0x61], .writerTurn, .failWrite, .write [0x62, 0x63, 0x64],
    .print [0x1B, 0x5B, 0x35, 0x6E], .read 4, .readerTurn, .readerTurn,
    .sessionTurn, .sessionTurn, .sessionTurn]

/-- The child ends, and the session does not hear of it. -/
theorem waitsInVain_unanswered :
    let t := (start { queueCapacity := 6 } (.ofCells 8 2) 7).run unanswered
    t.outgoing.waitsInVain = true ∧
      ∀ more, ((t.run (.exit 0 :: .report :: more)).session.isRunning = true) := by
  intro t
  obtain ⟨hiff, hforever, -⟩ :=
    waitsInVain_iff { queueCapacity := 6 } (.ofCells 8 2) 7 unanswered
  have hvain : t.outgoing.waitsInVain = true :=
    hiff.mpr ⟨by decide +kernel, by decide +kernel, by decide +kernel⟩
  refine ⟨hvain, fun more => ?_⟩
  have hrunning : t.outgoing.isRunning = true := by decide +kernel
  rw [← hforever hvain (.exit 0 :: .report :: more)] at hrunning
  exact hrunning

/-- A session waits in vain with bytes of its host, and with an answer to its child. -/
theorem exists_waitsInVain :
    let t := start { queueCapacity := 6 } (.ofCells 8 2) 7
    (t.run unanswered).outgoing.waitsInVain = true ∧
      (t.run [.write [0x61], .writerTurn, .failWrite, .write (List.replicate 7 0x62), .exit 0,
        .report, .sessionTurn, .readerTurn, .writerTurn]).outgoing.waitsInVain = true := by
  decide +kernel

end Traffic

end Teletype

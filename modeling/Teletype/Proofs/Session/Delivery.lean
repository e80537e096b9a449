import Teletype.Proofs.Session.Steps
import Teletype.Session.Traffic

/-!
# Nothing of the child's output is lost

Whoever goes when, what the reader has read is in three places: in the emulator, in
the queue and with the reader, in this order (`Delivers.inOrder`). The end of the
child does not change that. When the session sees that the reader is gone and then
reads the queue until there is nothing in it, the second and the third place are
empty, so that the emulator has it all before the session ends
(`delivered_before_the_end`). Were the flag looked at behind the queue, the reader
could store its last bytes between the two.
-/

namespace Teletype

namespace Traffic

open Session

/-! ## The record -/

variable {t : Traffic} {e : Emulator}

@[simp] theorem appended_append (inputs more : List Emulator.Input) :
    appended (inputs ++ more) = appended inputs ++ appended more :=
  List.flatMap_append

theorem takeAll_append (e : Emulator) (inputs more : List Emulator.Input) :
    e.takeAll (inputs ++ more) = (e.takeAll inputs).takeAll more :=
  List.foldl_append

namespace Purpose

/-- Whether the reader was gone before the queue was read. -/
def sawGone : Purpose → Bool
  | .message => false
  | .exit _ readerGone => readerGone

end Purpose

namespace Task

/-- Whether the reader was gone before the queue was read. -/
def sawGone : Task → Bool
  | .taking _ purpose | .telling purpose => purpose.sawGone
  | .drained _ readerGone => readerGone
  | .idle | .draining _ => false

/-- Whether the queue was read to its end. -/
def hasRead : Task → Bool
  | .telling _ | .drained _ _ => true
  | .idle | .taking _ _ | .draining _ => false

/-- Whether the session may have to wait for room in the middle of it. -/
def mayWait : Task → Bool
  | .idle | .telling _ => true
  | .taking _ _ | .draining _ | .drained _ _ => false

end Task

/-! ## What holds between any two moves -/

/-- What holds of a session and its workers, whoever went when. -/
structure Delivers (e : Emulator) (t : Traffic) : Prop where
  /-- The emulator is as the record says. -/
  record : t.session.emulator = some (e.takeAll t.fed)
  sound : t.session.fromChild.Sound
  isOpen_eq : t.session.fromChild.isOpen = t.session.isRunning
  inOrder : t.session.isRunning = true →
    appended t.fed ++ t.session.fromChild.contents ++ t.reader.unqueued = t.read
  printed : t.read ++ t.unread = t.printed
  /-- The reader leaves when there will be no more, or when a read failed. -/
  exhausted : t.session.isRunning = true → t.reader = .leaving ∨ t.reader = .gone →
    t.readFailed = false → t.hungUp = true ∧ t.unread = []
  /-- A session that has ended handles no message. -/
  running : t.task ≠ .idle → t.session.isRunning = true
  mayWait : t.session.unsent.isSome = true → t.task.mayWait = true
  gone : t.task.sawGone = true → t.reader = .gone
  emptied : t.task.sawGone = true → t.task.hasRead = true → t.session.fromChild.contents = []

theorem delivers_start (config : Config) (size : WindowSize) (pid : Nat) :
    Delivers (.initial size.cols.toNat size.rows.toNat config.transcriptRows)
      (start config size pid) where
  record := rfl
  sound := ByteQueue.sound_initial config.queueCapacity
  isOpen_eq := rfl
  inOrder := fun _ => by
    have hempty := ByteQueue.contents_eq_nil (q := .initial config.queueCapacity) rfl
    exact congrArg (· ++ []) hempty
  printed := rfl
  exhausted := fun _ hreader => nomatch hreader
  running := fun hbusy => absurd rfl hbusy
  mayWait := nofun
  gone := nofun
  emptied := nofun

theorem Delivers.keeps {s : Session} (h : Delivers e t) (hs : Keeps t.session s)
    (hunsent : s.unsent.isSome = true → t.task.mayWait = true) :
    Delivers e { t with session := s } := by
  constructor
  case record => exact hs.emulator.trans h.record
  case sound => rw [hs.fromChild]; exact h.sound
  case isOpen_eq => rw [hs.fromChild, hs.isRunning]; exact h.isOpen_eq
  case inOrder => rw [hs.fromChild, hs.isRunning]; exact h.inOrder
  case printed => exact h.printed
  case exhausted => rw [hs.isRunning]; exact h.exhausted
  case running => rw [hs.isRunning]; exact h.running
  case mayWait => exact hunsent
  case gone => exact h.gone
  case emptied => rw [hs.fromChild]; exact h.emptied

/-! ## The workers -/

/-- The reader does something, and is not gone before that. So the session has not seen
it gone. -/
theorem Delivers.reading (h : Delivers e t) (hreader : t.reader ≠ .gone) (q : ByteQueue)
    (reader : Reader) (unread read : List UInt8) (hsound : q.Sound)
    (hopen : q.isOpen = t.session.isRunning)
    (horder : t.session.isRunning = true →
      appended t.fed ++ q.contents ++ reader.unqueued = read)
    (hprinted : read ++ unread = t.printed)
    (hexhausted : t.session.isRunning = true → reader = .leaving ∨ reader = .gone →
      t.readFailed = false → t.hungUp = true ∧ unread = []) :
    Delivers e { t with session := { t.session with fromChild := q }, reader, unread, read } :=
  { h with
    sound := hsound
    isOpen_eq := hopen
    inOrder := horder
    printed := hprinted
    exhausted := hexhausted
    gone := fun hgone => absurd (h.gone hgone) hreader
    emptied := fun hgone => absurd (h.gone hgone) hreader }

theorem Delivers.readChunk (h : Delivers e t) (count : Nat) : Delivers e (t.readChunk count) := by
  unfold Traffic.readChunk
  dsimp only
  split
  next byte bytes hreader hchunk =>
    have horder := h.inOrder
    rw [hreader] at horder
    refine h.reading (by rw [hreader]; nofun) _ (.storing _) _ _ h.sound h.isOpen_eq
      (fun hrunning => ?_) ?_ nofun
    · rw [← horder hrunning]
      exact congrArg (· ++ byte :: bytes) (List.append_nil _).symm
    · rw [List.append_assoc, ← hchunk, List.take_append_drop]
      exact h.printed
  next => exact h

theorem Delivers.readerTurn (h : Delivers e t) : Delivers e t.readerTurn := by
  unfold Traffic.readerTurn
  have horder := h.inOrder
  split
  next rest hreader =>
    have hnotGone : t.reader ≠ .gone := by rw [hreader]; nofun
    rw [hreader] at horder
    change t.session.isRunning = true → _ ++ rest = _ at horder
    -- what is stored goes from the reader to the end of the queue
    have hstored : ∀ (q : ByteQueue) (n : Nat), t.session.fromChild.Stores (rest.take n) q →
        q.isOpen = t.session.isRunning ∧ (t.session.isRunning = true →
          appended t.fed ++ q.contents ++ rest.drop n = t.read) := by
      intro q n hstores
      refine ⟨hstores.isOpen_eq.trans (hstores.was_open.symm.trans h.isOpen_eq), fun hrunning => ?_⟩
      rw [hstores.contents_eq, ← horder hrunning]
      simp only [List.append_assoc, List.take_append_drop]
    have hturn := h.sound.writeTurn { rest }
    generalize t.session.fromChild.writeTurn { rest } = turn at hturn
    cases hturn with
    | nothing hrest =>
      rw [show rest = [] from hrest] at horder
      exact h.reading hnotGone _ .telling _ _ h.sound h.isOpen_eq horder h.printed nofun
    | closed _ hclosed =>
      have hstopped : ¬ t.session.isRunning = true := by
        rw [← h.isOpen_eq, hclosed]
        decide
      exact h.reading hnotGone _ .leaving _ _ h.sound h.isOpen_eq
        (fun hrunning => absurd hrunning hstopped) h.printed (fun hrunning => absurd hrunning hstopped)
    | full => exact h.reading hnotGone _ (.storing rest) _ _ h.sound h.isOpen_eq horder h.printed nofun
    | complete q n _ _ hstores henough =>
      obtain ⟨hopen, hread⟩ := hstored q n hstores
      rw [henough.resolve_left nofun, List.drop_length] at hread
      exact h.reading hnotGone q .telling _ _ hstores.sound hopen hread h.printed nofun
    | some q n _ _ hstores =>
      obtain ⟨hopen, hread⟩ := hstored q n hstores
      exact h.reading hnotGone q (.storing _) _ _ hstores.sound hopen hread h.printed nofun
  next hreader =>
    have hkeeps : Keeps t.session (t.session.post .newInput) := ⟨rfl, rfl, rfl, rfl⟩
    rw [hreader] at horder
    exact (h.keeps hkeeps h.mayWait).reading (by rw [hreader]; nofun) _ .reading _ _ h.sound
      h.isOpen_eq horder h.printed nofun
  next hreader =>
    rw [hreader] at horder
    exact h.reading (by rw [hreader]; nofun) _ .gone _ _ h.sound h.isOpen_eq horder
      h.printed (fun hrunning _ => h.exhausted hrunning (.inl hreader))
  next => exact h

theorem Delivers.writerTurn (h : Delivers e t) : Delivers e t.writerTurn := by
  unfold Traffic.writerTurn
  split
  · have hopen := t.session.toChild.isOpen_readTurn { limit := chunkSize, block := true }
    generalize t.session.toChild.readTurn { limit := chunkSize, block := true } = turn at hopen
    split
    next toChild bytes =>
      have hkeeps : Keeps t.session { t.session with toChild } := ⟨rfl, rfl, rfl, hopen⟩
      exact { h.keeps hkeeps h.mayWait with }
    next => exact { h with }
    next => exact h
  · exact { h with }
  · exact h

/-! ## The session -/

/-- The session turns to something else, with nothing waiting for room. -/
theorem Delivers.turnsTo (h : Delivers e t) (task : Task) (hrunning : t.session.isRunning = true)
    (hsent : t.session.unsent.isSome = false) (hgone : task.sawGone = true → t.reader = .gone)
    (hemptied : task.sawGone = true → task.hasRead = true → t.session.fromChild.contents = []) :
    Delivers e { t with task } :=
  { h with
    running := fun _ => hrunning
    mayWait := fun hunsent => absurd (hsent.symm.trans hunsent) (by decide)
    gone := hgone
    emptied := hemptied }

theorem Delivers.beginMessage (h : Delivers e t) (hsent : t.session.unsent.isSome = false) :
    Delivers e t.beginMessage := by
  unfold Traffic.beginMessage
  split
  · exact h
  next message inbox _ =>
    have hkeeps : Keeps t.session { t.session with inbox } := ⟨rfl, rfl, rfl, rfl⟩
    have hnext := h.keeps hkeeps h.mayWait
    dsimp only
    split
    next hrunning =>
      cases message with
      | newInput => exact hnext.turnsTo (.taking false .message) hrunning hsent nofun nofun
      | processExited code => exact hnext.turnsTo (.draining code) hrunning hsent nofun nofun
    next => exact hnext

theorem Delivers.goOn (h : Delivers e t) (purpose : Purpose) (hrunning : t.session.isRunning = true)
    (hsent : t.session.unsent.isSome = false) (hgone : purpose.sawGone = true → t.reader = .gone)
    (hempty : purpose.sawGone = true → t.session.fromChild.contents = []) :
    Delivers e (t.goOn purpose) := by
  cases purpose with
  | message => exact h.turnsTo .idle hrunning hsent nofun nofun
  | exit code readerGone =>
    exact h.turnsTo (.drained code readerGone) hrunning hsent hgone (fun hsaw _ => hempty hsaw)

theorem Delivers.answer (h : Delivers e t) (purpose : Purpose)
    (hrunning : t.session.isRunning = true) (hgone : purpose.sawGone = true → t.reader = .gone)
    (hempty : t.session.fromChild.contents = []) : Delivers e (t.answer purpose) := by
  unfold Traffic.answer
  rw [h.record]
  dsimp only
  -- the replies are taken, and then sent
  have htaken : Delivers e
      { t with
        session := { t.session with emulator := some (e.takeAll t.fed).takeReplies.2 }
        task := .telling purpose
        fed := t.fed ++ [.takeReplies] } :=
    { h with
      record := by rw [takeAll_append]; rfl
      inOrder := fun _ => by
        rw [appended_append]
        simpa [appended] using h.inOrder hrunning
      running := fun _ => hrunning
      mayWait := fun _ => rfl
      gone := hgone
      emptied := fun _ _ => hempty }
  exact htaken.keeps (keeps_write _ _) (fun _ => rfl)

theorem Delivers.take {found : Bool} {purpose : Purpose} (h : Delivers e t)
    (htask : t.task = .taking found purpose) : Delivers e (t.take found purpose) := by
  have hrunning : t.session.isRunning = true := h.running (by rw [htask]; nofun)
  have hgone : purpose.sawGone = true → t.reader = .gone := by
    have := h.gone
    rwa [htask] at this
  have hmayWait : t.session.unsent.isSome = true → False := by
    have := h.mayWait
    rw [htask] at this
    exact fun hunsent => nomatch this hunsent
  have hturn := h.sound.readTurn { limit := chunkSize }
  unfold Traffic.take
  rw [h.record]
  generalize t.session.fromChild.readTurn { limit := chunkSize } = turn at hturn
  cases hturn with
  | closed hclosed =>
    rw [h.isOpen_eq, hrunning] at hclosed
    cases hclosed
  | waits _ _ hblock => cases hblock
  | nothing _ hlength _ =>
    have hempty := ByteQueue.contents_eq_nil hlength
    dsimp only
    split
    · exact h.answer purpose hrunning hgone hempty
    · exact h.goOn purpose hrunning (Bool.eq_false_iff.mpr hmayWait) hgone (fun _ => hempty)
  | takes q hopen hpos hopen' hsound hcapacity hcontents =>
    have horder := h.inOrder hrunning
    rw [← List.take_append_drop chunkSize t.session.fromChild.contents] at horder
    change q.contents = t.session.fromChild.contents.drop chunkSize at hcontents
    dsimp only
    cases hchunk : t.session.fromChild.contents.take chunkSize with
    | nil =>
      -- a queue with bytes in it has a first chunk
      rw [← ByteQueue.length_contents] at hpos
      have hnil := List.take_eq_nil_iff.mp hchunk
      rcases hnil with hzero | hnil
      · cases hzero
      · rw [hnil] at hpos
        cases hpos
    | cons byte bytes =>
      rw [hchunk] at horder
      exact { h with
        record := congrArg some (takeAll_append e t.fed [.append (byte :: bytes)]).symm
        sound := hsound
        isOpen_eq := hopen'.trans hrunning.symm
        inOrder := fun _ => by
          show _ ++ q.contents ++ _ = _
          rw [hcontents, ← horder]
          simp [appended]
        running := fun _ => hrunning
        mayWait := fun hunsent => (hmayWait hunsent).elim
        gone := hgone
        emptied := nofun }

/-- What comes to the emulator without bytes of the child leaves the rest as it is. -/
theorem Delivers.feeding (h : Delivers e t) (inputs : List Emulator.Input)
    (hnone : appended inputs = []) (notices : List Notice) :
    Delivers e { t with
      session := { t.session with emulator := t.session.emulator.map (·.takeAll inputs) }
      notices
      fed := t.fed ++ inputs } :=
  { h with
    record := by rw [h.record, takeAll_append]; rfl
    inOrder := by
      rw [appended_append, hnone, List.append_nil]
      exact h.inOrder }

theorem Delivers.tell (h : Delivers e t) : Delivers e t.tell := by
  unfold Traffic.tell Step.andThen
  dsimp only
  rw [dispatchEvents_fst]
  exact h.feeding [.takeEvents] rfl _

theorem session_finish (t : Traffic) (code : Int) :
    (t.finish code).session =
      { t.session.close code with
        emulator := t.session.emulator.map (·.takeAll
          [.append (Text.Utf8.encode (exitDescription code)), .takeReplies, .takeEvents]) } :=
  finish_fst t.session code _

theorem isRunning_finish (t : Traffic) (code : Int) : (t.finish code).session.isRunning = false := by
  rw [session_finish]
  rfl

/-- Once the session has ended nothing is asked of it but a true record. -/
theorem Delivers.finish (h : Delivers e t) (code : Int) : Delivers e (t.finish code) := by
  have hstopped : ¬ (t.finish code).session.isRunning = true := by
    rw [isRunning_finish]
    decide
  constructor
  case record =>
    rw [session_finish, h.record]
    exact congrArg some (takeAll_append ..).symm
  case sound => rw [session_finish]; exact h.sound.close
  case isOpen_eq => rw [session_finish]; rfl
  case inOrder => exact fun hrunning => absurd hrunning hstopped
  case printed => exact h.printed
  case exhausted => exact fun hrunning => absurd hrunning hstopped
  case running => exact fun hbusy => absurd rfl hbusy
  case mayWait => rw [session_finish]; nofun
  case gone => exact nofun
  case emptied => exact nofun

theorem Delivers.sessionTurn (h : Delivers e t) : Delivers e t.sessionTurn := by
  unfold Traffic.sessionTurn
  split
  next hunsent =>
    exact h.keeps (keeps_resume _) (fun _ => h.mayWait hunsent)
  next hunsent =>
    have hsent : t.session.unsent.isSome = false := Bool.eq_false_iff.mpr hunsent
    split
    next => exact h.beginMessage hsent
    next found purpose htask => exact h.take htask
    next purpose htask =>
      have hrunning := h.running (by rw [htask]; nofun)
      have hgone := h.gone
      have hemptied := h.emptied
      rw [htask] at hgone hemptied
      have htold : t.tell.session =
          { t.session with emulator := t.session.emulator.map (·.takeEvents.2) } :=
        dispatchEvents_fst t.session
      refine h.tell.goOn purpose ?_ ?_ hgone ?_
      · rw [htold]; exact hrunning
      · rw [htold]; exact hsent
      · rw [htold]; exact fun hsaw => hemptied hsaw rfl
    next code htask =>
      have hrunning := h.running (by rw [htask]; nofun)
      exact h.turnsTo _ hrunning hsent (fun hgone => of_decide_eq_true hgone) nofun
    next code readerGone htask =>
      split
      · exact h.finish code
      · exact h.turnsTo _ (h.running (by rw [htask]; nofun)) hsent nofun nofun

/-! ## Moves -/

/-- The child prints, or the last one that could print is gone. -/
theorem Delivers.print (h : Delivers e t) (bytes : List UInt8) :
    Delivers e (t.move (.print bytes)) := by
  simp only [move]
  split
  next => exact h
  next hungUp =>
    refine { h with printed := ?_, exhausted := fun hrunning hreader hread => ?_ }
    · rw [← List.append_assoc, h.printed]
    · exact absurd (h.exhausted hrunning hreader hread).1 hungUp

/-- **Every move keeps what holds.** -/
theorem Delivers.move (h : Delivers e t) (m : Move) : Delivers e (t.move m) := by
  cases m with
  | print bytes => exact h.print bytes
  | hangUp =>
    exact { h with exhausted := fun hrunning hreader hread =>
      ⟨rfl, (h.exhausted hrunning hreader hread).2⟩ }
  | exit code =>
    simp only [Traffic.move]
    split
    · exact { h with }
    · exact h
  | read count => exact h.readChunk count
  | endOfOutput =>
    simp only [Traffic.move]
    split
    next hend =>
      simp only [Bool.and_eq_true, decide_eq_true_eq, List.isEmpty_iff] at hend
      obtain ⟨⟨hreader, hungUp⟩, hunread⟩ := hend
      have horder := h.inOrder
      rw [hreader] at horder
      exact h.reading (by rw [hreader]; nofun) _ .leaving _ _ h.sound h.isOpen_eq horder
        h.printed (fun _ _ _ => ⟨hungUp, hunread⟩)
    next => exact h
  | failRead =>
    simp only [Traffic.move]
    split
    next hreader =>
      have horder := h.inOrder
      rw [hreader] at horder
      have hnotGone : t.reader ≠ .gone := by rw [hreader]; nofun
      exact { h with
        inOrder := horder
        exhausted := nofun
        gone := fun hgone => absurd (h.gone hgone) hnotGone }
    next => exact h
  | readerTurn => exact h.readerTurn
  | writerTurn => exact h.writerTurn
  | failWrite =>
    simp only [Traffic.move]
    split
    · exact { h with }
    · exact h
  | report =>
    simp only [Traffic.move]
    split
    next code _ =>
      have hkeeps : Keeps t.session (t.session.post (.processExited code)) := ⟨rfl, rfl, rfl, rfl⟩
      exact { h.keeps hkeeps h.mayWait with }
    next => exact h
  | sessionTurn => exact h.sessionTurn
  | giveUp =>
    simp only [Traffic.move]
    split
    · exact h.finish _
    · exact h
  | write bytes =>
    simp only [Traffic.move]
    split
    next hfree =>
      rw [isFree, Bool.and_eq_true, decide_eq_true_eq] at hfree
      exact h.keeps (keeps_write _ _) (fun _ => by rw [hfree.1]; rfl)
    next => exact h
  | resize size =>
    simp only [Traffic.move]
    split
    · exact h.feeding [.resize _ _] rfl _
    · exact h
  | reset =>
    simp only [Traffic.move]
    split
    next =>
      unfold Session.reset Step.andThen
      dsimp only
      rw [dispatchEvents_fst, Option.map_map]
      exact h.feeding [.reset, .takeEvents] rfl _
    next => exact h

theorem Delivers.run (h : Delivers e t) (moves : List Move) : Delivers e (t.run moves) := by
  induction moves generalizing t with
  | nil => exact h
  | cons m rest ih => exact ih (h.move m)

/-! ## The end -/

theorem isRunning_take (t : Traffic) (found : Bool) (purpose : Purpose) :
    (t.take found purpose).session.isRunning = t.session.isRunning := by
  unfold Traffic.take Traffic.answer
  split
  · rfl
  · split
    · split
      · rfl
      · exact (keeps_write _ _).isRunning
    · rfl

theorem isRunning_beginMessage (t : Traffic) :
    t.beginMessage.session.isRunning = t.session.isRunning := by
  unfold Traffic.beginMessage
  split
  · rfl
  next message inbox _ =>
    dsimp only
    split
    · cases message <;> rfl
    · rfl

/-- A turn of the session goes on, or ends it where it has read the queue after the
end of the child. -/
theorem isRunning_sessionTurn (t : Traffic) :
    t.sessionTurn.session.isRunning = t.session.isRunning ∨
      ∃ code, t.task = .drained code true ∧ t.sessionTurn = t.finish code := by
  unfold Traffic.sessionTurn
  split
  next => exact .inl (keeps_resume _).isRunning
  next =>
    split
    next => exact .inl (isRunning_beginMessage t)
    next => exact .inl (isRunning_take t _ _)
    next =>
      refine .inl ?_
      show t.session.dispatchEvents.1.isRunning = _
      rw [dispatchEvents_fst]
      rfl
    next => exact .inl rfl
    next code readerGone htask =>
      cases readerGone with
      | false => exact .inl rfl
      | true => exact .inr ⟨code, htask, rfl⟩

theorem isRunning_readerTurn (t : Traffic) :
    t.readerTurn.session.isRunning = t.session.isRunning := by
  unfold Traffic.readerTurn
  split
  · split <;> rfl
  all_goals rfl

theorem isRunning_writerTurn (t : Traffic) :
    t.writerTurn.session.isRunning = t.session.isRunning := by
  unfold Traffic.writerTurn
  split
  · split <;> rfl
  all_goals rfl

/-- **A session ends only where it has read the queue after the end of the child.** -/
theorem isRunning_move (m : Move) :
    (t.move m).session.isRunning = t.session.isRunning ∨
      ∃ code readerGone, t.task = .drained code readerGone ∧ t.move m = t.finish code := by
  cases m with
  | sessionTurn =>
    rcases isRunning_sessionTurn t with hsame | ⟨code, htask, hfinish⟩
    · exact .inl hsame
    · exact .inr ⟨code, true, htask, hfinish⟩
  | giveUp =>
    simp only [Traffic.move]
    split
    next code htask => exact .inr ⟨code, false, htask, rfl⟩
    next => exact .inl rfl
  | readerTurn => exact .inl (isRunning_readerTurn t)
  | writerTurn => exact .inl (isRunning_writerTurn t)
  | read count =>
    simp only [Traffic.move, Traffic.readChunk]
    split <;> exact .inl rfl
  | write bytes =>
    simp only [Traffic.move]
    split
    · exact .inl (keeps_write _ _).isRunning
    · exact .inl rfl
  | reset =>
    simp only [Traffic.move]
    split
    · refine .inl ?_
      show (Session.dispatchEvents _).1.isRunning = _
      rw [dispatchEvents_fst]
      rfl
    · exact .inl rfl
  | hangUp => exact .inl rfl
  | _ =>
    simp only [Traffic.move]
    split <;> exact .inl rfl

/-- **Nothing of the child's output is lost or comes twice, whoever goes when.** While
the session runs, what has reached the emulator of it, then what is in the queue, then
what the reader has not stored yet, is what was read so far. It ends only where it has
read the queue after the end of the child. The host is told of the end once, and sees
the emulator as it is then; only afterwards comes the text about the end. If the
session stopped because the reader was gone, the emulator has by then all that was
read, and this is all that was ever printed, unless the device failed a read. -/
theorem delivered_before_the_end (config : Config) (size : WindowSize) (pid : Nat)
    (moves : List Move) :
    let t := (start config size pid).run moves
    let e := Emulator.initial size.cols.toNat size.rows.toNat config.transcriptRows
    t.session.emulator = some (e.takeAll t.fed) ∧
    (t.session.isRunning = true →
      appended t.fed ++ t.session.fromChild.contents ++ t.reader.unqueued = t.read) ∧
    ∀ m, t.session.isRunning = true → (t.move m).session.isRunning = false →
      ∃ code readerGone seen more,
        t.task = .drained code readerGone ∧
        (t.move m).session.state = .finished code ∧
        (t.move m).notices = t.notices ++ ⟨.finished, seen⟩ :: more ∧
        seen.emulator = some (e.takeAll t.fed) ∧
        (∀ notice ∈ more, notice.notification ≠ .finished) ∧
        (t.move m).fed = t.fed ++
          [.append (Text.Utf8.encode (exitDescription code)), .takeReplies, .takeEvents] ∧
        (readerGone = true →
          t.reader = .gone ∧ appended t.fed = t.read ∧
          (t.readFailed = false → t.hungUp = true ∧ appended t.fed = t.printed)) := by
  intro t e
  have h : Delivers e t := (delivers_start config size pid).run moves
  refine ⟨h.record, h.inOrder, fun m hrunning hended => ?_⟩
  rcases isRunning_move (t := t) m with hsame | ⟨code, readerGone, htask, hfinish⟩
  · rw [hsame, hrunning] at hended
    cases hended
  obtain ⟨events, htold, hevents⟩ := exists_finish_snd t.session code (exitDescription code)
  refine ⟨code, readerGone, t.session.close code,
    events ++ [⟨.textChanged, (t.finish code).session⟩], htask, ?_, ?_, h.record,
    fun notice hmem => ?_, ?_, fun hgone => ?_⟩
  · rw [hfinish, session_finish]
    rfl
  · rw [hfinish]
    exact congrArg (t.notices ++ ·) htold
  · rcases List.mem_append.mp hmem with hmem | hmem
    · obtain ⟨event, hevent⟩ := hevents notice hmem
      exact hevent ▸ (Notification.ofEvent_ne event).1
    · rw [List.mem_singleton.mp hmem]
      exact Notification.noConfusion
  · rw [hfinish]
    rfl
  · have hreader : t.reader = .gone := h.gone (by rw [htask]; exact hgone)
    have hempty : t.session.fromChild.contents = [] :=
      h.emptied (by rw [htask]; exact hgone) (by rw [htask]; rfl)
    have horder := h.inOrder hrunning
    rw [hempty, hreader] at horder
    have hread : appended t.fed = t.read := by simpa [Reader.unqueued] using horder
    refine ⟨hreader, hread, fun hfailed => ?_⟩
    obtain ⟨hungUp, hunread⟩ := h.exhausted hrunning (.inr hreader) hfailed
    refine ⟨hungUp, ?_⟩
    rw [hread, ← h.printed, hunread, List.append_nil]

/-- A run in which the end of the child overtakes its output: a queue of four bytes,
the child prints six and ends, and the session hears of the end while two bytes are
still with the reader. The message about those comes when the session has them. -/
def overtaken : List Move :=
  [.print [0x61, 0x62, 0x63, 0x64, 0x65, 0x66], .hangUp, .read 6, .readerTurn, .exit 0, .report,
    .sessionTurn, .sessionTurn, .sessionTurn, .sessionTurn, .sessionTurn,
    .readerTurn, .readerTurn, .endOfOutput, .readerTurn,
    .sessionTurn, .sessionTurn, .sessionTurn, .sessionTurn, .sessionTurn]

theorem delivered_when_overtaken :
    let t := (start { queueCapacity := 4 } (.ofCells 8 2) 7).run overtaken
    t.session.isRunning = true ∧ (t.move .sessionTurn).session.isRunning = false ∧
      t.readFailed = false ∧ appended t.fed = t.printed ∧ t.session.inbox = [.newInput] := by
  intro t
  have hrunning : t.session.isRunning = true := by decide +kernel
  have hended : (t.move .sessionTurn).session.isRunning = false := by decide +kernel
  have hseen : t.task = .drained 0 true := by decide +kernel
  have hread : t.readFailed = false := by decide +kernel
  obtain ⟨-, -, hend⟩ :=
    delivered_before_the_end { queueCapacity := 4 } (.ofCells 8 2) 7 overtaken
  obtain ⟨code, readerGone, -, -, htask, -, -, -, -, -, hall⟩ := hend .sessionTurn hrunning hended
  obtain ⟨-, rfl⟩ := Task.drained.inj (htask.symm.trans hseen)
  obtain ⟨-, -, hprinted⟩ := hall rfl
  exact ⟨hrunning, hended, hread, (hprinted hread).2, by decide +kernel⟩

end Traffic

end Teletype

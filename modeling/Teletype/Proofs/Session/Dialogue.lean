import Teletype.Proofs.Session.Handled
import Teletype.Proofs.Session.Waiting

/-!
# What a session says

A session speaks to its child, to which it sends bytes of the host and replies of the
emulator, and to its host, which it tells of events. Both are seen in a part of the
state (`Dialogue`). What a move can do to it is said once (`speaks_move`), together with
what the move sends (`sends`).
-/

namespace Teletype

namespace Session

open Emulator

/-- What the end of the child has the emulator take in. -/
def endInputs (code : Int) : List Emulator.Input :=
  [.append (Text.Utf8.encode (exitDescription code)), .takeReplies, .takeEvents]

/-- What the host is told at the end of the child: of the end, and of what the text about
it makes happen. -/
theorem finish_eq {s : Session} {e : Emulator} (hemulator : s.emulator = some e) (code : Int) :
    let seen := { s.close code with emulator := some (e.takeAll (endInputs code)) }
    s.finish code (exitDescription code) = (seen, ⟨.finished, s.close code⟩ ::
      announcements (e.append (Text.Utf8.encode (exitDescription code))).events seen) := by
  have hlast : e.takeAll (endInputs code) =
      (e.append (Text.Utf8.encode (exitDescription code))).takeReplies.2.takeEvents.2 := rfl
  have hfinish : s.finish code (exitDescription code) =
      (((s.close code).announce (exitDescription code)).1,
        ⟨.finished, s.close code⟩ :: ((s.close code).announce (exitDescription code)).2) := rfl
  have hclosed : (s.close code).emulator = some e := hemulator
  simp only [hlast, hfinish, announce, hclosed, Option.map_some]
  generalize e.append (Text.Utf8.encode (exitDescription code)) = g
  rw [announcements_eq (e := g.takeReplies.2) _ rfl]
  rfl

end Session

namespace Traffic

open Session Outgoing

/-- Bytes that are sent to the child, and whether they answer it. -/
structure Sending where
  isReply : Bool
  bytes : List UInt8
  deriving Repr, DecidableEq

/-- Whether the session answers in its next turn: it has found something in the queue,
and there is no more. -/
def answersNext (t : Traffic) : Bool :=
  match t.task, t.session.fromChild.readTurn { limit := chunkSize } with
  | .taking true _, (_, .done (_ :: _)) => false
  | .taking true _, _ => t.session.unsent.isNone
  | _, _ => false

/-- What a move sends. -/
def sends (t : Traffic) : Move → List Sending
  | .write bytes => if t.isFree && t.session.isRunning then [⟨false, bytes⟩] else []
  | .sessionTurn =>
    if t.answersNext then [⟨true, (t.session.emulator.map (·.replies)).getD []⟩] else []
  | _ => []

/-- All that is sent in the course of a run. -/
def sent (t : Traffic) : List Move → List Sending
  | [] => []
  | m :: rest => t.sends m ++ (t.move m).sent rest

/-- How far a session is with what is in the queue from its child. -/
inductive Phase where
  | quiet
  /-- The emulator has taken in some of it. -/
  | found
  /-- The child has its answer, and the host is still to be told. -/
  | answered
  deriving Repr, DecidableEq

/-- How far the session is with what is in the queue. -/
def Task.phase : Task → Phase
  | .taking true _ => .found
  | .telling _ => .answered
  | _ => .quiet

/-- What a session says, to its child and to its host. -/
structure Dialogue where
  outgoing : Outgoing
  delivered : List UInt8
  phase : Phase
  fed : List Emulator.Input
  notices : List Notice

/-- What the session says. -/
def dialogue (t : Traffic) : Dialogue where
  outgoing := t.outgoing
  delivered := t.delivered
  phase := t.task.phase
  fed := t.fed
  notices := t.notices

/-- Bytes are stored as far as there is room, and the rest waits. -/
def Outgoing.store (o : Outgoing) (w : ByteQueue.Writing) : Outgoing :=
  { o with queue := (o.queue.writeTurn w).1, unsent := left (o.queue.writeTurn w).2 }

/-- What can happen to what a session says, and what is sent then. The session began with
the emulator `e`. -/
inductive Dialogue.Step (e : Emulator) : List Sending → Dialogue → Dialogue → Prop
  | rests (d : Dialogue) : Step e [] d d
  | hears {d : Dialogue} (chunk : List UInt8) (hchunk : chunk ≠ []) (hphase : d.phase ≠ .answered)
      (hrunning : d.outgoing.isRunning = true) :
      Step e [] d { d with fed := d.fed ++ [.append chunk], phase := .found }
  | answers {d : Dialogue} (hphase : d.phase = .found) (hsent : d.outgoing.unsent = none)
      (hrunning : d.outgoing.isRunning = true) :
      Step e [⟨true, (e.takeAll d.fed).replies⟩] d
        { d with
          outgoing := d.outgoing.store { rest := (e.takeAll d.fed).replies }
          fed := d.fed ++ [.takeReplies]
          phase := .answered }
  | tells {d : Dialogue} (seen : Session)
      (hseen : seen.emulator = some (e.takeAll (d.fed ++ [.takeEvents])))
      (hphase : d.phase = .answered) (hsent : d.outgoing.unsent = none)
      (hrunning : d.outgoing.isRunning = true) :
      Step e [] d
        { d with
          fed := d.fed ++ [.takeEvents]
          phase := .quiet
          notices := d.notices ++ announcements (e.takeAll d.fed).events seen }
  /-- The host sends bytes. -/
  | writes {d : Dialogue} (bytes : List UInt8) (hsent : d.outgoing.unsent = none)
      (hrunning : d.outgoing.isRunning = true) :
      Step e [⟨false, bytes⟩] d { d with outgoing := d.outgoing.store { rest := bytes } }
  /-- The session goes on with what waits for room. -/
  | resumes {d : Dialogue} (w : ByteQueue.Writing) (hw : d.outgoing.unsent = some w) :
      Step e [] d { d with outgoing := d.outgoing.store w }
  | resizes {d : Dialogue} (cols rows : Nat) (hphase : d.phase = .quiet) :
      Step e [] d { d with fed := d.fed ++ [.resize cols rows] }
  | resets {d : Dialogue} (seen : Session)
      (hseen : seen.emulator = some (e.takeAll (d.fed ++ [.reset, .takeEvents])))
      (hphase : d.phase = .quiet) (hsent : d.outgoing.unsent = none) :
      Step e [] d
        { d with
          fed := d.fed ++ [.reset, .takeEvents]
          notices := d.notices ++ announcements (e.takeAll d.fed).reset.events seen }
  /-- The child has ended, and with it the session. -/
  | ends {d : Dialogue} (code : Int) (closed seen : Session)
      (hseen : seen.emulator = some (e.takeAll (d.fed ++ endInputs code)))
      (hphase : d.phase = .quiet) (hsent : d.outgoing.unsent = none)
      (hrunning : d.outgoing.isRunning = true) :
      Step e [] d
        { d with
          outgoing := { d.outgoing with
            queue := d.outgoing.queue.close, unsent := none, isRunning := false }
          fed := d.fed ++ endInputs code
          notices := d.notices ++ ⟨.finished, closed⟩ :: announcements
            ((e.takeAll d.fed).append (Text.Utf8.encode (exitDescription code))).events seen }
  /-- The writer takes bytes. -/
  | takes {d : Dialogue} (queue : ByteQueue) (bytes : List UInt8)
      (hturn : d.outgoing.queue.readTurn { limit := chunkSize, block := true } =
        (queue, .done bytes)) (hwriter : d.outgoing.writer = .waiting) :
      Step e [] d { d with outgoing := { d.outgoing with queue, writer := .delivering bytes } }
  | delivers {d : Dialogue} (bytes : List UInt8) (hwriter : d.outgoing.writer = .delivering bytes) :
      Step e [] d
        { d with
          outgoing := { d.outgoing with writer := .waiting }
          delivered := d.delivered ++ bytes }
  /-- The writer leaves: the queue is closed, or the device has refused its bytes. -/
  | leaves (d : Dialogue) : Step e [] d { d with outgoing := { d.outgoing with writer := .gone } }

theorem Dialogue.Step.of_eq {e : Emulator} {d d' : Dialogue} (h : d' = d) : Step e [] d d' :=
  h ▸ .rests d'

variable {t : Traffic} {e : Emulator}

/-! ## What a move does -/

/-- While the session is running, what it sends is stored. -/
theorem outgoing_write (hsent : t.session.unsent = none) (hrunning : t.session.isRunning = true)
    (bytes : List UInt8) :
    outgoing { t with session := t.session.write bytes } = t.outgoing.store { rest := bytes } := by
  unfold write
  rw [hrunning, Bool.true_and]
  cases bytes with
  | nil =>
    have hnone : t.outgoing.unsent = none := hsent
    show t.outgoing = { t.outgoing with unsent := none }
    rw [← hnone]
  | cons byte rest => exact outgoing_send t _

theorem dialogue_beginMessage (hidle : t.task = .idle) :
    t.beginMessage.dialogue = t.dialogue := by
  have hphase : t.dialogue = { t.dialogue with phase := .quiet } := by
    unfold dialogue
    rw [hidle]
    rfl
  unfold Traffic.beginMessage
  split
  · rfl
  next message inbox _ =>
    dsimp only
    split
    · rw [hphase]
      cases message <;> rfl
    · rfl

/-- While something waits for room, nothing is answered. -/
theorem answersNext_of_unsent {w : ByteQueue.Writing} (hunsent : t.session.unsent = some w) :
    t.answersNext = false := by
  unfold answersNext
  rw [hunsent]
  split <;> rfl

theorem answersNext_eq_false (htask : t.task.phase ≠ .found) : t.answersNext = false := by
  unfold answersNext
  split
  next h _ => rfl
  next h _ =>
    rw [h] at htask
    exact absurd rfl htask
  next => rfl

theorem speaks_answer (h : Delivers e t) {purpose : Purpose} (htask : t.task = .taking true purpose)
    (hsent : t.session.unsent = none) :
    Dialogue.Step e [⟨true, (e.takeAll t.fed).replies⟩] t.dialogue (t.answer purpose).dialogue := by
  have hrunning : t.session.isRunning = true := h.running (by rw [htask]; nofun)
  have hphase : t.dialogue.phase = .found := congrArg Task.phase htask
  -- the emulator is not seen in what is on its way to the child
  have hout := outgoing_write
    (t := { t with session := { t.session with emulator := some (e.takeAll t.fed).takeReplies.2 } })
    hsent hrunning (e.takeAll t.fed).replies
  have hanswer : (t.answer purpose).dialogue =
      { t.dialogue with
        outgoing := t.dialogue.outgoing.store { rest := (e.takeAll t.dialogue.fed).replies }
        fed := t.dialogue.fed ++ [.takeReplies]
        phase := .answered } := by
    unfold Traffic.answer
    rw [h.record]
    exact congrArg
      (fun o => Dialogue.mk o t.delivered .answered (t.fed ++ [.takeReplies]) t.notices) hout
  rw [hanswer]
  exact .answers hphase hsent hrunning

/-- The session reads the queue, or answers, or has found nothing. -/
theorem speaks_take (h : Delivers e t) {found : Bool} {purpose : Purpose}
    (htask : t.task = .taking found purpose) (hsent : t.session.unsent = none) :
    Dialogue.Step e (t.sends .sessionTurn) t.dialogue (t.take found purpose).dialogue := by
  have hrunning : t.session.isRunning = true := h.running (by rw [htask]; nofun)
  have hphase : t.dialogue.phase ≠ .answered := by
    simp only [dialogue, htask]
    cases found <;> nofun
  have hanswers : found = true → Dialogue.Step e [⟨true, (e.takeAll t.fed).replies⟩] t.dialogue
      (t.answer purpose).dialogue := by
    rintro rfl
    exact speaks_answer h htask hsent
  have hgoesOn : found = false → Dialogue.Step e [] t.dialogue (t.goOn purpose).dialogue := by
    rintro rfl
    refine .of_eq ?_
    unfold dialogue
    rw [htask]
    cases purpose <;> rfl
  have hhears : ∀ byte bytes, Dialogue.Step e [] t.dialogue
      { t.dialogue with fed := t.fed ++ [.append (byte :: bytes)], phase := .found } :=
    fun byte bytes => .hears (byte :: bytes) (List.cons_ne_nil byte bytes) hphase hrunning
  show Dialogue.Step e (if t.answersNext then _ else []) _ _
  unfold Traffic.take answersNext
  rw [htask, h.record, hsent]
  generalize t.session.fromChild.readTurn { limit := chunkSize } = turn
  rcases turn with ⟨fromChild, (_ | ⟨byte, bytes⟩) | _ | rest⟩ <;> cases found
  all_goals first
    | exact hhears byte bytes
    | exact hgoesOn rfl
    | exact hanswers rfl

/-- Telling the host is one step. -/
theorem speaks_tell (h : Delivers e t) {purpose : Purpose} (htask : t.task = .telling purpose)
    (hsent : t.session.unsent = none) :
    Dialogue.Step e [] t.dialogue (t.tell.goOn purpose).dialogue := by
  have hrunning : t.session.isRunning = true := h.running (by rw [htask]; nofun)
  have hphase : t.dialogue.phase = .answered := congrArg Task.phase htask
  let seen : Session := { t.session with emulator := some (e.takeAll t.fed).takeEvents.2 }
  have hseen : seen.emulator = some (e.takeAll (t.fed ++ [.takeEvents])) :=
    congrArg some (takeAll_append e t.fed [.takeEvents]).symm
  have htell : (t.tell.goOn purpose).dialogue =
      { t.dialogue with
        fed := t.fed ++ [.takeEvents]
        phase := .quiet
        notices := t.notices ++ announcements (e.takeAll t.fed).events seen } := by
    unfold Traffic.tell
    rw [announcements_eq t.session h.record]
    cases purpose <;> rfl
  rw [htell]
  exact .tells seen hseen hphase hsent hrunning

/-- The end of the session is one step. -/
theorem speaks_finish (h : Delivers e t) {code : Int} {readerGone : Bool}
    (htask : t.task = .drained code readerGone) (hsent : t.session.unsent = none) :
    Dialogue.Step e [] t.dialogue (t.finish code).dialogue := by
  have hrunning : t.session.isRunning = true := h.running (by rw [htask]; nofun)
  have hphase : t.dialogue.phase = .quiet := congrArg Task.phase htask
  let seen : Session :=
    { t.session.close code with emulator := some ((e.takeAll t.fed).takeAll (endInputs code)) }
  have hseen : seen.emulator = some (e.takeAll (t.fed ++ endInputs code)) :=
    congrArg some (takeAll_append e t.fed (endInputs code)).symm
  have hends : (t.finish code).dialogue =
      { t.dialogue with
        outgoing := { t.dialogue.outgoing with
          queue := t.dialogue.outgoing.queue.close, unsent := none, isRunning := false }
        fed := t.fed ++ endInputs code
        notices := t.notices ++ ⟨.finished, t.session.close code⟩ :: announcements
          ((e.takeAll t.fed).append (Text.Utf8.encode (exitDescription code))).events seen } := by
    unfold Traffic.finish
    dsimp only
    rw [finish_eq h.record]
    unfold dialogue
    rw [htask]
    rfl
  rw [hends]
  exact .ends code _ seen hseen hphase hsent hrunning

theorem speaks_sessionTurn (h : Delivers e t) :
    Dialogue.Step e (t.sends .sessionTurn) t.dialogue t.sessionTurn.dialogue := by
  unfold Traffic.sessionTurn
  split
  next hunsent =>
    obtain ⟨w, hw⟩ := Option.isSome_iff_exists.mp hunsent
    have hresume : dialogue { t with session := t.session.resume } =
        { t.dialogue with outgoing := t.dialogue.outgoing.store w } := by
      unfold resume
      rw [hw]
      exact congrArg (fun o => Dialogue.mk o t.delivered t.task.phase t.fed t.notices)
        (outgoing_send t w)
    rw [hresume, sends, answersNext_of_unsent hw]
    exact .resumes w hw
  next hunsent =>
    have hsent : t.session.unsent = none := Option.not_isSome_iff_eq_none.mp hunsent
    have hnone : t.task.phase ≠ .found → t.sends .sessionTurn = [] := by
      intro hphase
      rw [sends, answersNext_eq_false hphase]
      rfl
    split
    next htask =>
      rw [hnone (by rw [htask]; nofun)]
      exact .of_eq (dialogue_beginMessage htask)
    next found purpose htask => exact speaks_take h htask hsent
    next purpose htask =>
      rw [hnone (by rw [htask]; nofun)]
      exact speaks_tell h htask hsent
    next code htask =>
      rw [hnone (by rw [htask]; nofun)]
      refine .of_eq ?_
      unfold dialogue
      rw [htask]
      rfl
    next code readerGone htask =>
      rw [hnone (by rw [htask]; nofun)]
      split
      · exact speaks_finish h htask hsent
      · refine .of_eq ?_
        unfold dialogue
        rw [htask]
        rfl

theorem dialogue_readerTurn (t : Traffic) : t.readerTurn.dialogue = t.dialogue := by
  unfold Traffic.readerTurn
  split
  · split <;> rfl
  all_goals rfl

theorem speaks_writerTurn (t : Traffic) : Dialogue.Step e [] t.dialogue t.writerTurn.dialogue := by
  unfold Traffic.writerTurn
  split
  next hwriter =>
    generalize hturn : t.session.toChild.readTurn { limit := chunkSize, block := true } = turn
    split
    next queue bytes => exact .takes queue bytes hturn hwriter
    next => exact .leaves t.dialogue
    next => exact .rests _
  next bytes hwriter => exact .delivers bytes hwriter
  next => exact .rests _

/-- The host sends bytes. -/
theorem speaks_write (bytes : List UInt8) :
    Dialogue.Step e (t.sends (.write bytes)) t.dialogue (t.move (.write bytes)).dialogue := by
  simp only [sends, Traffic.move]
  cases hfree : t.isFree with
  | false => exact .rests _
  | true =>
    rw [isFree, Bool.and_eq_true, Option.isNone_iff_eq_none] at hfree
    cases hrunning : t.session.isRunning with
    | false =>
      rw [Session.write, hrunning]
      exact .rests _
    | true =>
      have hwrite : dialogue { t with session := t.session.write bytes } =
          { t.dialogue with outgoing := t.dialogue.outgoing.store { rest := bytes } } :=
        congrArg (fun o => Dialogue.mk o t.delivered t.task.phase t.fed t.notices)
          (outgoing_write hfree.2 hrunning bytes)
      show Dialogue.Step e [⟨false, bytes⟩] t.dialogue
        (dialogue { t with session := t.session.write bytes })
      rw [hwrite]
      exact .writes bytes hfree.2 hrunning

/-- The host resets the screen. -/
theorem speaks_reset (h : Delivers e t) :
    Dialogue.Step e [] t.dialogue (t.move .reset).dialogue := by
  simp only [Traffic.move]
  split
  next hfree =>
    rw [isFree, Bool.and_eq_true, decide_eq_true_eq, Option.isNone_iff_eq_none] at hfree
    let g := (e.takeAll t.fed).reset
    let seen : Session := { t.session with emulator := some g.takeEvents.2 }
    have hseen : seen.emulator = some (e.takeAll (t.fed ++ [.reset, .takeEvents])) :=
      congrArg some (takeAll_append e t.fed [.reset, .takeEvents]).symm
    have hreset : t.session.reset = (seen, announcements g.events seen) := by
      rw [Session.reset, h.record]
      exact announcements_eq _ rfl
    rw [hreset]
    exact .resets seen hseen (congrArg Task.phase hfree.1) hfree.2
  next => exact .rests _

/-- **What a move sends, and what it does to what the session says.** -/
theorem speaks_move (h : Delivers e t) (m : Move) :
    Dialogue.Step e (t.sends m) t.dialogue (t.move m).dialogue := by
  cases m with
  | sessionTurn => exact speaks_sessionTurn h
  | writerTurn => exact speaks_writerTurn t
  | readerTurn => exact .of_eq (dialogue_readerTurn t)
  | write bytes => exact speaks_write bytes
  | reset => exact speaks_reset h
  | failWrite =>
    simp only [Traffic.move]
    split
    · exact .leaves t.dialogue
    · exact .rests _
  | giveUp =>
    simp only [Traffic.move]
    split
    next code htask =>
      refine speaks_finish h htask ?_
      -- when all is drained, no answer is waiting any more
      rw [← Option.not_isSome_iff_eq_none]
      intro hunsent
      have hwaits := h.mayWait hunsent
      rw [htask] at hwaits
      cases hwaits
    next => exact .rests _
  | resize size =>
    simp only [Traffic.move]
    split
    next hfree =>
      rw [isFree, Bool.and_eq_true, decide_eq_true_eq] at hfree
      exact .resizes _ _ (congrArg Task.phase hfree.1)
    next => exact .rests _
  | read count =>
    simp only [Traffic.move, Traffic.readChunk]
    split <;> exact .rests _
  | hangUp => exact .rests _
  | _ =>
    simp only [Traffic.move]
    split <;> exact .rests _

end Traffic

end Teletype

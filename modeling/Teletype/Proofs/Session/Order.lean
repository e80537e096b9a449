import Teletype.Proofs.Emulator.Reset
import Teletype.Proofs.Session.Dialogue
import Teletype.Proofs.Text.Utf8

/-!
# In what order a session speaks

Whoever goes when, the host is told what the record of the emulator says, in its order
(`Told`): nothing in the middle of what is read, and at the end of it each event once
and that the text has changed. What is sent to the child arrives in the order in which
it was sent (`Stored`). And what is sent in answer is what the emulator replies, up to
the end of the child, each reply once (`Answered`). The steps are those of `Dialogue`.
-/

namespace Teletype

namespace Traffic

open Session Outgoing Emulator

/-! ## To the host -/

/-- What the host is told of an emulator: of each event, and that the text has changed.
It sees the emulator when the events have been taken. -/
def saying (e : Emulator) : List (Notification × Option Emulator) :=
  (e.events.map Notification.ofEvent ++ [Notification.textChanged]).map (·, some e.takeEvents.2)

/-- What the host is told of an emulator in the course of what reaches it. -/
def sayings (e : Emulator) : List Emulator.Input → List (Notification × Option Emulator)
  | [] => []
  | input :: rest => (if input = .takeEvents then saying e else []) ++ sayings (e.take input) rest

/-- What the host was told, apart from the end. -/
def heard (notices : List Notice) : List (Notification × Option Emulator) :=
  (notices.filter (·.notification ≠ .finished)).map fun n => (n.notification, n.session.emulator)

/-- What reaches an emulator is whole rounds: one chunk or several, and behind them the
replies are taken and then the events; or something that the host asks for. -/
inductive Rounds : List Emulator.Input → Prop
  | nil : Rounds []
  | resize {fed : List Emulator.Input} (h : Rounds fed) (cols rows : Nat) :
      Rounds (fed ++ [.resize cols rows])
  | reset {fed : List Emulator.Input} (h : Rounds fed) : Rounds (fed ++ [.reset, .takeEvents])
  | batch {fed : List Emulator.Input} {chunks : List (List UInt8)} (h : Rounds fed)
      (hsome : chunks ≠ []) (hchunks : ∀ chunk ∈ chunks, chunk ≠ []) :
      Rounds (fed ++ chunks.map .append ++ [.takeReplies, .takeEvents])

/-- Whole rounds, and some chunks of another. -/
def InRound (fed : List Emulator.Input) : Prop :=
  ∃ before chunks, Rounds before ∧ chunks ≠ [] ∧ (∀ chunk ∈ chunks, chunk ≠ []) ∧
    fed = before ++ chunks.map .append

/-- How far the last round has come. -/
def Phase.Follows : Phase → List Emulator.Input → Prop
  | .quiet, fed => Rounds fed
  | .found, fed => InRound fed
  | .answered, fed => ∃ before, InRound before ∧ fed = before ++ [.takeReplies]

/-- What the host was told is what the record says. -/
structure Told (e : Emulator) (d : Dialogue) : Prop where
  heard_eq : heard d.notices = sayings e d.fed
  follows : d.phase.Follows d.fed

variable {e : Emulator} {d d' : Dialogue} {sent more : List Sending}

theorem sayings_append (e : Emulator) (inputs later : List Emulator.Input) :
    sayings e (inputs ++ later) = sayings e inputs ++ sayings (e.takeAll inputs) later := by
  induction inputs generalizing e with
  | nil => rfl
  | cons input rest ih =>
    rw [List.cons_append, sayings, sayings, ih, List.append_assoc]
    rfl

/-- The host is told when the emulator is asked for its events. -/
theorem sayings_asked (e : Emulator) (inputs : List Emulator.Input) (h : .takeEvents ∉ inputs) :
    sayings e (inputs ++ [.takeEvents]) = saying (e.takeAll inputs) := by
  induction inputs generalizing e with
  | nil => exact List.append_nil _
  | cons input rest ih =>
    rw [List.mem_cons, not_or] at h
    rw [List.cons_append, sayings, if_neg (Ne.symm h.1), List.nil_append, ih _ h.2]
    rfl

theorem heard_append (notices later : List Notice) :
    heard (notices ++ later) = heard notices ++ heard later := by
  rw [heard, List.filter_append, List.map_append]
  rfl

theorem heard_announcements {g : Emulator} {seen : Session}
    (hseen : seen.emulator = some g.takeEvents.2) :
    heard (announcements g.events seen) = saying g := by
  have hall : (announcements g.events seen).filter (·.notification ≠ .finished) =
      announcements g.events seen := by
    rw [List.filter_eq_self]
    intro notice hmem
    rw [announcements, List.mem_append, List.mem_map, List.mem_singleton] at hmem
    obtain ⟨event, -, rfl⟩ | rfl := hmem
    · exact decide_eq_true (Notification.ofEvent_ne event).1
    · rfl
  rw [heard, hall, announcements, saying, List.map_append, List.map_append, List.map_map,
    List.map_map, ← hseen]
  rfl

theorem InRound.of_chunk {fed : List Emulator.Input} (h : InRound fed) {chunk : List UInt8}
    (hchunk : chunk ≠ []) : InRound (fed ++ [.append chunk]) := by
  obtain ⟨before, chunks, hbefore, hsome, hchunks, rfl⟩ := h
  refine ⟨before, chunks ++ [chunk], hbefore, by simp, fun c hc => ?_, by simp⟩
  obtain hc | hc := List.mem_append.mp hc
  · exact hchunks c hc
  · exact List.mem_singleton.mp hc ▸ hchunk

theorem Rounds.of_chunk {fed : List Emulator.Input} (h : Rounds fed) {chunk : List UInt8}
    (hchunk : chunk ≠ []) : InRound (fed ++ [.append chunk]) :=
  ⟨fed, [chunk], h, by simp, by simpa using hchunk, by simp⟩

theorem InRound.closed {fed : List Emulator.Input} (h : InRound fed) :
    Rounds (fed ++ [.takeReplies, .takeEvents]) := by
  obtain ⟨before, chunks, hbefore, hsome, hchunks, rfl⟩ := h
  exact hbefore.batch hsome hchunks

theorem encode_exitDescription_ne_nil (code : Int) :
    Text.Utf8.encode (exitDescription code) ≠ [] := by
  have hlast : Text.Utf8.encode " - press Enter]" ≠ [] := by simp [Text.Utf8.encode]
  unfold exitDescription
  dsimp only
  rw [Text.Utf8.encode_append]
  exact List.append_ne_nil_of_right_ne_nil _ hlast

/-- **The host is told what the record says**, with every step. -/
theorem Told.step (h : Told e d) (hstep : Dialogue.Step e more d d') : Told e d' := by
  have hsilent : ∀ {input}, input ≠ .takeEvents →
      heard d.notices = sayings e (d.fed ++ [input]) := by
    intro input hinput
    rw [sayings_append, sayings, if_neg hinput, h.heard_eq]
    exact (List.append_nil _).symm
  have hfollows := h.follows
  cases hstep with
  | rests | writes | resumes | takes | delivers | leaves => exact ⟨h.heard_eq, hfollows⟩
  | hears chunk hchunk hphase _ =>
    refine ⟨hsilent nofun, ?_⟩
    generalize d.phase = phase at hfollows hphase
    cases phase with
    | quiet => exact Rounds.of_chunk hfollows hchunk
    | found => exact InRound.of_chunk hfollows hchunk
    | answered => exact absurd rfl hphase
  | answers hphase =>
    rw [hphase] at hfollows
    exact ⟨hsilent nofun, d.fed, hfollows, rfl⟩
  | tells seen hseen hphase =>
    rw [hphase] at hfollows
    rw [takeAll_append] at hseen
    refine ⟨?_, ?_⟩
    · show heard (d.notices ++ _) = sayings e (d.fed ++ ([] ++ [.takeEvents]))
      rw [heard_append, sayings_append, h.heard_eq, sayings_asked _ [] (by simp),
        heard_announcements hseen]
      rfl
    · obtain ⟨before, hbefore, hfed⟩ := hfollows
      show Rounds (d.fed ++ _)
      rw [hfed, List.append_assoc]
      exact hbefore.closed
  | resizes cols rows hphase =>
    refine ⟨hsilent nofun, ?_⟩
    rw [hphase] at hfollows
    show d.phase.Follows _
    rw [hphase]
    exact Rounds.resize hfollows cols rows
  | resets seen hseen hphase =>
    rw [takeAll_append] at hseen
    refine ⟨?_, ?_⟩
    · show heard (d.notices ++ _) = sayings e (d.fed ++ ([.reset] ++ [.takeEvents]))
      rw [heard_append, sayings_append, h.heard_eq, sayings_asked _ [.reset] (by simp)]
      exact congrArg _ (heard_announcements hseen)
    · rw [hphase] at hfollows
      show d.phase.Follows _
      rw [hphase]
      exact Rounds.reset hfollows
  | ends code closed seen hseen hphase =>
    rw [takeAll_append] at hseen
    refine ⟨?_, ?_⟩
    · let text := Text.Utf8.encode (exitDescription code)
      have hsaid : sayings (e.takeAll d.fed) (endInputs code) =
          saying ((e.takeAll d.fed).append text).takeReplies.2 :=
        sayings_asked _ [.append text, .takeReplies] (by simp)
      have hend : ∀ announced, heard (⟨.finished, closed⟩ :: announced) = heard announced :=
        fun _ => rfl
      show heard (d.notices ++ _) = sayings e (d.fed ++ endInputs code)
      rw [heard_append, hend, sayings_append, h.heard_eq, hsaid]
      have hseen' : seen.emulator =
          some ((e.takeAll d.fed).append text).takeReplies.2.takeEvents.2 := hseen
      generalize (e.takeAll d.fed).append text = g at hseen' ⊢
      exact congrArg _ (heard_announcements (g := g.takeReplies.2) hseen')
    · rw [hphase] at hfollows
      show d.phase.Follows _
      rw [hphase]
      have hlast := InRound.closed (Rounds.of_chunk hfollows (encode_exitDescription_ne_nil code))
      rwa [List.append_assoc] at hlast

/-! ## To the child -/

/-- The bytes that are sent, in their order. -/
def sentBytes (sent : List Sending) : List UInt8 :=
  sent.flatMap (·.bytes)

/-- The bytes among them that answer the child. -/
def replyBytes (sent : List Sending) : List UInt8 :=
  sentBytes (sent.filter (·.isReply))

/-- What waits for room. -/
def Outgoing.waiting (o : Outgoing) : List UInt8 :=
  (o.unsent.map (·.rest)).getD []

/-- What the writer has taken and not handed on. Once it has left, nobody knows. -/
def Writer.Holds : Writer → List UInt8 → Prop
  | .waiting, held => held = []
  | .delivering bytes, held => held = bytes
  | .gone, _ => True

/-- What was sent has reached the child, or is with the writer, or in the queue, or
waits for room, in this order. At the end of the child the rest is dropped. -/
structure Stored (sent : List Sending) (d : Dialogue) : Prop where
  inOrder : ∃ held rest, d.outgoing.writer.Holds held ∧
    d.delivered ++ held ++ rest = sentBytes sent ∧
    (d.outgoing.isRunning = true → rest = d.outgoing.queue.contents ++ d.outgoing.waiting)
  /-- Nobody is content with a part. -/
  whole : ∀ w, d.outgoing.unsent = some w → w.allowPartial = false

theorem sentBytes_append (sent more : List Sending) :
    sentBytes (sent ++ more) = sentBytes sent ++ sentBytes more :=
  List.flatMap_append

theorem replyBytes_append (sent more : List Sending) :
    replyBytes (sent ++ more) = replyBytes sent ++ replyBytes more := by
  rw [replyBytes, List.filter_append, sentBytes_append]
  rfl

/-- Storing loses nothing: what is not in the queue waits. -/
theorem waiting_store {o : Outgoing} (hsound : o.queue.Sound) (hopen : o.queue.isOpen = true)
    {w : ByteQueue.Writing} (hwhole : w.allowPartial = false) :
    (o.store w).queue.contents ++ (o.store w).waiting = o.queue.contents ++ w.rest ∧
      ∀ w', (o.store w).unsent = some w' → w'.allowPartial = false := by
  have hturn := hsound.writeTurn w
  unfold store waiting
  generalize o.queue.writeTurn w = turn at hturn
  cases hturn with
  | nothing hrest =>
    rw [hrest]
    exact ⟨rfl, nofun⟩
  | closed _ hclosed =>
    rw [hopen] at hclosed
    cases hclosed
  | full => exact ⟨rfl, fun w' hw' => Option.some.inj hw' ▸ hwhole⟩
  | complete q' n _ _ hstores henough =>
    obtain rfl : n = w.rest.length := henough.resolve_left (by rw [hwhole]; decide)
    rw [List.take_length] at hstores
    refine ⟨?_, nofun⟩
    show q'.contents ++ [] = _
    rw [hstores.contents_eq, List.append_nil]
  | some q' n _ _ hstores =>
    refine ⟨?_, fun w' hw' => Option.some.inj hw' ▸ hwhole⟩
    show q'.contents ++ w.rest.drop n = _
    rw [hstores.contents_eq, List.append_assoc, List.take_append_drop]

/-- **What is sent arrives in its order**, with every step. -/
theorem Stored.step {refused : Bool} (h : Stored sent d) (hsettled : Settled refused d.outgoing)
    (hstep : Dialogue.Step e more d d') : Stored (sent ++ more) d' := by
  obtain ⟨held, rest, hheld, horder, hrest⟩ := h.inOrder
  -- what is sent while nothing waits goes behind all that is queued
  have hstores : ∀ isReply bytes, d.outgoing.unsent = none → d.outgoing.isRunning = true →
      Stored (sent ++ [⟨isReply, bytes⟩])
        { d with outgoing := d.outgoing.store { rest := bytes } } := by
    intro isReply bytes hsent hrunning
    obtain ⟨hstored, hwhole⟩ := waiting_store (w := { rest := bytes }) hsettled.sound
      (hsettled.isOpen_eq.trans hrunning) rfl
    have hnone : d.outgoing.waiting = [] := by rw [waiting, hsent]; rfl
    rw [hrest hrunning, hnone, List.append_nil] at horder
    refine ⟨⟨held, _, hheld, ?_, fun _ => rfl⟩, hwhole⟩
    rw [hstored, sentBytes_append, ← horder, ← List.append_assoc]
    exact congrArg _ (List.append_nil bytes).symm
  cases hstep with
  | answers _ hsent hrunning =>
    have hanswered := hstores true (e.takeAll d.fed).replies hsent hrunning
    exact ⟨hanswered.inOrder, hanswered.whole⟩
  | writes bytes hsent hrunning => exact hstores false bytes hsent hrunning
  | resumes w hw =>
    rw [List.append_nil]
    have hrunning : d.outgoing.isRunning = true := hsettled.running (by rw [hw]; rfl)
    obtain ⟨hstored, hwhole⟩ := waiting_store hsettled.sound
      (hsettled.isOpen_eq.trans hrunning) (h.whole w hw)
    have hwaits : d.outgoing.waiting = w.rest := by rw [waiting, hw]; rfl
    rw [hrest hrunning, hwaits, ← hstored] at horder
    exact ⟨⟨held, _, hheld, horder, fun _ => rfl⟩, hwhole⟩
  | ends code closed seen hseen hphase hsent hrunning =>
    rw [List.append_nil]
    exact ⟨⟨held, rest, hheld, horder, nofun⟩, nofun⟩
  | takes queue bytes hturn hwriter =>
    rw [List.append_nil]
    rw [hwriter] at hheld
    have hread := hsettled.sound.readTurn { limit := chunkSize, block := true }
    rw [hturn] at hread
    cases hread with
    | nothing _ _ hblock => cases hblock
    | takes q' hopen hpos hopen' hsound hcapacity hcontents =>
      have hrunning := hsettled.isOpen_eq.symm.trans hopen
      obtain rfl : held = [] := hheld
      refine ⟨⟨_, queue.contents ++ d.outgoing.waiting, rfl, ?_, fun _ => rfl⟩, h.whole⟩
      rw [hrest hrunning, List.append_nil] at horder
      rw [hcontents, ← horder]
      show _ ++ (d.outgoing.queue.contents.drop chunkSize ++ _) = _
      rw [List.append_assoc, ← List.append_assoc (d.outgoing.queue.contents.take chunkSize),
        List.take_append_drop]
  | delivers bytes hwriter =>
    rw [List.append_nil]
    rw [hwriter] at hheld
    obtain rfl : held = bytes := hheld
    refine ⟨⟨[], rest, rfl, ?_, hrest⟩, h.whole⟩
    rw [List.append_nil]
    exact horder
  | leaves =>
    rw [List.append_nil]
    exact ⟨⟨held, rest, trivial, horder, hrest⟩, h.whole⟩
  | _ =>
    rw [List.append_nil]
    exact ⟨⟨held, rest, hheld, horder, hrest⟩, h.whole⟩

/-! ## The answers -/

/-- What reaches an emulator, without the requests for its replies. -/
def unasked (fed : List Emulator.Input) : List Emulator.Input :=
  fed.filter (· ≠ .takeReplies)

/-- All that an emulator replies to what reaches it. -/
def allReplies (e : Emulator) (fed : List Emulator.Input) : List UInt8 :=
  (e.takeAll (unasked fed)).replies

/-- The replies that were sent are what the emulator replies, up to the end of the
child. -/
structure Answered (e : Emulator) (replies : List UInt8) (d : Dialogue) : Prop where
  alike : d.outgoing.isRunning = true →
    Alike replies (e.takeAll (unasked d.fed)) (e.takeAll d.fed)
  /-- No reply is left between two rounds. -/
  noneDue : d.outgoing.isRunning = true → d.phase ≠ .found → (e.takeAll d.fed).replies = []
  /-- Nothing of the child comes behind the text about its end. -/
  ended : d.outgoing.isRunning = false → ∃ before code later,
    d.fed = before ++ endInputs code ++ later ∧ (∀ bytes, .append bytes ∉ later) ∧
      replies = allReplies e before

theorem unasked_append (fed later : List Emulator.Input) :
    unasked (fed ++ later) = unasked fed ++ unasked later :=
  List.filter_append ..

/-- What is no request for replies leaves them to be taken. -/
theorem alike_unasked {older : List UInt8} {fed later : List Emulator.Input}
    (h : Alike older (e.takeAll (unasked fed)) (e.takeAll fed)) (hnone : .takeReplies ∉ later) :
    Alike older (e.takeAll (unasked (fed ++ later))) (e.takeAll (fed ++ later)) := by
  have hlater : unasked later = later := by
    rw [unasked, List.filter_eq_self]
    exact fun input hinput => decide_eq_true fun heq => hnone (heq ▸ hinput)
  have hall := h.takeAll later
  rw [if_neg hnone] at hall
  rwa [unasked_append, hlater, takeAll_append, takeAll_append]

/-- Taking the replies moves them to those that were taken before. -/
theorem alike_asked {older : List UInt8} {fed : List Emulator.Input}
    (h : Alike older (e.takeAll (unasked fed)) (e.takeAll fed)) :
    Alike (older ++ (e.takeAll fed).replies) (e.takeAll (unasked (fed ++ [.takeReplies])))
      (e.takeAll (fed ++ [.takeReplies])) := by
  have hsame : unasked (fed ++ [.takeReplies]) = unasked fed := by
    rw [unasked_append]
    exact List.append_nil _
  rw [hsame, takeAll_append]
  exact ⟨h.screen, h.parser, h.palette, h.lastPrinted, h.replies.trans (List.append_nil _).symm⟩

/-- What the host asks for comes to the emulator at any time, and calls for no reply. -/
theorem Answered.feeds {replies : List UInt8} (h : Answered e replies d)
    (inputs : List Emulator.Input) (hasked : .takeReplies ∉ inputs)
    (hnone : ∀ bytes, .append bytes ∉ inputs) {phase : Phase} (hphase : d.phase ≠ .found)
    (hreplies : ∀ e : Emulator, (e.takeAll inputs).replies = e.replies) (notices : List Notice) :
    Answered e replies { d with phase, fed := d.fed ++ inputs, notices } where
  alike := fun hrunning => alike_unasked (h.alike hrunning) hasked
  noneDue := fun hrunning _ => by
    show (e.takeAll (d.fed ++ inputs)).replies = []
    rw [takeAll_append, hreplies, h.noneDue hrunning hphase]
  ended := fun hstopped => by
    obtain ⟨before, code, later, hfed, hlater, hbefore⟩ := h.ended hstopped
    refine ⟨before, code, later ++ inputs, ?_, fun bytes hmem => ?_, hbefore⟩
    · show d.fed ++ inputs = _
      rw [hfed, List.append_assoc]
    · exact (List.mem_append.mp hmem).elim (hlater bytes) (hnone bytes)

/-- **The replies are what is sent in answer**, with every step. -/
theorem Answered.step {replies : List UInt8} (h : Answered e replies d)
    (hstep : Dialogue.Step e more d d') : Answered e (replies ++ replyBytes more) d' := by
  have hsilent : ∀ {d''}, Answered e replies d'' → Answered e (replies ++ []) d'' := by
    intro d'' h''
    rwa [List.append_nil]
  cases hstep with
  | hears chunk _ _ hrunning =>
    refine hsilent ⟨fun _ => alike_unasked (h.alike hrunning) (by simp),
      fun _ hfound => absurd rfl hfound, fun hstopped => ?_⟩
    cases hrunning.symm.trans hstopped
  | answers _ _ hrunning =>
    have hsent : replyBytes [⟨true, (e.takeAll d.fed).replies⟩] = (e.takeAll d.fed).replies :=
      List.append_nil _
    rw [hsent]
    refine ⟨fun _ => alike_asked (h.alike hrunning), fun _ _ => ?_, fun hstopped => ?_⟩
    · show (e.takeAll (d.fed ++ [.takeReplies])).replies = []
      rw [takeAll_append]
      rfl
    · cases hrunning.symm.trans hstopped
  | tells seen _ hphase =>
    exact hsilent (h.feeds [.takeEvents] (by simp) (by simp) (by rw [hphase]; nofun)
      (fun _ => rfl) _)
  | resizes cols rows hphase =>
    exact hsilent (h.feeds [.resize cols rows] (by simp) (by simp) (by rw [hphase]; nofun)
      (fun _ => rfl) _)
  | resets seen _ hphase =>
    exact hsilent (h.feeds [.reset, .takeEvents] (by simp) (by simp) (by rw [hphase]; nofun)
      replies_reset _)
  | ends code closed seen _ hphase _ hrunning =>
    refine hsilent ⟨nofun, nofun, fun _ => ⟨d.fed, code, [], (List.append_nil _).symm, by simp, ?_⟩⟩
    have hall := (h.alike hrunning).replies
    rw [h.noneDue hrunning (by rw [hphase]; nofun), List.append_nil] at hall
    exact hall.symm
  | _ => exact hsilent ⟨h.alike, h.noneDue, h.ended⟩

/-! ## Every run -/

/-- The host is told something only when all that was sent has been stored, and when no
reply is left. -/
theorem Answered.before_telling {replies : List UInt8} (h : Answered e replies d)
    (hstep : Dialogue.Step e more d d') (hnew : d'.notices ≠ d.notices) :
    d.outgoing.unsent = none ∧
      (d.outgoing.isRunning = true → (e.takeAll d.fed).replies = []) := by
  have hquiet : d.outgoing.unsent = none → d.phase ≠ .found → d.outgoing.unsent = none ∧
      (d.outgoing.isRunning = true → (e.takeAll d.fed).replies = []) :=
    fun hsent hphase => ⟨hsent, fun hrunning => h.noneDue hrunning hphase⟩
  cases hstep with
  | tells _ _ hphase hsent => exact hquiet hsent (by rw [hphase]; nofun)
  | resets _ _ hphase hsent => exact hquiet hsent (by rw [hphase]; nofun)
  | ends _ _ _ _ hphase hsent => exact hquiet hsent (by rw [hphase]; nofun)
  | _ => exact absurd rfl hnew

/-- What holds of a session that has spoken to its child and its host. -/
structure Speaks (e : Emulator) (refused : Bool) (sent : List Sending) (t : Traffic) : Prop where
  delivers : Delivers e t
  settled : Settled refused t.outgoing
  told : Told e t.dialogue
  stored : Stored sent t.dialogue
  answered : Answered e (replyBytes sent) t.dialogue

theorem speaks_start (config : Config) (size : WindowSize) (pid : Nat) :
    Speaks (.initial size.cols.toNat size.rows.toNat config.transcriptRows) false []
      (start config size pid) where
  delivers := delivers_start config size pid
  settled := settled_start config size pid
  told := ⟨rfl, .nil⟩
  stored := by
    have hempty := ByteQueue.contents_eq_nil (q := .initial config.queueCapacity) rfl
    exact ⟨⟨[], [], rfl, rfl, fun _ => (congrArg (· ++ []) hempty).symm⟩, nofun⟩
  answered := ⟨fun _ => ⟨rfl, rfl, rfl, rfl, rfl⟩, fun _ _ => rfl, nofun⟩

variable {t : Traffic} {refused : Bool}

theorem Speaks.move (h : Speaks e refused sent t) (m : Move) :
    Speaks e (refused || t.refusesBy m) (sent ++ t.sends m) (t.move m) := by
  have hstep := speaks_move h.delivers m
  have hanswered := h.answered.step hstep
  rw [← replyBytes_append] at hanswered
  exact ⟨h.delivers.move m, h.settled.step (step_move h.delivers m), h.told.step hstep,
    h.stored.step h.settled hstep, hanswered⟩

theorem Speaks.run (h : Speaks e refused sent t) (moves : List Move) :
    Speaks e (refused || t.refuses moves) (sent ++ t.sent moves) (t.run moves) := by
  induction moves generalizing t refused sent with
  | nil =>
    rw [refuses, Bool.or_false, Traffic.sent, List.append_nil]
    exact h
  | cons m rest ih =>
    rw [refuses, ← Bool.or_assoc, Traffic.sent, ← List.append_assoc]
    exact ih (h.move m)

/-- A running session that waits for nothing is ready for a message. -/
theorem Speaks.serves (h : Speaks e refused sent t) (hrunning : t.session.isRunning = true)
    (hsent : t.session.unsent = none) (inbox : List Message) :
    Serves (e.takeAll t.fed) { t.session with inbox } where
  isRunning := hrunning
  emulator := h.delivers.record
  fromChild := h.delivers.sound
  toChild := h.settled.sound
  isOpen := h.settled.isOpen_eq.trans hrunning
  unsent := hsent

/-- Left alone, the turns of a session at a message about new bytes come to what
`handle` makes of it. -/
theorem Speaks.reaches_handled (h : Speaks e refused sent t)
    (hrunning : t.session.isRunning = true) (hfree : t.isFree = true) {inbox : List Message}
    (hinbox : t.session.inbox = .newInput :: inbox)
    (hroom : HasRoom (e.takeAll t.fed) { t.session with inbox }) :
    let step := ({ t.session with inbox } : Session).handle .newInput
    ∃ fed, Reaches t
      { t with session := step.1, task := .idle, notices := t.notices ++ step.2, fed } := by
  rw [isFree, Bool.and_eq_true, decide_eq_true_eq, Option.isNone_iff_eq_none] at hfree
  obtain ⟨hidle, hsent⟩ := hfree
  let s : Session := { t.session with inbox }
  obtain ⟨-, hnothing, hsome⟩ := (h.serves hrunning hsent inbox).handlesInput
  have hinput : s.handle .newInput = s.processInput := if_pos hrunning
  have hdone : s.processInput.1.unsent = none := by
    rw [← hinput]
    by_cases hempty : s.fromChild.contents = []
    · rw [hnothing hempty]
      exact hsent
    · obtain ⟨seen, hhandled, hhandle⟩ := hsome hempty hroom
      rw [hhandle, hhandled.others]
      exact hsent
  exact reaches_handle h.delivers.sound hsent h.delivers.record hidle hinbox hdone
    (fun _ hexit => Message.noConfusion hexit)

/-- **The order in which a session speaks.** A message about new bytes is handled in one
go: all bytes, then the answers, then each event, and at last the change of the text;
and the turns of a session that is left alone come to that. In a run, in which others
come between, the host is told just this of each round, in the order of the record, and
not before the answers are stored. All that is sent comes to the child in its order.
While the session runs, what was sent in answer is what the emulator replies, but for
what it replies to a round that is not yet at its end; and after the end of the child it
is what the emulator replied up to then. -/
theorem speaks_in_order (config : Config) (size : WindowSize) (pid : Nat) (moves : List Move) :
    let t := (start config size pid).run moves
    let e := Emulator.initial size.cols.toNat size.rows.toNat config.transcriptRows
    let sent := (start config size pid).sent moves
    (∀ (s : Session) (g : Emulator), Serves g s → HandlesInput g s) ∧
    (t.session.isRunning = true → t.session.unsent = none →
      ∀ inbox, Serves (e.takeAll t.fed) { t.session with inbox }) ∧
    (t.session.isRunning = true → t.isFree = true →
      ∀ inbox, t.session.inbox = .newInput :: inbox →
        HasRoom (e.takeAll t.fed) { t.session with inbox } →
        let step := ({ t.session with inbox } : Session).handle .newInput
        ∃ fed, Reaches t
          { t with session := step.1, task := .idle, notices := t.notices ++ step.2, fed }) ∧
    heard t.notices = sayings e t.fed ∧
    t.task.phase.Follows t.fed ∧
    (∀ m, (t.move m).notices ≠ t.notices → t.session.unsent = none ∧
      (t.session.isRunning = true → (e.takeAll t.fed).replies = [])) ∧
    (∃ held rest, t.writer.Holds held ∧ t.delivered ++ held ++ rest = sentBytes sent ∧
      (t.session.isRunning = true → rest = t.session.toChild.contents ++ t.outgoing.waiting)) ∧
    (t.session.isRunning = true →
      replyBytes sent ++ (e.takeAll t.fed).replies = allReplies e t.fed ∧
      (t.task.phase ≠ .found → (e.takeAll t.fed).replies = [])) ∧
    (t.session.isRunning = false → ∃ before code later,
      t.fed = before ++ endInputs code ++ later ∧ (∀ bytes, .append bytes ∉ later) ∧
      replyBytes sent = allReplies e before) := by
  intro t e sent
  have h : Speaks e _ sent t := (speaks_start config size pid).run moves
  refine ⟨fun s g hserves => hserves.handlesInput, h.serves,
    fun hrunning hfree inbox hinbox hroom => h.reaches_handled hrunning hfree hinbox hroom,
    h.told.heard_eq, h.told.follows,
    fun m hnew => h.answered.before_telling (speaks_move h.delivers m) hnew, h.stored.inOrder,
    fun hrunning => ⟨?_, h.answered.noneDue hrunning⟩, h.answered.ended⟩
  exact (h.answered.alike hrunning).replies.symm

/-- A child rings the bell and asks whether all is well, behind a byte of the host. -/
def asking : List Move :=
  [.write [0x61], .print [0x07, 0x1B, 0x5B, 0x35, 0x6E], .read 5, .readerTurn, .readerTurn]

/-- The session answers it, and then the child ends. -/
def askingThenEnding : List Move :=
  asking ++ List.replicate 4 .sessionTurn ++
    [.hangUp, .endOfOutput, .readerTurn, .exit 0, .report] ++ List.replicate 4 .sessionTurn

theorem speaks_in_order_bell :
    let begun := start { queueCapacity := 16 } (.ofCells 8 2) 7
    (∃ seen fed, Reaches (begun.run asking) { begun.run asking with
        session := seen, task := .idle, notices := [⟨.bell, seen⟩, ⟨.textChanged, seen⟩], fed } ∧
      seen.toChild.contents = [0x61, 0x1B, 0x5B, 0x30, 0x6E]) ∧
    (begun.run askingThenEnding).session.isRunning = false ∧
    ∃ before code later,
      (begun.run askingThenEnding).fed = before ++ endInputs code ++ later ∧
      replyBytes (begun.sent askingThenEnding) = allReplies (.initial 8 2 2000) before := by
  intro begun
  obtain ⟨hhandles, hserves, hturns, -⟩ :=
    speaks_in_order { queueCapacity := 16 } (.ofCells 8 2) 7 asking
  obtain ⟨-, -, -, -, -, -, -, -, hended⟩ :=
    speaks_in_order { queueCapacity := 16 } (.ofCells 8 2) 7 askingThenEnding
  have hcols : (WindowSize.ofCells 8 2).cols.toNat = 8 := by decide
  have hrows : (WindowSize.ofCells 8 2).rows.toNat = 2 := by decide
  rw [hcols, hrows] at hserves hturns hended
  let e := (Emulator.initial 8 2 2000).takeAll (begun.run asking).fed
  let s : Session := { (begun.run asking).session with inbox := [] }
  have hpieces : (s.fromChild.drain chunkSize).2 = [[0x07, 0x1B, 0x5B, 0x35, 0x6E]] := by
    rw [ByteQueue.drain, dif_pos (by decide +kernel)]
    dsimp only
    rw [ByteQueue.drain, dif_neg (by decide +kernel)]
    decide +kernel
  have hroom : HasRoom e s := by
    unfold HasRoom
    rw [hpieces]
    decide +kernel
  have hevents : ([[0x07, 0x1B, 0x5B, 0x35, 0x6E]].foldl Emulator.append e).events = [.bell] := by
    decide +kernel
  have hrunning : (begun.run asking).session.isRunning = true := by decide +kernel
  have hfree : (begun.run asking).isFree = true := by decide +kernel
  have hinbox : (begun.run asking).session.inbox = [.newInput] := by decide +kernel
  obtain ⟨fed, hreaches⟩ := hturns hrunning hfree [] hinbox hroom
  have hready : Serves e s := hserves hrunning (by decide +kernel) []
  obtain ⟨-, -, hsome⟩ := hhandles s e hready
  obtain ⟨seen, hseen, hhandle⟩ := hsome (by decide +kernel) hroom
  rw [hpieces] at hseen hhandle
  rw [hevents] at hhandle
  have hstopped : (begun.run askingThenEnding).session.isRunning = false := by decide +kernel
  obtain ⟨before, code, later, hfed, -, hreplies⟩ := hended hstopped
  refine ⟨⟨seen, fed, ?_, ?_⟩, hstopped, before, code, later, hfed, hreplies⟩
  · have hnone : (begun.run asking).notices = [] := by decide +kernel
    change Reaches (begun.run asking) { begun.run asking with
      session := (s.handle .newInput).1
      task := .idle
      notices := (begun.run asking).notices ++ (s.handle .newInput).2
      fed } at hreaches
    rw [hhandle, hnone] at hreaches
    exact hreaches
  · rw [hseen.toChild]
    decide +kernel

end Traffic

end Teletype

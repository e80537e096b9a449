import Teletype.Proofs.Session.Steps

/-!
# From before the start until after the end

A session is started by its first size, and ended by the message that its child has
ended; a child that could not be started is one that has ended. What else happens, and
when, does not matter: sizes, bytes and keys from the host, bytes from the child,
messages that come late or twice. All parts of the session agree about how far it has
come (`Agrees`), no step goes back (`Passes`), and the host hears of the end once
(`lifecycle`).
-/

namespace Teletype.Session

/-! ## What can happen -/

/-- Something that reaches a session from outside. -/
inductive Input where
  /-- The host gives the window a size. If this is the first one, the child is started
  or cannot be; later on the device takes the size or refuses it. -/
  | updateSize (size : WindowSize) (spawned : Except PtyError Nat) (refused : Bool)
  | write (bytes : List UInt8)
  | writeKey (escape : Bool) (codePoint : Nat)
  /-- The host kills the child, whose end is yet to be reported. -/
  | kill
  | reset
  /-- A message is handled, whether it is true or not. A session that reads its queue
  again and again at the end does so as if there were messages about new bytes. -/
  | handle (message : Message)
  /-- The reader has a turn at the queue from the child. -/
  | store (w : ByteQueue.Writing)
  /-- The writer has a turn at the queue to the child. -/
  | fetch (limit : Nat)
  /-- There may be room for what waits. -/
  | resume

/-- Takes in an input. A size that is refused and a key that is none change nothing. -/
def take (s : Session) : Input → Step
  | .updateSize size spawned refused =>
    match s.emulator with
    | none => s.start size spawned
    | some _ => if s.isRunning && refused then (s, []) else (s.resize size, [])
  | .write bytes => (s.write bytes, [])
  | .writeKey escape codePoint =>
    match s.writeKey escape codePoint with
    | .ok s => (s, [])
    | .error _ => (s, [])
  | .kill => (s, [])
  | .reset => s.reset
  | .handle message => s.handle message
  | .store w => ({ s with fromChild := (s.fromChild.writeTurn w).1 }, [])
  | .fetch limit => ({ s with toChild := (s.toChild.readTurn { limit, block := true }).1 }, [])
  | .resume => (s.resume, [])

/-- Takes in inputs in order. -/
def takeAll (s : Session) : List Input → Step
  | [] => (s, [])
  | input :: rest => (s.take input).andThen (·.takeAll rest)

variable {s s' : Session} {step : Step}

/-! ## How far a session has come -/

/-- Nothing is on its way to the child. -/
def Silent (s : Session) : Prop :=
  s.toChild.contents = [] ∧ s.unsent = none

/-- All parts of a session agree about how far it has come. -/
structure Agrees (s : Session) : Prop where
  emulator : s.emulator.isSome = true ↔ s.state ≠ .notStarted
  fromChild : s.fromChild.isOpen = false ↔ ∃ code, s.state = .finished code
  toChild : s.toChild.isOpen = false ↔ ∃ code, s.state = .finished code
  silent : s.isRunning = false → s.Silent
  sound : s.toChild.Sound

theorem agrees_initial (config : Config) : (initial config).Agrees where
  emulator := by simp [initial]
  fromChild := by simp [initial, ByteQueue.initial]
  toChild := by simp [initial, ByteQueue.initial]
  silent := fun _ => ⟨ByteQueue.contents_eq_nil rfl, rfl⟩
  sound := ByteQueue.sound_initial config.queueCapacity

/-! ## Steps that change nothing of that -/

/-- The session is as far as before, and the host hears of no end. -/
structure Continues (s : Session) (step : Step) : Prop where
  state : step.1.state = s.state
  emulator : step.1.emulator.isSome = s.emulator.isSome
  fromChild : step.1.fromChild.isOpen = s.fromChild.isOpen
  toChild : step.1.toChild.isOpen = s.toChild.isOpen
  silent : s.isRunning = false → s.Silent → step.1.Silent
  sound : s.toChild.Sound → step.1.toChild.Sound
  notices : ∀ notice ∈ step.2, notice.notification ≠ .finished

theorem Continues.agrees (h : Continues s step) (hs : s.Agrees) : step.1.Agrees := by
  have hrunning := isRunning_congr h.state
  constructor
  case emulator => rw [h.emulator, h.state]; exact hs.emulator
  case fromChild => rw [h.fromChild, h.state]; exact hs.fromChild
  case toChild => rw [h.toChild, h.state]; exact hs.toChild
  case silent => exact fun hstopped => h.silent (hrunning ▸ hstopped) (hs.silent (hrunning ▸ hstopped))
  case sound => exact h.sound hs.sound

theorem Continues.refl (s : Session) : Continues s (s, []) :=
  ⟨rfl, rfl, rfl, rfl, fun _ h => h, id, fun _ hmem => absurd hmem List.not_mem_nil⟩

theorem Continues.andThen (h : Continues s step) (next : Session → Step)
    (hnext : Continues step.1 (next step.1)) : Continues s (step.andThen next) := by
  have hrunning := isRunning_congr h.state
  constructor
  case state => exact hnext.state.trans h.state
  case emulator => exact hnext.emulator.trans h.emulator
  case fromChild => exact hnext.fromChild.trans h.fromChild
  case toChild => exact hnext.toChild.trans h.toChild
  case silent =>
    exact fun hstopped hsilent =>
      hnext.silent (hrunning.trans hstopped) (h.silent hstopped hsilent)
  case sound => exact fun hsound => hnext.sound (h.sound hsound)
  case notices =>
    intro notice hmem
    rcases List.mem_append.mp hmem with hmem | hmem
    · exact h.notices notice hmem
    · exact hnext.notices notice hmem

theorem continues_send (hrunning : s.isRunning = true) (w : ByteQueue.Writing) :
    Continues s (s.send w, []) := by
  have hkeeps := keeps_send s w
  have hsound : s.toChild.Sound → (s.send w).toChild.Sound := by
    intro hsound
    have hturn := hsound.of_writeTurn w
    unfold send
    generalize s.toChild.writeTurn w = turn at hturn
    split <;> exact hturn
  exact
    { state := hkeeps.state
      emulator := by rw [hkeeps.emulator]
      fromChild := by rw [hkeeps.fromChild]
      toChild := hkeeps.isOpen
      silent := fun hstopped => absurd (hrunning.symm.trans hstopped) (by decide)
      sound := hsound
      notices := fun _ hmem => absurd hmem List.not_mem_nil }

theorem continues_write (s : Session) (bytes : List UInt8) : Continues s (s.write bytes, []) := by
  unfold write
  split
  next hsends => exact continues_send (Bool.and_eq_true_iff.mp hsends).1 _
  next => exact .refl s

theorem continues_resume (h : s.Agrees) : Continues s (s.resume, []) := by
  unfold resume
  split
  next w hunsent =>
    cases hrunning : s.isRunning with
    | true => exact continues_send hrunning w
    | false =>
      -- nothing waits where there is no child
      rw [(h.silent hrunning).2] at hunsent
      cases hunsent
  next => exact .refl s

theorem continues_notify (s : Session) : Continues s (s.notify .textChanged) :=
  { Continues.refl s with
    notices := fun notice hmem => by
      rw [List.mem_singleton.mp hmem]
      exact Notification.noConfusion }

theorem continues_dispatchEvents (s : Session) : Continues s s.dispatchEvents := by
  have hnotices : ∀ notice ∈ s.dispatchEvents.2, notice.notification ≠ .finished := by
    intro notice hmem
    obtain ⟨event, hevent⟩ := exists_event_of_mem hmem
    rw [hevent]
    exact (Notification.ofEvent_ne event).1
  constructor
  case notices => exact hnotices
  all_goals rw [dispatchEvents_fst]
  case emulator => exact Option.isSome_map
  case silent => exact fun _ h => h
  case sound => exact id

/-- Only the emulator changes, and what comes from the child. -/
theorem continues_feed {emulator : Option Emulator} {fromChild : ByteQueue}
    (hemulator : emulator.isSome = s.emulator.isSome)
    (hfrom : fromChild.isOpen = s.fromChild.isOpen) :
    Continues s ({ s with emulator, fromChild }, []) :=
  { Continues.refl s with emulator := hemulator, fromChild := hfrom }

theorem continues_reset (s : Session) : Continues s s.reset := by
  have hreset : Continues s ({ s with emulator := s.emulator.map Emulator.reset }, []) :=
    continues_feed Option.isSome_map rfl
  have hevents := hreset.andThen dispatchEvents (continues_dispatchEvents _)
  exact hevents.andThen (·.notify .textChanged) (continues_notify _)

theorem continues_processInput (s : Session) : Continues s s.processInput := by
  have hopen := s.fromChild.isOpen_drain chunkSize
  unfold processInput
  generalize s.fromChild.drain chunkSize = drained at hopen
  split
  next e fromChild chunk chunks hemulator =>
    have hfed : Continues s ({ s with
        emulator := some ((chunk :: chunks).foldl Emulator.append e).takeReplies.2
        fromChild }, []) :=
      continues_feed (by rw [hemulator]; rfl) hopen
    have hanswered := hfed.andThen
      (fun s => (s.write ((chunk :: chunks).foldl Emulator.append e).takeReplies.1, []))
      (continues_write _ _)
    have hevents := hanswered.andThen dispatchEvents (continues_dispatchEvents _)
    exact hevents.andThen (·.notify .textChanged) (continues_notify _)
  next => exact .refl s

/-! ## The end -/

theorem agrees_close (hemulator : s.emulator.isSome = true) (hsound : s.toChild.Sound) (code : Int) :
    (s.close code).Agrees where
  emulator := by simp [close, hemulator]
  fromChild := by simp [close, ByteQueue.close]
  toChild := by simp [close, ByteQueue.close]
  silent := fun _ => ⟨ByteQueue.contents_eq_nil rfl, rfl⟩
  sound := hsound.close

theorem agrees_finish (hemulator : s.emulator.isSome = true) (hsound : s.toChild.Sound)
    (code : Int) (text : String) : (s.finish code text).1.Agrees := by
  have hannounced : Continues (s.close code) ((s.finish code text).1, []) := by
    rw [finish_fst]
    exact continues_feed Option.isSome_map rfl
  exact hannounced.agrees (agrees_close hemulator hsound code)

/-! ## Steps -/

/-- What a step can do to how far a session has come, and what the host hears of
that. -/
inductive Passes (s : Session) : Step → Prop
  | continues {step : Step} (h : Continues s step) : Passes s step
  /-- The child is started, of which the host hears nothing. -/
  | starts (s' : Session) (pid : Nat) (hfrom : s.state = .notStarted)
      (hto : s'.state = .running pid) : Passes s (s', [])
  /-- The child has ended, or could not be started. The host hears of the end when the
  session is closed, and then once that the text has changed, by the text about the
  end. -/
  | ends (code : Int) (front : String) (seen s' : Session) (before events : List Notice)
      (hfrom : s.isRunning = true ∨ s.state = .notStarted ∧ code = spawnFailureCode)
      (hbefore : ∀ notice ∈ before, notice.notification ≠ .finished)
      (hseen : seen.state = .finished code ∧ seen.Agrees)
      (hevents : ∀ notice ∈ events,
        notice.notification ≠ .finished ∧ notice.notification ≠ .textChanged)
      (hto : s'.state = .finished code)
      (htext : s'.emulator = seen.emulator.map
        (·.takeAll [.append (Text.Utf8.encode (front ++ exitDescription code)), .takeReplies, .takeEvents])) :
      Passes s (s', before ++ ⟨.finished, seen⟩ :: events ++ [⟨.textChanged, s'⟩])

/-- A session ends behind what it did before. -/
theorem passes_finish (before : Step) (code : Int) (front : String)
    (hfrom : s.isRunning = true ∨ s.state = .notStarted ∧ code = spawnFailureCode)
    (hbefore : ∀ notice ∈ before.2, notice.notification ≠ .finished)
    (hemulator : before.1.emulator.isSome = true) (hsound : before.1.toChild.Sound) :
    Passes s (before.andThen (·.finish code (front ++ exitDescription code))) := by
  obtain ⟨events, htold, hevents⟩ := exists_finish_snd before.1 code (front ++ exitDescription code)
  have hstep : before.andThen (·.finish code (front ++ exitDescription code)) =
      ((before.1.finish code (front ++ exitDescription code)).1,
        before.2 ++ ⟨.finished, before.1.close code⟩ :: events ++
          [⟨.textChanged, (before.1.finish code (front ++ exitDescription code)).1⟩]) := by
    rw [List.append_assoc, List.cons_append, ← List.cons_append, ← htold]
    rfl
  rw [hstep]
  refine .ends code front _ _ _ _ hfrom hbefore ⟨rfl, agrees_close hemulator hsound code⟩ ?_ ?_ ?_
  · intro notice hmem
    obtain ⟨event, hevent⟩ := hevents notice hmem
    rw [hevent]
    exact Notification.ofEvent_ne event
  · rw [finish_fst]
    rfl
  · rw [finish_fst]
    rfl

theorem isSome_of_running (h : s.Agrees) (hrunning : s.isRunning = true) :
    s.emulator.isSome = true := by
  refine h.emulator.mpr fun hstate => ?_
  rw [isRunning, hstate] at hrunning
  cases hrunning

theorem state_of_none (h : s.Agrees) (hemulator : s.emulator = none) : s.state = .notStarted := by
  refine Decidable.byContradiction fun hstate => ?_
  have hsome := h.emulator.mpr hstate
  rw [hemulator] at hsome
  cases hsome

/-- The first size. -/
theorem Agrees.start (h : s.Agrees) (hstate : s.state = .notStarted) (size : WindowSize)
    (spawned : Except PtyError Nat) :
    Passes s (s.start size spawned) ∧ (s.start size spawned).1.Agrees := by
  cases spawned with
  | ok pid =>
    refine ⟨.starts _ pid hstate rfl, ?_⟩
    have hfrom := h.fromChild
    have hto := h.toChild
    rw [hstate] at hfrom hto
    exact
      { emulator := by simp [Session.start]
        fromChild := by simpa [Session.start] using hfrom
        toChild := by simpa [Session.start] using hto
        silent := nofun
        sound := h.sound }
  | error e =>
    let opened : Session := { s with
      emulator := some (.initial size.cols.toNat size.rows.toNat s.config.transcriptRows) }
    refine ⟨?_, agrees_finish (s := opened) rfl h.sound _ _⟩
    exact passes_finish (opened, []) _ _ (.inr ⟨hstate, rfl⟩)
      (fun _ hmem => absurd hmem List.not_mem_nil) rfl h.sound

/-- **Every step goes on, starts the child, or ends the session**, and leaves all parts
of it agreeing. -/
theorem Agrees.take (h : s.Agrees) (input : Input) :
    Passes s (s.take input) ∧ (s.take input).1.Agrees := by
  have hcontinues : ∀ {step : Step}, Continues s step → Passes s step ∧ step.1.Agrees :=
    fun hstep => ⟨.continues hstep, hstep.agrees h⟩
  cases input with
  | updateSize size spawned refused =>
    simp only [Session.take]
    cases hemulator : s.emulator with
    | none => exact h.start (state_of_none h hemulator) size spawned
    | some e =>
      dsimp only
      split
      · exact hcontinues (.refl s)
      · exact hcontinues (continues_feed Option.isSome_map rfl)
  | write bytes => exact hcontinues (continues_write s bytes)
  | writeKey escape codePoint =>
    simp only [Session.take, writeKey]
    split
    next hkey =>
      split at hkey
      · cases hkey
        exact hcontinues (continues_write s _)
      · cases hkey
    next => exact hcontinues (.refl s)
  | kill => exact hcontinues (.refl s)
  | reset => exact hcontinues (continues_reset s)
  | handle message =>
    simp only [Session.take, handle]
    split
    next hrunning =>
      cases message with
      | newInput => exact hcontinues (continues_processInput s)
      | processExited code =>
        have hinput := continues_processInput s
        have hemulator := hinput.emulator.trans (isSome_of_running h hrunning)
        refine ⟨?_, agrees_finish hemulator (hinput.sound h.sound) _ _⟩
        have hends := passes_finish s.processInput code "" (.inl hrunning) hinput.notices hemulator
          (hinput.sound h.sound)
        rwa [String.empty_append] at hends
    next => exact hcontinues (.refl s)
  | store w => exact hcontinues (continues_feed rfl (s.fromChild.isOpen_writeTurn w))
  | fetch limit =>
    have hturn := h.sound.of_readTurn { limit, block := true }
    exact hcontinues
      { Continues.refl s with
        toChild := s.toChild.isOpen_readTurn _
        silent := fun _ hsilent => ⟨hturn.2 hsilent.1, hsilent.2⟩
        sound := fun _ => hturn.1 }
  | resume => exact hcontinues (continues_resume h)

/-! ## Runs -/

theorem Agrees.takeAll (h : s.Agrees) (inputs : List Input) : (s.takeAll inputs).1.Agrees := by
  induction inputs generalizing s with
  | nil => exact h
  | cons input rest ih => exact ih (h.take input).2

/-- How often the host hears of the end. -/
def endsTold (notices : List Notice) : Nat :=
  notices.countP (·.notification = .finished)

/-- How often it has to have heard of it. -/
def endsDue : SessionState → Nat
  | .finished _ => 1
  | .notStarted | .running _ => 0

theorem endsTold_append (notices more : List Notice) :
    endsTold (notices ++ more) = endsTold notices + endsTold more :=
  List.countP_append

theorem endsTold_eq_zero {notices : List Notice}
    (h : ∀ notice ∈ notices, notice.notification ≠ .finished) : endsTold notices = 0 :=
  List.countP_eq_zero.mpr fun notice hmem => by simp [h notice hmem]

theorem exists_pid (h : s.isRunning = true) : ∃ pid, s.state = .running pid := by
  unfold isRunning at h
  split at h
  next pid hstate => exact ⟨pid, hstate⟩
  next => cases h

/-- The host hears of the end in the step that ends the session. -/
theorem Passes.endsTold_eq (h : Passes s step) :
    endsDue s.state + endsTold step.2 = endsDue step.1.state := by
  cases h with
  | continues h => rw [h.state, endsTold_eq_zero h.notices]; rfl
  | starts s' pid hfrom hto =>
    rw [hfrom, hto]
    rfl
  | ends code front seen s' before events hfrom hbefore hseen hevents hto htext =>
    have hnotYet : endsDue s.state = 0 := by
      rcases hfrom with hrunning | ⟨hstate, -⟩
      · obtain ⟨pid, hstate⟩ := exists_pid hrunning
        rw [hstate]
        rfl
      · rw [hstate]
        rfl
    have htold : endsTold (⟨.finished, seen⟩ :: events ++ [⟨.textChanged, s'⟩]) = 1 := by
      have hnone : endsTold (events ++ [⟨.textChanged, s'⟩]) = 0 := by
        refine endsTold_eq_zero fun notice hmem => ?_
        rcases List.mem_append.mp hmem with hmem | hmem
        · exact (hevents notice hmem).1
        · rw [List.mem_singleton.mp hmem]
          exact Notification.noConfusion
      rw [List.cons_append, endsTold, List.countP_cons_of_pos (by simp)]
      exact congrArg (· + 1) hnone
    rw [hnotYet, hto, List.append_assoc, endsTold_append, endsTold_eq_zero hbefore, htold]
    rfl

/-- A session that has ended stays as it has ended. -/
theorem Passes.state_of_finished {code : Int} (h : Passes s step) (hstate : s.state = .finished code) :
    step.1.state = .finished code := by
  cases h with
  | continues h => exact h.state.trans hstate
  | starts s' pid hfrom hto => rw [hstate] at hfrom; cases hfrom
  | ends code' front seen s' before events hfrom =>
    rcases hfrom with hrunning | ⟨hfrom, -⟩
    · rw [isRunning, hstate] at hrunning
      cases hrunning
    · rw [hstate] at hfrom
      cases hfrom

theorem Agrees.endsTold_takeAll (h : s.Agrees) (inputs : List Input) :
    endsDue s.state + endsTold (s.takeAll inputs).2 =
      endsDue (s.takeAll inputs).1.state := by
  induction inputs generalizing s with
  | nil => rfl
  | cons input rest ih =>
    obtain ⟨hstep, hagrees⟩ := h.take input
    have hrest := ih hagrees
    rw [← hstep.endsTold_eq] at hrest
    show _ + endsTold ((s.take input).2 ++ ((s.take input).1.takeAll rest).2) =
      endsDue ((s.take input).1.takeAll rest).1.state
    rw [endsTold_append, ← Nat.add_assoc, hrest]

theorem Agrees.state_takeAll {code : Int} (h : s.Agrees) (hstate : s.state = .finished code)
    (inputs : List Input) : (s.takeAll inputs).1.state = .finished code := by
  induction inputs generalizing s with
  | nil => exact hstate
  | cons input rest ih =>
    obtain ⟨hstep, hagrees⟩ := h.take input
    exact ih hagrees (hstep.state_of_finished hstate)

/-- **The life of a session.** Whatever reaches a session that has just been made, and
in whatever order, all of its parts agree about how far it has come, and the host has
heard of the end once if there was one. Each step goes on, starts the child, or ends the
session, with the code 1 if the child could not be started. What has ended stays ended,
with the same code, and what is not running takes nothing for its child. -/
theorem lifecycle (config : Config) (inputs : List Input) :
    let s := ((initial config).takeAll inputs).1
    s.Agrees ∧
    (∀ pid, s.pid? = some pid ↔ s.state = .running pid) ∧
    (∀ code, s.exitStatus? = some code ↔ s.state = .finished code) ∧
    endsTold ((initial config).takeAll inputs).2 = (if s.exitStatus?.isSome then 1 else 0) ∧
    (∀ input, Passes s (s.take input)) ∧
    (∀ code, s.exitStatus? = some code → ∀ more, (s.takeAll more).1.exitStatus? = some code) ∧
    (s.isRunning = false → ∀ bytes escape codePoint,
      s.take (.write bytes) = (s, []) ∧ s.take (.writeKey escape codePoint) = (s, [])) := by
  intro s
  have h : s.Agrees := (agrees_initial config).takeAll inputs
  have hexit : ∀ (s : Session) code, s.exitStatus? = some code ↔ s.state = .finished code := by
    intro s code
    unfold exitStatus?
    cases s.state <;> simp
  refine ⟨h, fun pid => ?_, hexit s, ?_, fun input => (h.take input).1, ?_, ?_⟩
  · unfold pid?
    cases s.state <;> simp
  · have htold := (agrees_initial config).endsTold_takeAll inputs
    rw [show endsDue (initial config).state = 0 from rfl, Nat.zero_add] at htold
    rw [htold]
    show endsDue s.state = _
    unfold exitStatus?
    cases s.state <;> rfl
  · intro code hcode more
    rw [hexit] at hcode ⊢
    exact h.state_takeAll hcode more
  · intro hstopped bytes escape codePoint
    have hwrite : ∀ bytes, s.write bytes = s := by
      intro bytes
      rw [write, hstopped]
      rfl
    refine ⟨by rw [take, hwrite], ?_⟩
    simp only [take, writeKey]
    cases KeyInput.encode escape codePoint with
    | ok bytes => simp only [hwrite]
    | error e => rfl

/-- A message that the child has ended before it was started, and three that come late. -/
theorem lifecycle_with_late_messages :
    let inputs := [.handle (.processExited 5), .updateSize (.ofCells 4 2) (.ok 7) false,
      .write [0x6C, 0x73, 0x0A], .store { rest := [0x61, 0x07] }, .handle .newInput,
      .handle (.processExited 3), .handle (.processExited 4), .handle .newInput]
    let s := ((initial { queueCapacity := 4 }).takeAll inputs).1
    s.exitStatus? = some 3 ∧ s.isRunning = false ∧
      endsTold ((initial { queueCapacity := 4 }).takeAll inputs).2 = 1 ∧
      (∀ more, (s.takeAll more).1.exitStatus? = some 3) ∧ s.take (.write [0x78]) = (s, []) := by
  intro inputs s
  have hexit : s.exitStatus? = some 3 := by decide +kernel
  have hstopped : s.isRunning = false := by decide +kernel
  obtain ⟨-, -, -, htold, -, hstays, hignored⟩ := lifecycle { queueCapacity := 4 } inputs
  refine ⟨hexit, hstopped, ?_, hstays 3 hexit, (hignored hstopped [0x78] false 0).1⟩
  rw [htold]
  exact if_pos (congrArg Option.isSome hexit)

end Teletype.Session

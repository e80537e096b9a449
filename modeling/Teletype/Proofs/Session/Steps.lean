import Teletype.Proofs.ByteQueue.Turns
import Teletype.Proofs.Emulator.Run
import Teletype.Session

/-!
# What the steps of a session change

A session tells its host of the events of its emulator, and sends bytes to its child.
The first takes the events and nothing else (`dispatchEvents_fst`); the second is seen
only in the queue to the child and in what waits for it (`Keeps`).
-/

namespace Teletype

/-- No event of an emulator is the end of a session, nor a change of the text. -/
theorem Notification.ofEvent_ne (event : Event) :
    ofEvent event ≠ .finished ∧ ofEvent event ≠ .textChanged := by
  cases event <;> simp [ofEvent]

namespace Session

variable {s s' : Session}

theorem isRunning_congr (h : s'.state = s.state) : s'.isRunning = s.isRunning := by
  rw [isRunning, isRunning, h]

/-! ## To the child -/

/-- The sessions differ at most in what is on its way to the child, and in the messages
that wait. -/
structure Keeps (s s' : Session) : Prop where
  state : s'.state = s.state
  emulator : s'.emulator = s.emulator
  fromChild : s'.fromChild = s.fromChild
  isOpen : s'.toChild.isOpen = s.toChild.isOpen

theorem Keeps.isRunning (h : Keeps s s') : s'.isRunning = s.isRunning :=
  isRunning_congr h.state

theorem keeps_send (s : Session) (w : ByteQueue.Writing) : Keeps s (s.send w) := by
  have hopen := s.toChild.isOpen_writeTurn w
  unfold send
  generalize s.toChild.writeTurn w = turn at hopen
  split <;> exact ⟨rfl, rfl, rfl, hopen⟩

theorem keeps_resume (s : Session) : Keeps s s.resume := by
  unfold resume
  split
  · exact keeps_send s _
  · exact ⟨rfl, rfl, rfl, rfl⟩

theorem keeps_write (s : Session) (bytes : List UInt8) : Keeps s (s.write bytes) := by
  unfold write
  split
  · exact keeps_send s _
  · exact ⟨rfl, rfl, rfl, rfl⟩

/-! ## To the host -/

@[simp] theorem dispatchEvents_fst (s : Session) :
    s.dispatchEvents.1 = { s with emulator := s.emulator.map (·.takeEvents.2) } := by
  unfold dispatchEvents
  split
  next hnone => rw [hnone, Option.map_none, ← hnone]
  next hsome => rw [hsome, Option.map_some]

theorem exists_event_of_mem {notice : Notice} (h : notice ∈ s.dispatchEvents.2) :
    ∃ event, notice.notification = .ofEvent event := by
  unfold dispatchEvents at h
  split at h
  · cases h
  · obtain ⟨event, -, heq⟩ := List.mem_map.mp h
    exact ⟨event, by rw [← heq]⟩

/-- The end of a session: the queues are closed, and the text reaches the emulator,
whose replies and events are taken. -/
theorem finish_fst (s : Session) (code : Int) (text : String) :
    (s.finish code text).1 =
      { s.close code with
        emulator := s.emulator.map
          (·.takeAll [.append (Text.Utf8.encode text), .takeReplies, .takeEvents]) } := by
  have hannounce : (s.finish code text).1 =
      ({ s.close code with
        emulator := (s.close code).emulator.map fun e =>
          ((e.append (Text.Utf8.encode text)).takeReplies).2 } : Session).dispatchEvents.1 := rfl
  rw [hannounce, dispatchEvents_fst, Option.map_map]
  rfl

/-- What the host is told then: of the end, of what the text made happen, and that the
text has changed. -/
theorem exists_finish_snd (s : Session) (code : Int) (text : String) :
    ∃ events, (s.finish code text).2 =
        ⟨.finished, s.close code⟩ :: events ++ [⟨.textChanged, (s.finish code text).1⟩] ∧
      ∀ notice ∈ events, ∃ event, notice.notification = .ofEvent event :=
  ⟨_, rfl, fun _ hmem => exists_event_of_mem hmem⟩

end Session

end Teletype

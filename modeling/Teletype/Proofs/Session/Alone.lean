import Teletype.Proofs.Session.Delivery

/-!
# A session that is left alone

While no worker does anything, the turns of a session at a message come to what
`Session.handle` says in one step (`reaches_handle`). So what is proved of turns that
others come between is proved of that.
-/

namespace Teletype

namespace ByteQueue

variable {q : ByteQueue}

/-- A read finds the first piece of all that is stored, or there is none. -/
theorem Sound.drain_cases (h : q.Sound) (limit : Nat) (hlimit : 0 < limit) :
    (∃ q' byte bytes, q.readTurn { limit } = (q', .done (byte :: bytes)) ∧ q'.Sound ∧
        q.drain limit = ((q'.drain limit).1, (byte :: bytes) :: (q'.drain limit).2) ∧
        q'.length < q.length) ∨
      (q.drain limit = (q, []) ∧
        ∀ q' byte bytes, q.readTurn { limit } ≠ (q', .done (byte :: bytes))) := by
  obtain ⟨ring, isOpen⟩ := q
  have hfits : ring.Fits := h.fits
  rw [drain, ByteQueue.readTurn]
  cases isOpen with
  | false =>
    refine .inr ⟨rfl, fun q' byte bytes hread => ?_⟩
    cases hread
  | true =>
    rcases Nat.eq_zero_or_pos ring.count with hempty | hpos
    · rw [dif_neg (by simp [hempty])]
      exact .inr ⟨rfl, by simp [hempty]⟩
    · obtain ⟨byte, bytes, hbytes⟩ : ∃ byte bytes, (ring.pop limit).2 = byte :: bytes :=
        List.exists_cons_of_length_pos (by rw [Ring.length_pop hfits]; omega)
      rw [dif_pos ⟨rfl, hpos, hlimit⟩]
      refine .inl ⟨⟨(ring.pop limit).1, true⟩, byte, bytes, ?_, sound_open (Ring.fits_pop hfits), ?_, ?_⟩
      · simp [Nat.ne_of_gt hpos, ← hbytes]
      · rw [← hbytes]
      · show (ring.pop limit).1.count < ring.count
        rw [Ring.count_pop]
        omega

end ByteQueue

namespace Traffic

open Session

/-! ## Turns of the session -/

/-- The session comes from one state to another by turns of its own. -/
def Reaches (t t' : Traffic) : Prop :=
  ∃ n, t.run (.replicate n .sessionTurn) = t'

variable {t t' t'' : Traffic}

theorem Reaches.refl (t : Traffic) : Reaches t t :=
  ⟨0, rfl⟩

theorem Reaches.head (h : Reaches t.sessionTurn t') : Reaches t t' := by
  obtain ⟨n, hn⟩ := h
  exact ⟨n + 1, hn⟩

theorem Reaches.trans (h : Reaches t t') (h' : Reaches t' t'') : Reaches t t'' := by
  obtain ⟨n, rfl⟩ := h
  obtain ⟨n', rfl⟩ := h'
  refine ⟨n + n', ?_⟩
  rw [← List.replicate_append_replicate, run, List.foldl_append]
  rfl

/-! Where nothing waits for room, a turn is a step of the task at hand. -/

theorem sessionTurn_idle (hsent : t.session.unsent = none) (htask : t.task = .idle) :
    t.sessionTurn = t.beginMessage := by
  rw [sessionTurn, hsent, htask]
  rfl

theorem sessionTurn_taking {found : Bool} {purpose : Purpose} (hsent : t.session.unsent = none)
    (htask : t.task = .taking found purpose) : t.sessionTurn = t.take found purpose := by
  rw [sessionTurn, hsent, htask]
  rfl

theorem sessionTurn_telling {purpose : Purpose} (hsent : t.session.unsent = none)
    (htask : t.task = .telling purpose) : t.sessionTurn = t.tell.goOn purpose := by
  rw [sessionTurn, hsent, htask]
  rfl

theorem sessionTurn_draining {code : Int} (hsent : t.session.unsent = none)
    (htask : t.task = .draining code) :
    t.sessionTurn = { t with task := .taking false (.exit code (t.reader = .gone)) } := by
  rw [sessionTurn, hsent, htask]
  rfl

theorem sessionTurn_drained {code : Int} (hsent : t.session.unsent = none)
    (htask : t.task = .drained code true) : t.sessionTurn = t.finish code := by
  rw [sessionTurn, hsent, htask]
  rfl

/-- A read that finds nothing is the last one. -/
theorem take_nothing {found : Bool} {purpose : Purpose}
    (h : ∀ q byte bytes,
      t.session.fromChild.readTurn { limit := chunkSize } ≠ (q, .done (byte :: bytes))) :
    t.take found purpose = if found then t.answer purpose else t.goOn purpose := by
  unfold take
  split
  next hread => exact absurd hread (h _ _ _)
  next => rfl

/-! ## Reading the queue -/

/-- What reads find is fed to the emulator, piece by piece. -/
theorem reaches_taken {e : Emulator} {found : Bool} {purpose : Purpose}
    (hsound : t.session.fromChild.Sound) (hsent : t.session.unsent = none)
    (hemulator : t.session.emulator = some e) (htask : t.task = .taking found purpose) :
    let (fromChild, chunks) := t.session.fromChild.drain chunkSize
    (∀ q byte bytes, fromChild.readTurn { limit := chunkSize } ≠ (q, .done (byte :: bytes))) ∧
    Reaches t
      { t with
        session := { t.session with fromChild, emulator := some (chunks.foldl Emulator.append e) }
        task := .taking (found || !chunks.isEmpty) purpose
        fed := t.fed ++ chunks.map .append } := by
  -- each turn that finds something leaves less in the queue
  induction hlength : t.session.fromChild.length using Nat.strongRecOn generalizing t e found with
  | ind n ih =>
    rcases hsound.drain_cases chunkSize (by decide) with
      ⟨q, byte, bytes, hread, hsound', hdrain, hless⟩ | ⟨hdrain, hnothing⟩
    · have hturn : t.sessionTurn =
          { t with
            session := { t.session with fromChild := q, emulator := some (e.append (byte :: bytes)) }
            task := .taking true purpose
            fed := t.fed ++ [.append (byte :: bytes)] } := by
        rw [sessionTurn_taking hsent htask, take, hread, hemulator]
      have hnext := @ih q.length (hlength ▸ hless) t.sessionTurn (e.append (byte :: bytes)) true
      rw [hturn] at hnext
      obtain ⟨hnothing, hrest⟩ := hnext hsound' hsent rfl rfl rfl
      rw [hdrain]
      refine ⟨hnothing, .head ?_⟩
      rw [hturn]
      simpa using hrest
    · rw [hdrain]
      refine ⟨hnothing, ?_⟩
      simp only [List.foldl_nil, List.map_nil, List.append_nil, List.isEmpty_nil, Bool.not_true,
        Bool.or_false, ← htask, ← hemulator]
      exact .refl t

/-- Reading the queue, answering and telling the host are `processInput`. -/
theorem reaches_processInput {e : Emulator} (purpose : Purpose)
    (hsound : t.session.fromChild.Sound) (hsent : t.session.unsent = none)
    (hemulator : t.session.emulator = some e) (htask : t.task = .taking false purpose)
    (hroom : t.session.processInput.1.unsent = none) :
    ∃ fed, Reaches t
      { t with
        session := t.session.processInput.1
        task := purpose.next
        notices := t.notices ++ t.session.processInput.2
        fed } := by
  obtain ⟨hrest, htaken⟩ := reaches_taken hsound hsent hemulator htask
  rcases hsound.drain_cases chunkSize (by decide) with
    ⟨q, byte, bytes, -, -, hdrain, -⟩ | ⟨hdrain, hnothing⟩
  · generalize (q.drain chunkSize).2 = more at hdrain
    generalize (q.drain chunkSize).1 = last at hdrain
    rw [hdrain] at hrest htaken
    -- everything is in the emulator, and then come the answer and the host
    let found := ((byte :: bytes) :: more).foldl Emulator.append e
    let answered : Session := { t.session with
      emulator := some found.takeReplies.2
      fromChild := last }.write found.takeReplies.1
    have hinput : t.session.processInput =
        answered.dispatchEvents.andThen (·.notify .textChanged) := by
      rw [processInput, hemulator, hdrain]
    have hanswered : answered.unsent = none := by
      rw [hinput] at hroom
      change answered.dispatchEvents.1.unsent = none at hroom
      rwa [dispatchEvents_fst] at hroom
    let taken : Traffic := { t with
      session := { t.session with emulator := some found, fromChild := last }
      task := .taking true purpose
      fed := t.fed ++ ((byte :: bytes) :: more).map .append }
    change Reaches t taken at htaken
    have htook : taken.sessionTurn = taken.answer purpose :=
      (sessionTurn_taking (t := taken) hsent rfl).trans (take_nothing (t := taken) hrest)
    have htold : (taken.answer purpose).sessionTurn = (taken.answer purpose).tell.goOn purpose :=
      sessionTurn_telling (t := taken.answer purpose) hanswered rfl
    refine ⟨taken.fed ++ [.takeReplies] ++ [.takeEvents], htaken.trans (.head ?_)⟩
    rw [htook]
    refine .head ?_
    rw [htold, hinput]
    exact .refl _
  · have hinput : t.session.processInput = (t.session, []) := by
      rw [processInput, hemulator, hdrain]
    have hturn : t.sessionTurn = t.goOn purpose := by
      rw [sessionTurn_taking hsent htask, take_nothing hnothing]
      rfl
    rw [hinput, List.append_nil]
    refine ⟨t.fed, .head ?_⟩
    rw [hturn]
    exact .refl _

/-- At the end of the child the flag is seen, the queue is read, and the session ends. -/
theorem reaches_exit {code : Int} {e : Emulator} (hsound : t.session.fromChild.Sound)
    (hsent : t.session.unsent = none) (hemulator : t.session.emulator = some e)
    (htask : t.task = .draining code) (hreader : t.reader = .gone)
    (hroom : t.session.processInput.1.unsent = none) :
    let step := t.session.processInput.andThen (·.finish code (exitDescription code))
    ∃ fed, Reaches t
      { t with session := step.1, task := .idle, notices := t.notices ++ step.2, fed } := by
  have hlooked : t.sessionTurn = { t with task := .taking false (.exit code true) } := by
    rw [sessionTurn_draining hsent htask, decide_eq_true hreader]
  obtain ⟨fed, hreaches⟩ := reaches_processInput
    (t := { t with task := .taking false (.exit code true) }) (.exit code true)
    hsound hsent hemulator rfl hroom
  let drained : Traffic := { t with
    session := t.session.processInput.1
    task := .drained code true
    notices := t.notices ++ t.session.processInput.2
    fed }
  change Reaches _ drained at hreaches
  have hfinish : drained.sessionTurn = drained.finish code := sessionTurn_drained hroom rfl
  have hnotices : (drained.finish code).notices = t.notices ++ (t.session.processInput.2 ++
      (drained.session.finish code (exitDescription code)).2) :=
    List.append_assoc ..
  refine ⟨(drained.finish code).fed, .head ?_⟩
  rw [hlooked]
  refine hreaches.trans (.head ?_)
  rw [hfinish]
  show Reaches _ { drained.finish code with
    notices := t.notices ++ (t.session.processInput.2 ++
      (drained.session.finish code (exitDescription code)).2) }
  rw [← hnotices]
  exact .refl _

/-- **Left alone, a session handles a message as `handle` says**, if there is room for
its answers and, at the end of the child, the reader is gone. -/
theorem reaches_handle {message : Message} {inbox : List Message} {e : Emulator}
    (hsound : t.session.fromChild.Sound) (hsent : t.session.unsent = none)
    (hemulator : t.session.emulator = some e) (htask : t.task = .idle)
    (hinbox : t.session.inbox = message :: inbox)
    (hroom : ({ t.session with inbox } : Session).processInput.1.unsent = none)
    (hgone : ∀ code, message = .processExited code → t.reader = .gone) :
    let step := ({ t.session with inbox } : Session).handle message
    ∃ fed, Reaches t
      { t with session := step.1, task := .idle, notices := t.notices ++ step.2, fed } := by
  have hturn := sessionTurn_idle hsent htask
  simp only [beginMessage, hinbox] at hturn
  unfold handle
  split
  next hrunning =>
    rw [if_pos hrunning] at hturn
    cases message with
    | newInput =>
      obtain ⟨fed, hreaches⟩ := reaches_processInput
        (t := { t with session := { t.session with inbox }, task := .taking false .message })
        .message hsound hsent hemulator rfl hroom
      exact ⟨fed, .head (hturn ▸ hreaches)⟩
    | processExited code =>
      obtain ⟨fed, hreaches⟩ := reaches_exit
        (t := { t with session := { t.session with inbox }, task := .draining code })
        hsound hsent hemulator rfl (hgone code rfl) hroom
      exact ⟨fed, .head (hturn ▸ hreaches)⟩
  next hstopped =>
    rw [if_neg hstopped] at hturn
    refine ⟨t.fed, .head ?_⟩
    rw [hturn, List.append_nil, ← htask]
    exact .refl _

end Traffic

end Teletype

import Teletype.Proofs.Session.Alone

/-!
# A message about new bytes

What a session makes of a message about new bytes, if nobody comes between: all that
is queued goes through the emulator; then the child has its answers behind what was
sent to it before; and then the host is told, first of each event in order, at last
and once that the text has changed. Whenever it is told something, it sees the
session as it is when all the rest is done. Where nothing is queued, nothing happens.
-/

namespace Teletype

namespace Emulator

/-- The replies and the events have been taken. -/
def emptied (e : Emulator) : Emulator :=
  { e with replies := [], events := [] }

end Emulator

namespace Session

open Emulator

/-- A running session with this emulator, for which nothing waits. -/
structure Serves (e : Emulator) (s : Session) : Prop where
  isRunning : s.isRunning = true
  emulator : s.emulator = some e
  fromChild : s.fromChild.Sound
  toChild : s.toChild.Sound
  isOpen : s.toChild.isOpen = true
  unsent : s.unsent = none

/-- What a host is told of the events, and that the text has changed. -/
def announcements (events : List Event) (seen : Session) : List Notice :=
  events.map (fun event => ⟨.ofEvent event, seen⟩) ++ [⟨.textChanged, seen⟩]

/-- What becomes of a session in which these pieces have gone through the emulator. -/
structure Handled (e : Emulator) (s : Session) (pieces : List (List UInt8)) (seen : Session) :
    Prop where
  emulator : seen.emulator = some (pieces.foldl append e).emptied
  fromChild : seen.fromChild.contents = []
  toChild : seen.toChild.contents = s.toChild.contents ++ (pieces.foldl append e).replies
  /-- Nothing else has changed. -/
  others : seen = { s with
    emulator := seen.emulator, fromChild := seen.fromChild, toChild := seen.toChild }

variable {e : Emulator} {s : Session}

theorem announcements_eq (s : Session) (hemulator : s.emulator = some e) :
    s.dispatchEvents.andThen (·.notify .textChanged) =
      ({ s with emulator := some e.takeEvents.2 },
        announcements e.events { s with emulator := some e.takeEvents.2 }) := by
  rw [dispatchEvents, hemulator]
  rfl

/-- What there is room for is sent. -/
theorem exists_write_eq (h : Serves e s) {bytes : List UInt8}
    (hroom : s.toChild.length + bytes.length ≤ s.toChild.capacity) :
    ∃ toChild, s.write bytes = { s with toChild } ∧
      toChild.contents = s.toChild.contents ++ bytes := by
  unfold write
  rw [h.isRunning, Bool.true_and]
  cases bytes with
  | nil => exact ⟨s.toChild, rfl, (List.append_nil _).symm⟩
  | cons byte rest =>
    obtain ⟨toChild, count, hturn, hstores⟩ :=
      h.toChild.stores_of_le (w := { rest := byte :: rest }) h.isOpen rfl hroom
    have hsent := h.unsent
    refine ⟨toChild, ?_, hstores.contents_eq⟩
    show s.send _ = _
    rw [send, hturn, ← hsent]

/-- What a message about new bytes makes of a session: nothing, where nothing is
queued. -/
theorem handle_newInput (h : Serves e s) : s.handle .newInput =
    match s.fromChild.drain chunkSize with
    | (_, []) => (s, [])
    | (fromChild, chunk :: chunks) =>
      let e := (chunk :: chunks).foldl append e
      let answered := { s with emulator := some e.takeReplies.2, fromChild }.write e.replies
      answered.dispatchEvents.andThen (·.notify .textChanged) := by
  rw [handle, if_pos h.isRunning]
  show s.processInput = _
  rw [processInput, h.emulator]
  rcases s.fromChild.drain chunkSize with ⟨fromChild, _ | ⟨chunk, chunks⟩⟩ <;> rfl

/-- There is room for what the emulator replies to all that is queued. -/
def HasRoom (e : Emulator) (s : Session) : Prop :=
  s.toChild.length + ((s.fromChild.drain chunkSize).2.foldl append e).replies.length ≤
    s.toChild.capacity

/-- What a message about new bytes makes of a session with this emulator: all of them
are taken in, the answers are sent, and the host is told, if there is room for the
answers. Nothing happens where nothing is queued. -/
def HandlesInput (e : Emulator) (s : Session) : Prop :=
  let pieces := (s.fromChild.drain chunkSize).2
  let g := pieces.foldl append e
  pieces.flatten = s.fromChild.contents ∧
  (s.fromChild.contents = [] → s.handle .newInput = (s, [])) ∧
  (s.fromChild.contents ≠ [] → HasRoom e s → ∃ seen, Handled e s pieces seen ∧
    s.handle .newInput = (seen, announcements g.events seen))

/-- **A message about new bytes** is handled so in every running session. -/
theorem Serves.handlesInput (h : Serves e s) : HandlesInput e s := by
  obtain ⟨hsound, hempty, hflatten, hpieces⟩ :=
    h.fromChild.of_drain (by decide : 0 < chunkSize)
  have hhandle := handle_newInput h
  rcases hdrain : s.fromChild.drain chunkSize with ⟨fromChild, pieces⟩
  rw [hdrain] at hsound hempty hflatten hpieces hhandle
  unfold HandlesInput HasRoom
  rw [hdrain]
  refine ⟨hflatten, fun hnothing => ?_, fun hsome hroom => ?_⟩
  · cases pieces with
    | nil => exact hhandle
    | cons piece rest =>
      -- no piece is empty
      rw [hnothing, List.flatten_cons, List.append_eq_nil_iff] at hflatten
      exact absurd hflatten.1 (hpieces piece List.mem_cons_self).1
  · cases pieces with
    | nil => exact absurd hflatten.symm hsome
    | cons piece rest =>
      let g := (piece :: rest).foldl append e
      have hserves : Serves g.takeReplies.2
          { s with emulator := some g.takeReplies.2, fromChild } :=
        ⟨h.isRunning, rfl, hsound, h.toChild, h.isOpen, h.unsent⟩
      obtain ⟨toChild, hwrite, hcontents⟩ := exists_write_eq hserves hroom
      dsimp only at hhandle
      rw [hwrite, announcements_eq _ rfl] at hhandle
      exact ⟨_, ⟨rfl, hempty, hcontents, rfl⟩, hhandle⟩

end Session

end Teletype

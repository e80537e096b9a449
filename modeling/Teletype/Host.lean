import Teletype.Host.Basic

/-!
# Running a host

The steps of a host and of the child that it plays. Messages are handled one at
a time, the workers going on in between.
-/

namespace Teletype.Host

/-- What a step leaves: the host, the notices in order, and an answer. -/
abbrev Step (α : Type) := Host × List Notice × α

/-- A step of the session, after which the workers go on. -/
def lift (h : Host) (step : Session.Step) : Host × List Notice :=
  ({ h with session := step.1 }.work, step.2)

/-! ## Messages -/

/-- Takes in what the child printed until all of it is in the queue. -/
def drainOutput (h : Host) : Host × List Notice :=
  if h.backlog = 0 then (h, [])
  else
    let next := h.lift h.session.processInput
    if _h : next.1.backlog < h.backlog then
      let (last, more) := drainOutput next.1
      (last, next.2 ++ more)
    else next
termination_by h.backlog

/-- Handles a message. The end of the child waits for what it printed. -/
def handle (h : Host) (message : Message) : Host × List Notice :=
  match message with
  | .newInput => h.lift (h.session.handle .newInput)
  | .processExited code =>
    let (h, notices) := if h.session.isRunning then h.drainOutput else (h, [])
    let (h, more) := h.lift (h.session.handle (.processExited code))
    (h, notices ++ more)

/-- Handles up to `limit` messages while `wanted` holds, and says how many. -/
def pump (wanted : Host → Bool) : Nat → Host → Step Nat
  | 0, h => (h, [], 0)
  | limit + 1, h =>
    if wanted h then
      match h.session.inbox with
      | [] => (h, [], 0)
      | message :: inbox =>
        let (h, notices) := { h with session := { h.session with inbox } }.handle message
        let (h, more, count) := pump wanted limit h
        (h, notices ++ more, count + 1)
    else (h, [], 0)

/-- The most messages that there can still be: those that wait, and those that
the child's bytes and its end can cause. -/
def messageLimit (h : Host) : Nat :=
  h.session.inbox.length + h.backlog + (h.child.map Child.yetToCome).getD 0

/-- Handles the messages that wait. -/
def processPending (h : Host) : Step Nat :=
  pump (fun _ => true) h.messageLimit h

/-- Handles messages until the session is no longer running. The end of a child
is reported when no message has come for long, even if a worker is not done. -/
def pumpUntilFinished (h : Host) : Step Nat :=
  let (h, notices, count) := pump (·.session.isRunning) h.messageLimit h
  let h := h.report
  let (h, more, rest) := pump (·.session.isRunning) h.messageLimit h
  (h, notices ++ more, count + rest)

/-- Handles messages until the session is no longer running, and answers its exit
code. -/
def runUntilFinished (h : Host) : Step (Option Int) :=
  let (h, notices, _) := h.pumpUntilFinished
  (h, notices, h.session.exitStatus?)

/-! ## Steps of the host -/

/-- The number that a child has here. -/
def childPid : Nat := 0

/-- Gives the window a size. The first one starts the child. A device that
refuses a size leaves everything as it was. -/
def updateSize (h : Host) (cols rows : UInt16) : Step (Except SessionError Unit) :=
  let size := WindowSize.ofCells cols rows
  if h.session.emulator.isNone then
    let (h, spawned) : Host × Except PtyError Nat := match Script.ofConfig h.session.config with
      | .ok script => ({ h with child := some { script, size } }, .ok childPid)
      | .error e => (h, .error e)
    let (h, notices) := h.lift (h.session.start size spawned)
    (h, notices, .ok ())
  else if h.session.isRunning && h.child.any (·.refusesSize) then
    (h.mapChild fun c => { c with refusesSize := false }, [],
      .error (.pty (.windowSize .badDescriptor)))
  else
    let h := if h.session.isRunning then h.mapChild fun c => { c with size } else h
    ({ h with session := h.session.resize size }, [], .ok ())

/-- Sends bytes to the child. -/
def write (h : Host) (bytes : List UInt8) : Host :=
  { h with session := h.session.write bytes }.work

/-- Sends a key to the child. -/
def writeKey (h : Host) (escape : Bool) (codePoint : Nat) : Except SessionError Host :=
  (h.session.writeKey escape codePoint).map fun session => { h with session }.work

/-- Kills the child of a running session. -/
def kill (h : Host) : Host :=
  if h.session.isRunning then (h.mapChild Child.kill).work else h

/-- Resets the screen. -/
def reset (h : Host) : Host × List Notice :=
  h.lift h.session.reset

/-- Names the session. -/
def rename (h : Host) (name : String) : Host :=
  { h with session := h.session.rename name }

/-- The kills that hit the child, the one of giving up the session included. -/
def totalKills? (h : Host) : Option Nat :=
  h.kill.child.map (·.kills)

/-! ## Steps of the child

Each has no answer where it needs a child and there is none. -/

/-- Whether there is a child that has not ended. -/
def hasLivingChild (h : Host) : Bool :=
  h.child.any (·.isAlive)

/-- The child prints a chunk, and the session takes it in. -/
def output? (h : Host) (bytes : List UInt8) : Step (Option Nat) :=
  if h.hasLivingChild then
    let (h, notices, count) := (h.mapChild (·.print bytes)).work.processPending
    (h, notices, some count)
  else (h, [], none)

/-- The child prints and ends, and the session runs to its end. Of a child that
had ended before, the earlier end stands. -/
def exit? (h : Host) (bytes : List UInt8) (code : Int) : Step (Option (Option Int)) :=
  if h.child.isNone then (h, [], none)
  else
    let h := h.mapChild fun c => if c.isAlive then (c.print bytes).finish code else c
    let (h, notices, code) := h.work.runUntilFinished
    (h, notices, some code)

/-- The child prints and ends, and the session handles all messages. -/
def exitPolled? (h : Host) (bytes : List UInt8) (code : Int) : Step (Option Nat) :=
  if h.hasLivingChild then
    let h := h.mapChild fun c => (c.print bytes).finish code
    let (h, notices, count) := h.work.pumpUntilFinished
    let (h, more, rest) := h.processPending
    (h, notices ++ more, some (count + rest))
  else (h, [], none)

/-- The child ends, which the session does not notice yet. Answers whether it had
not ended before. -/
def exitUnseen? (h : Host) (code : Int) : Host × Option Bool :=
  match h.child with
  | none => (h, none)
  | some c => ((h.mapChild (·.finish code)).work, some c.isAlive)

/-- The child reads bytes that were sent to it. -/
def receive? (h : Host) (count : Nat) : Host × Option (List UInt8) :=
  match h.child with
  | none => (h, none)
  | some c =>
    (h.mapChild fun c => { c with unread := c.unread.drop count }, some (c.unread.take count))

/-- The device of the child refuses its next size. -/
def refuseSize (h : Host) : Host :=
  h.mapChild fun c => { c with refusesSize := true }

end Teletype.Host

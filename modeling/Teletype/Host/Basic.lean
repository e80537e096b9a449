import Teletype.Script
import Teletype.Session

/-!
# Hosts

A session together with the child that it runs and the workers between them: one
that moves what the child prints into a queue, one that moves what is sent out of
the other, and one that reports the child's end. The workers do all they can
after every step of the session (`work`), so a run depends on nothing but the
steps.
-/

namespace Teletype

/-- A child that was started. -/
structure Child where
  script : Script
  /-- What it printed that no worker has read. -/
  printed : List UInt8 := []
  /-- What was sent to it that it has not read. -/
  unread : List UInt8 := []
  /-- The code it ended with, as it can be learned. -/
  ended : Option Int := none
  /-- Whether the session was told of the end. -/
  reported : Bool := false
  /-- The signals that hit it while it lived. -/
  kills : Nat := 0
  /-- The size that its device was given last. -/
  size : WindowSize
  /-- Whether the device refuses its next size. -/
  refusesSize : Bool := false
  deriving Repr, DecidableEq

/-- A session, its child, and what is between them. -/
structure Host where
  session : Session
  child : Option Child := none
  /-- A chunk that is on its way into the queue from the child. -/
  inFlight : Option ByteQueue.Writing := none
  deriving DecidableEq

/-- The exit code when it cannot be learned. -/
def lostCode : Int := 1

/-- The exit code of a child that was killed. -/
def killedCode : Int := -9

namespace Child

/-- Whether the child has not ended. -/
def isAlive (c : Child) : Bool :=
  c.ended.isNone

/-- Ends a child that is alive. -/
def finish (c : Child) (code : Int) : Child :=
  if c.isAlive then { c with ended := some (if c.script = .lost then lostCode else code) } else c

/-- Prints bytes. -/
def print (c : Child) (bytes : List UInt8) : Child :=
  { c with printed := c.printed ++ bytes }

/-- Does what the script says can be done now. -/
def act (c : Child) : Child :=
  if c.isAlive then
    match c.script with
    | .say output code => (c.print output).finish code
    | .read count code =>
      if count ≤ c.unread.length then
        let read := c.unread.take count
        let c := { c with unread := c.unread.drop count }
        (c.print (Text.Utf8.encode ("[" ++ Text.Numeral.hexBytes read ++ "]"))).finish code
      else c
    | .hold | .lost | .immune => c
  else c

/-- How many messages the child can still cause before it prints anything of its
own accord. -/
def yetToCome (c : Child) : Nat :=
  match c.script with
  | .say output _ => output.length + 2
  | .read count _ => 2 * count + 4
  | .hold | .lost | .immune => 2

/-- Signals a child. -/
def kill (c : Child) : Child :=
  if c.isAlive && c.script ≠ .immune then { c.finish killedCode with kills := c.kills + 1 } else c

end Child

namespace Host

/-- A host of a session that has not been started. -/
def initial (config : Config) : Host :=
  { session := .initial config }

/-- Changes the child, if there is one. -/
def mapChild (h : Host) (f : Child → Child) : Host :=
  { h with child := h.child.map f }

/-! ## Workers -/

/-- A turn of the worker that writes to the child: it takes all that is in the
queue, and the session stores more of what it holds back. -/
def deliverTurn (h : Host) : Host :=
  let (toChild, chunks) := h.session.toChild.drain Session.chunkSize
  { h with session := { h.session with toChild }.resume }.mapChild fun c =>
    { c with unread := c.unread ++ chunks.flatten }

/-- How much the session holds back. -/
def heldBack (h : Host) : Nat :=
  (h.session.unsent.map (·.rest.length)).getD 0

/-- Turns of the worker that writes to the child, until nothing is held back. -/
def deliver (h : Host) : Host :=
  if _h : h.deliverTurn.heldBack < h.heldBack then deliver h.deliverTurn else h.deliverTurn
termination_by h.heldBack

/-- A turn of the worker that reads the child: it takes a chunk, or stores what
there is room for of the chunk it has. -/
def collectTurn (h : Host) : Host :=
  match h.inFlight, h.child with
  | some w, _ =>
    match h.session.fromChild.writeTurn w with
    | (fromChild, .done _) =>
      { h with session := { h.session with fromChild }.post .newInput, inFlight := none }
    | (_, .closed) => { h with inFlight := none }.mapChild fun c => { c with printed := [] }
    | (fromChild, .waiting w) =>
      { h with session := { h.session with fromChild }, inFlight := some w }
  | none, some c =>
    match c.printed.take Session.chunkSize with
    | [] => h
    | chunk =>
      { h with
        inFlight := some { rest := chunk }
        child := some { c with printed := c.printed.drop Session.chunkSize } }
  | none, none => h

/-- How much the worker that reads the child still has to do. -/
def backlog (h : Host) : Nat :=
  3 * (h.child.map (·.printed.length)).getD 0 + (h.inFlight.map (·.rest.length + 1)).getD 0

/-- Turns of the worker that reads the child, as long as they achieve something. -/
def collect (h : Host) : Host :=
  if _h : h.collectTurn.backlog < h.backlog then collect h.collectTurn else h.collectTurn
termination_by h.backlog

/-- Tells the session of the child's end. -/
def report (h : Host) : Host :=
  match h.child with
  | some c =>
    match c.ended, c.reported with
    | some code, false =>
      { h with
        session := h.session.post (.processExited code)
        child := some { c with reported := true } }
    | _, _ => h
  | none => h

/-- What the child and the workers can do now. An end is reported when all that
the child printed is in the queue. -/
def work (h : Host) : Host :=
  let h := (h.deliver.mapChild Child.act).collect
  if h.backlog = 0 then h.report else h

end Host

end Teletype

import Teletype.Config
import Teletype.Emulator
import Teletype.PtyError
import Teletype.WindowSize

/-!
# Sessions

A child on a terminal, from before it starts until after it ends. Two queues
join the session to its child, one each way, and workers that look after the
child tell the session by messages what has happened. What the host has to know
it learns by notices, each with the session as it is at that moment.

An operation that would have to wait for room in the queue to the child leaves
what it could not store in `unsent`, and the session does nothing else until
`resume` has stored it.
-/

namespace Teletype

/-- How far a session has come. -/
inductive SessionState where
  | notStarted
  | running (pid : Nat)
  | finished (code : Int)
  deriving Repr, DecidableEq

/-- What workers tell a session. -/
inductive Message where
  /-- There are new bytes from the child. -/
  | newInput
  /-- The child has ended. -/
  | processExited (code : Int)
  deriving Repr, DecidableEq

/-- What a session tells its host. -/
inductive Notification where
  | textChanged
  | titleChanged
  | finished
  /-- A text for the clipboard. -/
  | clipboard (text : String)
  | bell
  | colorsChanged
  deriving Repr, DecidableEq

/-- What a host is told of an event of the emulator. -/
def Notification.ofEvent : Event → Notification
  | .titleChanged _ _ => .titleChanged
  | .bell => .bell
  | .clipboard text => .clipboard text
  | .colorsChanged => .colorsChanged

/-- A child on a terminal. -/
structure Session where
  config : Config
  /-- A name that the host gave. -/
  name : Option String := none
  state : SessionState := .notStarted
  emulator : Option Emulator := none
  /-- The queue from the child. -/
  fromChild : ByteQueue
  /-- The queue to the child. -/
  toChild : ByteQueue
  /-- What waits for room in the queue to the child. -/
  unsent : Option ByteQueue.Writing := none
  /-- Messages not handled yet, the oldest first. -/
  inbox : List Message := []
  deriving DecidableEq

/-- Something that a host is told, and the session that it sees then. -/
structure Notice where
  notification : Notification
  session : Session
  deriving DecidableEq

namespace Session

/-- What an operation leaves: the session, and the notices in order. -/
abbrev Step := Session × List Notice

/-- One operation and then another. -/
def Step.andThen (step : Step) (next : Session → Step) : Step :=
  let (s, notices) := step
  let (s, more) := next s
  (s, notices ++ more)

/-- The exit code when the child could not be started. -/
def spawnFailureCode : Int := 1

/-- The most bytes that are moved at a time. -/
def chunkSize : Nat := 4096

/-- How many characters the handle of a session has: 32 digits in five groups. -/
def handleLength : Nat := 32 + 4

/-- A session whose child has not been started. -/
def initial (config : Config) : Session :=
  { config
    fromChild := .initial config.queueCapacity
    toChild := .initial config.queueCapacity }

/-! ## What can be read off a session -/

/-- Whether there is a child. -/
def isRunning (s : Session) : Bool :=
  match s.state with
  | .running _ => true
  | _ => false

/-- The number of the child while there is one. -/
def pid? (s : Session) : Option Nat :=
  match s.state with
  | .running pid => some pid
  | _ => none

/-- The exit code once there is one. -/
def exitStatus? (s : Session) : Option Int :=
  match s.state with
  | .finished code => some code
  | _ => none

/-- The title on display. -/
def title (s : Session) : String :=
  match s.emulator with
  | some e => e.title
  | none => ""

/-- The state as it is shown in a log. -/
def stateText : SessionState → String
  | .notStarted => "NotStarted"
  | .running pid => "Running \x7b pid: " ++ toString pid ++ " \x7d"
  | .finished code => "Finished \x7b exit_code: " ++ toString code ++ " \x7d"

/-- The session as it is shown in a log, under its handle. -/
def describe (s : Session) (handle : String) : String :=
  let name := match s.name with
    | some name => "Some(" ++ Text.Quoted.quote name ++ ")"
    | none => "None"
  "Session \x7b handle: SessionHandle(" ++ Text.Quoted.quote handle ++ "), name: " ++ name
    ++ ", state: " ++ stateText s.state ++ ", executable: "
    ++ Text.Quoted.quote s.config.executable ++ ", .. \x7d"

/-! ## Telling the host -/

/-- One notice. -/
def notify (s : Session) (notification : Notification) : Step :=
  (s, [{ notification, session := s }])

/-- A notice for each event of the emulator, in order. -/
def dispatchEvents (s : Session) : Step :=
  match s.emulator with
  | none => (s, [])
  | some e =>
    let (events, e) := e.takeEvents
    let s := { s with emulator := some e }
    (s, events.map fun event => { notification := .ofEvent event, session := s })

/-- Names the session. -/
def rename (s : Session) (name : String) : Session :=
  { s with name := some name }

/-- Adds a message. -/
def post (s : Session) (message : Message) : Session :=
  { s with inbox := s.inbox ++ [message] }

end Session

end Teletype

import Teletype.Parser
import Teletype.Screen.Resize
import Teletype.Snapshot

/-!
# The emulator

A parser, a screen and a palette, with a title. What concerns the host is
queued as events, and what the program asked to be told is queued as replies;
both wait until they are taken.
-/

namespace Teletype

/-- Something that concerns the host. -/
inductive Event where
  | titleChanged (old new : String)
  | bell
  /-- A text for the clipboard. -/
  | clipboard (text : String)
  | colorsChanged
  deriving Repr, DecidableEq

/-- A terminal that bytes are fed to. -/
structure Emulator where
  screen : Screen
  parser : Parser := .ground
  title : String := ""
  palette : Palette := .initial
  /-- Events not taken yet, the oldest first. -/
  events : List Event := []
  /-- Bytes for the program that were not taken yet. -/
  replies : List UInt8 := []
  /-- The character that a repetition repeats. -/
  lastPrinted : Option Char := none
  deriving DecidableEq

namespace Emulator

/-- An emulator of a new screen. -/
def initial (cols rows capacity : Nat) : Emulator :=
  { screen := .initial cols rows capacity }

/-- A copy of what is on display. -/
def snapshot (e : Emulator) : Snapshot :=
  .ofScreen e.screen e.title

/-- Queues an event. -/
def emit (e : Emulator) (event : Event) : Emulator :=
  { e with events := e.events ++ [event] }

/-- Queues a reply. -/
def reply (e : Emulator) (text : String) : Emulator :=
  { e with replies := e.replies ++ Text.Utf8.encode text }

/-- Changes the screen. -/
def mapScreen (e : Emulator) (f : Screen → Screen) : Emulator :=
  { e with screen := f e.screen }

/-- The queued events, which are queued no more. -/
def takeEvents (e : Emulator) : List Event × Emulator :=
  (e.events, { e with events := [] })

/-- The queued replies, which are queued no more. -/
def takeReplies (e : Emulator) : List UInt8 × Emulator :=
  (e.replies, { e with replies := [] })

/-- Gives the screen a new size. -/
def resize (e : Emulator) (cols rows : Nat) : Emulator :=
  e.mapScreen (·.resize cols rows)

/-- Back to a new screen of the size and the first palette. The title stays. -/
def reset (e : Emulator) : Emulator :=
  let e := { e with screen := e.screen.reset, parser := .ground, lastPrinted := none }
  if e.palette = .initial then e else { e with palette := .initial }.emit .colorsChanged

end Emulator

end Teletype

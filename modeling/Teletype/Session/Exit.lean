import Teletype.Session.Basic

/-!
# The end of a session

When the child has ended, or could not be started, the queues are closed, the
host is told, and a line on the screen says how it ended.
-/

namespace Teletype

/-- How a child ended, as its screen says it. A code below zero is the signal that
ended it. -/
def exitDescription (code : Int) : String :=
  let reason :=
    if 0 < code then " (code " ++ toString code ++ ")"
    else if code < 0 then " (signal " ++ toString (-code) ++ ")"
    else ""
  "\r\n[Process completed" ++ reason ++ " - press Enter]"

namespace Session

/-- Shows a text as if the child had printed it. Nobody is left to hear the
replies. -/
def announce (s : Session) (text : String) : Step :=
  let emulator := s.emulator.map fun e => ((e.append (Text.Utf8.encode text)).takeReplies).2
  ({ s with emulator }.dispatchEvents).andThen (·.notify .textChanged)

/-- Gives up the child and closes both queues. -/
def close (s : Session) (code : Int) : Session :=
  { s with
    state := .finished code
    fromChild := s.fromChild.close
    toChild := s.toChild.close
    unsent := none }

/-- Ends the session with a code and shows a text about it. -/
def finish (s : Session) (code : Int) (text : String) : Step :=
  ((s.close code).notify .finished).andThen (·.announce text)

end Session

end Teletype

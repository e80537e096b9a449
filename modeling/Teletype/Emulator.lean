import Teletype.Emulator.Command
import Teletype.Emulator.Control

/-!
# Feeding an emulator

Bytes are parsed first, all of a chunk, and then carried out one action after
the other. A full reset among the actions therefore also drops what the end of
its chunk left half read.
-/

namespace Teletype.Emulator

/-- Carries out an action. -/
def apply (e : Emulator) : Action → Emulator
  | .print c => { e with screen := e.screen.print c, lastPrinted := some c }
  | .execute byte => e.control byte
  | .csi sequence => e.csi sequence
  | .escape sequence => e.short sequence
  | .osc command => e.command command

/-- Carries out actions in order. -/
def applyAll (e : Emulator) (actions : List Action) : Emulator :=
  actions.foldl apply e

/-- Takes in a chunk of bytes. -/
def append (e : Emulator) (bytes : List UInt8) : Emulator :=
  let (parser, actions) := e.parser.feed bytes
  { e with parser }.applyAll actions

theorem applyAll_append (e : Emulator) (xs ys : List Action) :
    e.applyAll (xs ++ ys) = (e.applyAll xs).applyAll ys := by
  simp [applyAll]

end Teletype.Emulator

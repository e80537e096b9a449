import Teletype.Emulator.Basic
import Teletype.Emulator.Rendition

/-!
# Carrying out control sequences

What control characters, short sequences and parameterised ones do to the
screen. A sequence that is not known does nothing.
-/

namespace Teletype.Emulator

/-- Carries out a control character. -/
def control (e : Emulator) (byte : UInt8) : Emulator :=
  match byte.toNat with
  | 0x07 => e.emit .bell
  | 0x08 => e.mapScreen (·.backward 1)
  | 0x09 => e.mapScreen (·.tabForward 1)
  | 0x0A | 0x0B | 0x0C => e.mapScreen Screen.linefeed
  | 0x0D => e.mapScreen Screen.carriageReturn
  | _ => e

/-- Carries out a short sequence. -/
def short (e : Emulator) : Escape → Emulator
  | .saveCursor => e.mapScreen Screen.saveCursor
  | .restoreCursor => e.mapScreen Screen.restoreCursor
  | .index => e.mapScreen Screen.index
  | .reverseIndex => e.mapScreen Screen.reverseIndex
  | .nextLine => e.mapScreen Screen.nextLine
  | .setTab => e.mapScreen Screen.setTab
  | .fullReset => e.reset
  | .applicationKeypad => e.mapScreen fun s => { s with modes.applicationKeypad := true }
  | .normalKeypad => e.mapScreen fun s => { s with modes.applicationKeypad := false }
  | .alignmentTest => e.mapScreen Screen.alignmentTest
  | .designateCharset .. | .stringTerminator | .unknown _ => e

/-! ## Modes -/

/-- Sets or resets a mode. -/
def setMode (s : Screen) (mode : Nat) (on : Bool) : Screen :=
  match mode with
  | 4 => { s with cursor.insertMode := on }
  | 20 => { s with modes.linefeedMode := on }
  | _ => s

/-- Sets or resets a private mode. -/
def setPrivateMode (s : Screen) (mode : Nat) (on : Bool) : Screen :=
  match mode with
  | 1 => { s with modes.applicationCursor := on }
  | 5 => { s with modes.reverseVideo := on }
  | 6 => { s with cursor.originMode := on }.moveTo 0 0
  | 7 => { s with cursor.autowrap := on }
  | 25 => { s with cursor.visible := on }
  | 47 => if on then s.enterAlternate false else s.exitAlternate false
  | 66 => { s with modes.applicationKeypad := on }
  | 1047 => if on then s.enterAlternate false else s.exitAlternate true
  | 1048 => if on then s.saveCursor else s.restoreCursor
  | 1049 =>
    if on then s.saveCursor.enterAlternate true else (s.exitAlternate false).restoreCursor
  | 2004 => { s with modes.bracketedPaste := on }
  | _ => s

/-- Sets or resets each mode in turn. -/
def setModes (set : Screen → Nat → Bool → Screen) (c : Csi) (on : Bool) (s : Screen) : Screen :=
  c.params.foldl (fun s mode => set s mode.toNat on) s

/-! ## Reports -/

/-- What the terminal says it is. -/
def primaryAttributes : String := "\x1b[?64;1;2;6;9;15;18;21;22c"

/-- What the terminal says of its version. -/
def secondaryAttributes : String := "\x1b[>41;320;0c"

/-- The report of the cursor, counted from 1. -/
def cursorReport (c : Cursor) : String :=
  "\x1b[" ++ toString (c.row + 1) ++ ";" ++ toString (c.col + 1) ++ "R"

/-- Answers a question for the state of the terminal. -/
def report (e : Emulator) (question : Nat) : Emulator :=
  match question with
  | 5 => e.reply "\x1b[0n"
  | 6 => e.reply (cursorReport e.screen.cursor)
  | _ => e

/-! ## Parameterised sequences -/

/-- Prints the last character again, at most as often as the screen has
cells. -/
def repeatLast (e : Emulator) (count : Nat) : Emulator :=
  match e.lastPrinted with
  | some c =>
    let count := min count (e.screen.cols * e.screen.rows)
    e.mapScreen (·.printAll (List.replicate count c))
  | none => e

/-- Sets the margins, counted from 1; an omitted bottom is the last row. -/
def setMargins (c : Csi) (s : Screen) : Screen :=
  let bottom := if c.param 1 0 = 0 then s.rows else (c.param 1 0).toNat
  s.setMargins ((c.paramOr 0 1).toNat - 1) (bottom - 1)

/-- Carries out a sequence without a marker and without intermediates. -/
def plainCsi (e : Emulator) (c : Csi) : Emulator :=
  let count := (c.paramOr 0 1).toNat
  let mode := (c.param 0 0).toNat
  let second := (c.paramOr 1 1).toNat
  match c.command with
  | 'A' => e.mapScreen (·.up count)
  | 'B' | 'e' => e.mapScreen (·.down count)
  | 'C' | 'a' => e.mapScreen (·.forward count)
  | 'D' => e.mapScreen (·.backward count)
  | 'E' => e.mapScreen fun s => (s.down count).carriageReturn
  | 'F' => e.mapScreen fun s => (s.up count).carriageReturn
  | 'G' | '\x60' => e.mapScreen (·.moveToCol (count - 1))
  | 'H' | 'f' => e.mapScreen (·.moveTo (count - 1) (second - 1))
  | 'd' => e.mapScreen (·.moveToRow (count - 1))
  | 'I' => e.mapScreen (·.tabForward count)
  | 'Z' => e.mapScreen (·.tabBackward count)
  | 'J' => e.mapScreen (·.eraseInDisplay mode)
  | 'K' => e.mapScreen (·.eraseInLine mode)
  | 'X' => e.mapScreen (·.eraseChars count)
  | 'L' => e.mapScreen (·.insertLines count)
  | 'M' => e.mapScreen (·.deleteLines count)
  | '@' => e.mapScreen (·.insertChars count)
  | 'P' => e.mapScreen (·.deleteChars count)
  | 'S' => e.mapScreen (·.scrollUp count)
  | 'T' => e.mapScreen (·.scrollDown count)
  | 'r' => e.mapScreen (setMargins c)
  | 'm' => e.mapScreen fun s => { s with cursor.pen := s.cursor.pen.rendered c }
  | 'g' =>
    if mode = 0 then e.mapScreen Screen.clearTab
    else if mode = 3 then e.mapScreen Screen.clearTabs
    else e
  | 's' => e.mapScreen Screen.saveCursor
  | 'u' => e.mapScreen Screen.restoreCursor
  | 'h' => e.mapScreen (setModes setMode c true)
  | 'l' => e.mapScreen (setModes setMode c false)
  | 'n' => e.report mode
  | 'c' => if mode = 0 then e.reply primaryAttributes else e
  | 'b' => e.repeatLast count
  | _ => e

/-- Carries out a sequence with the marker `?`. -/
def privateCsi (e : Emulator) (c : Csi) : Emulator :=
  match c.command with
  | 'h' => e.mapScreen (setModes setPrivateMode c true)
  | 'l' => e.mapScreen (setModes setPrivateMode c false)
  | _ => e

/-- Carries out a parameterised sequence. -/
def csi (e : Emulator) (c : Csi) : Emulator :=
  match c.marker with
  | some marker =>
    if marker = 0x3F then e.privateCsi c
    else if marker = 0x3E && c.command = 'c' then e.reply secondaryAttributes
    else e
  | none =>
    if c.intermediates.isEmpty then e.plainCsi c
    else if c.intermediates = [0x21] && c.command = 'p' then e.mapScreen Screen.softReset
    else e

end Teletype.Emulator

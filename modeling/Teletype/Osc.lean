import Teletype.Sequence
import Teletype.Text.Numeral
import Teletype.Text.Split
import Teletype.Text.Utf8

/-!
# Commands to the terminal as a whole

Such a command is sent as one text: a number, a semicolon, and a payload whose
form the number decides. A text without a number is no command.
-/

namespace Teletype.Osc

open Text

/-- The dynamic color that is `offset` places behind the foreground. -/
def dynamicColor (offset : Nat) : DynamicColor :=
  match offset with
  | 0 => .foreground
  | 1 => .background
  | _ => .cursor

/-- An index of the palette as it is sent. -/
def index? (field : List Char) : Option UInt16 :=
  (Numeral.upTo? (UInt16.size - 1) field).map UInt16.ofNat

/-- The pairs of an index and a color name among fields taken two by two. A pair
without a good index is left out, and so is a last field without a partner. -/
def colorEntries : List (List Char) → List (UInt16 × String)
  | index :: spec :: rest =>
    match index? index with
    | some i => (i, String.ofList spec) :: colorEntries rest
    | none => colorEntries rest
  | _ => []

/-- The command with this number and payload. -/
def ofPayload (command : UInt32) (payload : List Char) : Osc :=
  let data := String.ofList payload
  match command.toNat with
  | 0 | 2 => .setTitle data
  | 1 => .setIconName data
  | 4 =>
    match colorEntries (fields ';' payload) with
    | [] => .unknown command data
    | entries => .setColor entries
  | 10 | 11 | 12 => .setDynamicColor (dynamicColor (command.toNat - 10)) data
  | 52 =>
    match cutAt? ';' payload with
    | some (selection, text) => .clipboard (String.ofList selection) (String.ofList text)
    | none => .unknown command data
  | 104 => .resetColor ((fields ';' payload).filterMap index?)
  | 110 | 111 | 112 => .resetDynamicColor (dynamicColor (command.toNat - 110))
  | _ => .unknown command data

/-- The command that a text holds. -/
def ofText? (text : List Char) : Option Osc :=
  let (number, payload) := (cutAt? ';' text).getD (text, [])
  (Numeral.upTo? (UInt32.size - 1) number).map fun n => ofPayload (UInt32.ofNat n) payload

/-- The command that bytes hold. -/
def ofBytes? (bytes : List UInt8) : Option Osc :=
  ofText? (Utf8.decode bytes).toList

end Teletype.Osc

import Teletype.Json.Record
import Teletype.Sequence

/-!
# Actions in JSON

Each kind of action is a variant. Sequences that carry nothing are their bare
names.
-/

namespace Teletype

open Json (nat record tagged text)

/-- Numbers as an array. -/
def Json.nats (ns : List Nat) : Json :=
  .array (ns.map nat)

namespace Csi

/-- A control sequence as a value. -/
def toJson (c : Csi) : Json :=
  record
    [("params", .nats (c.params.map UInt16.toNat)), ("subparams", .array (c.subparams.map .bool)),
      ("intermediates", .nats (c.intermediates.map UInt8.toNat)),
      ("private_marker", match c.marker with
        | some marker => nat marker.toNat
        | none => .null),
      ("final_byte", nat c.final.toNat)]

/-- The control sequence that a value stands for. -/
def ofJson? (j : Json) : Option Csi := do
  let r ← j.record? ["params", "subparams", "intermediates", "private_marker", "final_byte"]
  some
    { params := ← r.required "params" (Json.list? Json.word?)
      subparams := ← r.orElse "subparams" [] (Json.list? Json.bool?)
      intermediates := ← r.required "intermediates" (Json.list? Json.byte?)
      marker := ← r.nullable "private_marker" Json.byte?
      final := ← r.required "final_byte" Json.byte? }

end Csi

namespace Escape

/-- The sequences that carry nothing, by name. -/
def bare : List (String × Escape) :=
  [("SaveCursor", .saveCursor), ("RestoreCursor", .restoreCursor), ("Index", .index),
    ("ReverseIndex", .reverseIndex), ("NextLine", .nextLine), ("HorizontalTabSet", .setTab),
    ("FullReset", .fullReset), ("ApplicationKeypad", .applicationKeypad),
    ("NormalKeypad", .normalKeypad), ("AlignmentTest", .alignmentTest),
    ("StringTerminator", .stringTerminator)]

/-- A short sequence as a value. -/
def toJson : Escape → Json
  | .designateCharset slot charset =>
    tagged "DesignateCharset" (record [("slot", nat slot.toNat), ("charset", nat charset.toNat)])
  | .unknown bytes => tagged "Unknown" (.nats (bytes.map UInt8.toNat))
  | .saveCursor => text "SaveCursor"
  | .restoreCursor => text "RestoreCursor"
  | .index => text "Index"
  | .reverseIndex => text "ReverseIndex"
  | .nextLine => text "NextLine"
  | .setTab => text "HorizontalTabSet"
  | .fullReset => text "FullReset"
  | .applicationKeypad => text "ApplicationKeypad"
  | .normalKeypad => text "NormalKeypad"
  | .alignmentTest => text "AlignmentTest"
  | .stringTerminator => text "StringTerminator"

/-- The slot and the character set of a designation. -/
def designation? (j : Json) : Option Escape := do
  let r ← j.record? ["slot", "charset"]
  some (.designateCharset (← r.required "slot" Json.byte?) (← r.required "charset" Json.byte?))

/-- The short sequence that a value stands for. -/
def ofJson? (j : Json) : Option Escape := do
  let v ← j.variant?
  match v.name with
  | "DesignateCharset" => v.holding designation?
  | "Unknown" => (v.holding (Json.list? Json.byte?)).map .unknown
  | name => if v.isBare false then bare.lookup name else none

end Escape

namespace DynamicColor

/-- A dynamic color as a value. -/
def toJson : DynamicColor → Json
  | .foreground => text "Foreground"
  | .background => text "Background"
  | .cursor => text "Cursor"

/-- The dynamic color that a value stands for. -/
def ofJson? (j : Json) : Option DynamicColor := do
  let v ← j.variant?
  if v.isBare false then
    match v.name with
    | "Foreground" => some .foreground
    | "Background" => some .background
    | "Cursor" => some .cursor
    | _ => none
  else none

end DynamicColor

namespace Osc

/-- A command as a value. -/
def toJson : Osc → Json
  | .setTitle title => tagged "SetTitle" (text title)
  | .setIconName name => tagged "SetIconName" (text name)
  | .setColor entries =>
    tagged "SetColor"
      (.array (entries.map fun (index, spec) => .array [nat index.toNat, text spec]))
  | .setDynamicColor which spec =>
    tagged "SetDynamicColor" (record [("which", which.toJson), ("spec", text spec)])
  | .resetColor indices => tagged "ResetColor" (.nats (indices.map UInt16.toNat))
  | .resetDynamicColor which => tagged "ResetDynamicColor" which.toJson
  | .clipboard selection data =>
    tagged "Clipboard" (record [("selection", text selection), ("data", text data)])
  | .unknown command data =>
    tagged "Unknown" (record [("command", nat command.toNat), ("data", text data)])

/-- A pair of an index and a color name. -/
def colorEntry? : Json → Option (UInt16 × String)
  | .array [index, spec] => do some (← index.word?, ← spec.text?)
  | _ => none

/-- A dynamic color and its new color. -/
def dynamicColor? (j : Json) : Option Osc := do
  let r ← j.record? ["which", "spec"]
  let which ← r.required "which" DynamicColor.ofJson?
  some (.setDynamicColor which (← r.required "spec" Json.text?))

/-- A selection and its data. -/
def clipboard? (j : Json) : Option Osc := do
  let r ← j.record? ["selection", "data"]
  some (.clipboard (← r.required "selection" Json.text?) (← r.required "data" Json.text?))

/-- A number and the payload of its command. -/
def unknown? (j : Json) : Option Osc := do
  let r ← j.record? ["command", "data"]
  let command ← r.required "command" (Json.natBelow? UInt32.size)
  some (.unknown (UInt32.ofNat command) (← r.required "data" Json.text?))

/-- The command that a value stands for. -/
def ofJson? (j : Json) : Option Osc := do
  let v ← j.variant?
  match v.name with
  | "SetTitle" => (v.holding Json.text?).map .setTitle
  | "SetIconName" => (v.holding Json.text?).map .setIconName
  | "SetColor" => (v.holding (Json.list? colorEntry?)).map .setColor
  | "SetDynamicColor" => v.holding dynamicColor?
  | "ResetColor" => (v.holding (Json.list? Json.word?)).map .resetColor
  | "ResetDynamicColor" => (v.holding DynamicColor.ofJson?).map .resetDynamicColor
  | "Clipboard" => v.holding clipboard?
  | "Unknown" => v.holding unknown?
  | _ => none

end Osc

namespace Action

/-- An action as a value. -/
def toJson : Action → Json
  | .print c => tagged "Print" (text c.toString)
  | .execute byte => tagged "Execute" (nat byte.toNat)
  | .csi sequence => tagged "CsiDispatch" sequence.toJson
  | .escape sequence => tagged "EscDispatch" sequence.toJson
  | .osc command => tagged "OscDispatch" command.toJson

/-- The action that a value stands for. -/
def ofJson? (j : Json) : Option Action := do
  let v ← j.variant?
  match v.name with
  | "Print" => (v.holding Json.char?).map .print
  | "Execute" => (v.holding Json.byte?).map .execute
  | "CsiDispatch" => (v.holding Csi.ofJson?).map .csi
  | "EscDispatch" => (v.holding Escape.ofJson?).map .escape
  | "OscDispatch" => (v.holding Osc.ofJson?).map .osc
  | _ => none

end Action

end Teletype

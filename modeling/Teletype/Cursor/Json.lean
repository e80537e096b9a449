import Teletype.Cursor
import Teletype.Pen.Json
import Teletype.Screen.Basic

/-!
# The cursor and the modes in JSON
-/

namespace Teletype

open Json (nat record)

namespace Cursor

/-- A cursor as a value. -/
def toJson (c : Cursor) : Json :=
  record
    [("col", nat c.col), ("row", nat c.row), ("visible", .bool c.visible), ("pen", c.pen.toJson),
      ("origin_mode", .bool c.originMode), ("autowrap", .bool c.autowrap),
      ("pending_wrap", .bool c.pendingWrap), ("insert_mode", .bool c.insertMode)]

/-- The cursor that a value stands for. -/
def ofJson? (j : Json) : Option Cursor := do
  let r ← j.record?
    ["col", "row", "visible", "pen", "origin_mode", "autowrap", "pending_wrap", "insert_mode"]
  some
    { col := ← r.required "col" Json.count?
      row := ← r.required "row" Json.count?
      visible := ← r.required "visible" Json.bool?
      pen := ← r.required "pen" Pen.ofJson?
      originMode := ← r.required "origin_mode" Json.bool?
      autowrap := ← r.required "autowrap" Json.bool?
      pendingWrap := ← r.required "pending_wrap" Json.bool?
      insertMode := ← r.required "insert_mode" Json.bool? }

end Cursor

namespace Modes

/-- The modes as a value. -/
def toJson (m : Modes) : Json :=
  record
    [("application_cursor", .bool m.applicationCursor),
      ("application_keypad", .bool m.applicationKeypad),
      ("bracketed_paste", .bool m.bracketedPaste), ("linefeed_mode", .bool m.linefeedMode),
      ("reverse_video", .bool m.reverseVideo)]

/-- The modes that a value stands for. -/
def ofJson? (j : Json) : Option Modes := do
  let r ← j.record?
    ["application_cursor", "application_keypad", "bracketed_paste", "linefeed_mode",
      "reverse_video"]
  some
    { applicationCursor := ← r.required "application_cursor" Json.bool?
      applicationKeypad := ← r.required "application_keypad" Json.bool?
      bracketedPaste := ← r.required "bracketed_paste" Json.bool?
      linefeedMode := ← r.required "linefeed_mode" Json.bool?
      reverseVideo := ← r.required "reverse_video" Json.bool? }

end Modes

end Teletype

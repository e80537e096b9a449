import Teletype.Color.Json
import Teletype.Pen

/-!
# Pens in JSON

A record of the two colors and of the style, which is a record of flags.
-/

namespace Teletype

open Json (record)

namespace Style

/-- The fields of a style. -/
def fieldNames : List String :=
  ["bold", "faint", "italic", "underline", "blink", "inverse", "hidden", "strikethrough"]

/-- A style as a value. -/
def toJson (s : Style) : Json :=
  record
    [("bold", .bool s.bold), ("faint", .bool s.faint), ("italic", .bool s.italic),
      ("underline", .bool s.underline), ("blink", .bool s.blink), ("inverse", .bool s.inverse),
      ("hidden", .bool s.hidden), ("strikethrough", .bool s.strikethrough)]

/-- The style that a value stands for. -/
def ofJson? (j : Json) : Option Style := do
  let r ← j.record? fieldNames
  some
    { bold := ← r.required "bold" Json.bool?
      faint := ← r.required "faint" Json.bool?
      italic := ← r.required "italic" Json.bool?
      underline := ← r.required "underline" Json.bool?
      blink := ← r.required "blink" Json.bool?
      inverse := ← r.required "inverse" Json.bool?
      hidden := ← r.required "hidden" Json.bool?
      strikethrough := ← r.required "strikethrough" Json.bool? }

end Style

namespace Pen

/-- The fields of a pen. -/
def fieldNames : List String :=
  ["fg", "bg", "style"]

/-- The members of a pen. -/
def members (p : Pen) : List (String × Json) :=
  [("fg", p.fg.toJson), ("bg", p.bg.toJson), ("style", p.style.toJson)]

/-- A pen as a value. -/
def toJson (p : Pen) : Json :=
  record p.members

/-- The pen with these fields. -/
def ofFields? (keptAside : Bool) (r : Json.Record) : Option Pen := do
  some
    { fg := ← r.required "fg" (Color.ofJson? keptAside)
      bg := ← r.required "bg" (Color.ofJson? keptAside)
      style := ← r.required "style" Style.ofJson? }

/-- The pen that a value stands for. -/
def ofJson? (j : Json) : Option Pen := do
  ofFields? false (← j.record? fieldNames)

end Pen

end Teletype

import Teletype.Line
import Teletype.Pen.Json

/-!
# Cells and lines in JSON

The mark of a right half is written only where it is set.
-/

namespace Teletype

open Json (record text)

namespace Cell

/-- A cell as a value. -/
def toJson (c : Cell) : Json :=
  record ([("content", text c.content), ("pen", c.pen.toJson)]
    ++ if c.tail then [("wide_tail", .bool true)] else [])

/-- The cell that a value stands for. -/
def ofJson? (j : Json) : Option Cell := do
  let r ← j.record? ["content", "pen", "wide_tail"]
  some
    { content := ← r.required "content" Json.text?
      pen := ← r.required "pen" Pen.ofJson?
      tail := ← r.orElse "wide_tail" false Json.bool? }

end Cell

namespace Line

/-- A line as a value. -/
def toJson (l : Line) : Json :=
  record [("cells", .array (l.cells.map Cell.toJson)), ("wrapped", .bool l.wrapped)]

/-- The line that a value stands for. -/
def ofJson? (j : Json) : Option Line := do
  let r ← j.record? ["cells", "wrapped"]
  some
    { cells := ← r.required "cells" (Json.list? Cell.ofJson?)
      wrapped := ← r.required "wrapped" Json.bool? }

end Line

end Teletype

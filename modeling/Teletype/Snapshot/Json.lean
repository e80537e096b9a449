import Teletype.Json.Reading
import Teletype.Json.Writer
import Teletype.Pen.Json
import Teletype.Snapshot

/-!
# Snapshots in JSON

A snapshot is written one item a row. The fields of a cell's pen stand among
the members of the cell, so while a cell is read its other members are kept
aside.
-/

namespace Teletype

open Json (nat record text)

namespace CursorSnapshot

/-- The cursor of a snapshot as a value. -/
def toJson (c : CursorSnapshot) : Json :=
  record [("col", nat c.col), ("row", nat c.row), ("visible", .bool c.visible)]

/-- The cursor of a snapshot that a value stands for. -/
def ofJson? (j : Json) : Option CursorSnapshot := do
  let r ← j.record? ["col", "row", "visible"]
  some
    { col := ← r.required "col" Json.count?
      row := ← r.required "row" Json.count?
      visible := ← r.required "visible" Json.bool? }

end CursorSnapshot

namespace CellSnapshot

/-- The containers that a value kept aside may have inside each other, being
inside the snapshot, the grid, a row and a cell itself. -/
def keptDepth : Nat := 127 - 4

/-- The members of a cell that are its own. -/
def ownNames : List String :=
  ["content", "width"]

/-- A cell as a value. -/
def toJson (c : CellSnapshot) : Json :=
  record (("content", text c.content) :: c.pen.members ++ [("width", nat c.width.toNat)])

/-- The cell that a value stands for. -/
def ofJson? : Json → Option CellSnapshot
  | .object members => do
    let members ← Json.named? members
    let (own, others) := members.partition fun (name, _) => ownNames.contains name
    if others.all fun (_, value) => value.canKeep keptDepth then
      let own : Json.Record := { fields := ← Json.select? ownNames own, byName := true }
      let penFields : Json.Record :=
        { fields := ← Json.select? Pen.fieldNames others, byName := true }
      some
        { content := ← own.required "content" Json.text?
          pen := ← Pen.ofFields? true penFields
          width := ← own.required "width" Json.byte? }
    else none
  | _ => none

end CellSnapshot

namespace Snapshot

/-- A snapshot as a value. -/
def toJson (s : Snapshot) : Json :=
  record
    [("cols", nat s.cols), ("rows", nat s.rows), ("title", Json.text s.title),
      ("cursor", s.cursor.toJson), ("alternate_screen", .bool s.alternateScreen),
      ("scrollback_lines", nat s.scrollbackLines),
      ("grid", .array (s.grid.map fun row => .array (row.map CellSnapshot.toJson)))]

/-- The snapshot that a value stands for. -/
def ofJson? (j : Json) : Option Snapshot := do
  let r ← j.record?
    ["cols", "rows", "title", "cursor", "alternate_screen", "scrollback_lines", "grid"]
  some
    { cols := ← r.required "cols" Json.count?
      rows := ← r.required "rows" Json.count?
      title := ← r.required "title" Json.text?
      cursor := ← r.required "cursor" CursorSnapshot.ofJson?
      alternateScreen := ← r.required "alternate_screen" Json.bool?
      scrollbackLines := ← r.required "scrollback_lines" Json.count?
      grid := ← r.required "grid" (Json.list? (Json.list? CellSnapshot.ofJson?)) }

/-- The text of a snapshot. -/
def render (s : Snapshot) : String :=
  s.toJson.pretty

/-- The snapshot that a text spells. -/
def parse? (text : String) : Option Snapshot :=
  (Json.parse? text).bind ofJson?

end Snapshot

end Teletype

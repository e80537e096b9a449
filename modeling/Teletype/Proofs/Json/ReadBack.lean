import Teletype.Cell.Json
import Teletype.Cursor.Json
import Teletype.Proofs.Json.Fields
import Teletype.Snapshot.Json

/-!
# Values are read back

Whatever is written of a cell, a line, a cursor, the modes, a snapshot or an action, in
either layout, is read as the value that it was (`Json.written_values_read_back`). For each
type there are two lemmas: what is written of it is writable, and it is found in that again.
Only the counts of a cursor and of a snapshot are limited, to the numbers of 64 bits.
-/

namespace Teletype

open Json (Writable)

/-! ## Colors and pens -/

namespace Color

theorem writable_toJson (c : Color) : Writable c.toJson := by
  cases c <;> simp [toJson, Json.tagged, Writable.array]

theorem ofJson?_toJson (keptAside : Bool) (c : Color) : ofJson? keptAside c.toJson = some c := by
  cases c with
  | unset => rfl
  | indexed index => exact congrArg (Option.map indexed) (Json.byte?_nat index)
  | direct rgb =>
    have hparts : parts? (.array [.nat rgb.red.toNat, .nat rgb.green.toNat, .nat rgb.blue.toNat]) =
        some rgb := by
      simp [parts?, Json.list?]
    exact congrArg (Option.map direct) hparts

end Color

namespace Style

theorem writable_toJson (s : Style) : Writable s.toJson := by
  simp [toJson]

theorem ofJson?_toJson (s : Style) : ofJson? s.toJson = some s := by
  rw [ofJson?, toJson, Json.record?_record]
  · rfl
  · exact List.Sublist.refl _
  · decide

end Style

namespace Pen

theorem writable_toJson (p : Pen) : Writable p.toJson := by
  simp [toJson, members, Color.writable_toJson, Style.writable_toJson]

/-- A pen is found in its members, also where they were kept aside. -/
theorem ofFields?_members (keptAside byName : Bool) (p : Pen) :
    ofFields? keptAside { fields := p.members, byName } = some p := by
  simp [ofFields?, members, Json.Record.required, Color.ofJson?_toJson, Style.ofJson?_toJson]

theorem ofJson?_toJson (p : Pen) : ofJson? p.toJson = some p := by
  rw [ofJson?, toJson, Json.record?_record]
  · exact p.ofFields?_members false true
  · exact List.Sublist.refl _
  · decide

end Pen

/-! ## Cells and lines -/

namespace Cell

theorem writable_toJson (c : Cell) : Writable c.toJson := by
  cases htail : c.tail <;> simp [toJson, htail, Pen.writable_toJson]

/-- The mark of a right half that was not written is not set. -/
theorem ofJson?_toJson (c : Cell) : ofJson? c.toJson = some c := by
  obtain ⟨content, pen, tail⟩ := c
  rw [ofJson?, toJson, Json.record?_record]
  · cases tail <;> simp [Json.Record.required, Json.Record.orElse, Pen.ofJson?_toJson]
  · cases tail <;> simp
  · decide

end Cell

namespace Line

theorem writable_toJson (l : Line) : Writable l.toJson := by
  simp [toJson, Json.writable_list Cell.writable_toJson]

theorem ofJson?_toJson (l : Line) : ofJson? l.toJson = some l := by
  have hcells := Json.list?_array Cell.ofJson?_toJson l.cells
  rw [ofJson?, toJson, Json.record?_record]
  · simp [Json.Record.required, hcells]
  · exact List.Sublist.refl _
  · decide

end Line

/-! ## The cursor and the modes -/

/-- Whether the counts of a cursor are numbers of 64 bits. -/
structure Cursor.Fits (c : Cursor) : Prop where
  col : c.col < UInt64.size
  row : c.row < UInt64.size

namespace Cursor

theorem writable_toJson (c : Cursor) : Writable c.toJson := by
  simp [toJson, Pen.writable_toJson]

theorem ofJson?_toJson {c : Cursor} (h : c.Fits) : ofJson? c.toJson = some c := by
  rw [ofJson?, toJson, Json.record?_record]
  · simp [Json.Record.required, Json.count?_nat h.col, Json.count?_nat h.row, Pen.ofJson?_toJson]
  · exact List.Sublist.refl _
  · decide

end Cursor

namespace Modes

theorem writable_toJson (m : Modes) : Writable m.toJson := by
  simp [toJson]

theorem ofJson?_toJson (m : Modes) : ofJson? m.toJson = some m := by
  rw [ofJson?, toJson, Json.record?_record]
  · rfl
  · exact List.Sublist.refl _
  · decide

end Modes

/-! ## Kept aside

A cell of a snapshot is read with the members of its pen kept aside. -/

theorem Json.inRange_byte (b : UInt8) :
    Json.Number.inRange { significand := b.toNat } = true := by
  have hall : ∀ n : Fin 256, Json.Number.inRange { significand := n.val } = true := by
    decide +kernel
  exact hall b.toFin

theorem Color.canKeep_toJson (depth : Nat) (c : Color) : c.toJson.canKeep (depth + 2) = true := by
  cases c <;>
    simp [toJson, Json.text, Json.tagged, Json.record, Json.canKeep, Json.canKeepMembers,
      Json.canKeepElements, Json.nat, Json.inRange_byte]

theorem Style.canKeep_toJson (depth : Nat) (s : Style) : s.toJson.canKeep (depth + 1) = true := by
  simp [toJson, Json.record, Json.canKeep, Json.canKeepMembers]

theorem Pen.canKeep_members (depth : Nat) (p : Pen) :
    ∀ member ∈ p.members, member.2.canKeep (depth + 2) = true := by
  simp [members, Color.canKeep_toJson, Style.canKeep_toJson]

/-! ## Snapshots -/

namespace CellSnapshot

theorem writable_toJson (c : CellSnapshot) : Writable c.toJson := by
  simp [toJson, Pen.members, Color.writable_toJson, Style.writable_toJson]

/-- The members of the pen, which stand among those of the cell, are parted from them. -/
theorem ofJson?_toJson (c : CellSnapshot) : ofJson? c.toJson = some c := by
  -- the pen is read from what is left when the members that are the cell's own are taken out
  have hparted :
      (("content", Json.text c.content) :: c.pen.members ++
            [("width", Json.nat c.width.toNat)]).partition
          (fun member => ownNames.contains member.1) =
        ([("content", Json.text c.content), ("width", Json.nat c.width.toNat)], c.pen.members) :=
    rfl
  have hkept : c.pen.members.all (fun member => member.2.canKeep keptDepth) = true :=
    List.all_eq_true.mpr (Pen.canKeep_members _ c.pen)
  have hown : Json.select? ownNames
      [("content", Json.text c.content), ("width", Json.nat c.width.toNat)] = some _ :=
    Json.select?_eq_some (List.Sublist.refl _) (by decide)
  have hpen : Json.select? Pen.fieldNames c.pen.members = some _ :=
    Json.select?_eq_some (List.Sublist.refl _) (by decide)
  rw [toJson, Json.record, ofJson?, Json.named?_map]
  simp only [bind, Option.bind_some]
  rw [hparted]
  simp [hkept, hown, hpen, Json.Record.required, Pen.ofFields?_members]

end CellSnapshot

/-- Whether the counts of a snapshot are numbers of 64 bits. -/
structure Snapshot.Fits (s : Snapshot) : Prop where
  cols : s.cols < UInt64.size
  rows : s.rows < UInt64.size
  col : s.cursor.col < UInt64.size
  row : s.cursor.row < UInt64.size
  scrollbackLines : s.scrollbackLines < UInt64.size

namespace CursorSnapshot

theorem writable_toJson (c : CursorSnapshot) : Writable c.toJson := by
  simp [toJson]

theorem ofJson?_toJson {c : CursorSnapshot} (hcol : c.col < UInt64.size)
    (hrow : c.row < UInt64.size) : ofJson? c.toJson = some c := by
  rw [ofJson?, toJson, Json.record?_record]
  · simp [Json.Record.required, Json.count?_nat hcol, Json.count?_nat hrow]
  · exact List.Sublist.refl _
  · decide

end CursorSnapshot

namespace Snapshot

theorem writable_toJson (s : Snapshot) : Writable s.toJson := by
  have hgrid := Json.writable_list (Json.writable_list CellSnapshot.writable_toJson) s.grid
  simp [toJson, CursorSnapshot.writable_toJson, hgrid]

theorem ofJson?_toJson {s : Snapshot} (h : s.Fits) : ofJson? s.toJson = some s := by
  have hgrid := Json.list?_array (Json.list?_array CellSnapshot.ofJson?_toJson) s.grid
  rw [ofJson?, toJson, Json.record?_record]
  · simp [Json.Record.required, Json.count?_nat h.cols, Json.count?_nat h.rows,
      Json.count?_nat h.scrollbackLines, CursorSnapshot.ofJson?_toJson h.col h.row, hgrid]
  · exact List.Sublist.refl _
  · decide

/-- **A snapshot is read from its own text.** -/
theorem parse?_render {s : Snapshot} (h : s.Fits) : parse? s.render = some s := by
  rw [parse?, render, Json.parse?_pretty s.writable_toJson]
  exact ofJson?_toJson h

end Snapshot

/-! ## Actions -/

namespace Csi

theorem writable_toJson (c : Csi) : Writable c.toJson := by
  have hsubparams := Json.writable_list Writable.bool c.subparams
  cases hmarker : c.marker <;> simp [toJson, hmarker, hsubparams, Json.writable_nats]

/-- A marker that was written as null is none, and no number is null. -/
theorem ofJson?_toJson (c : Csi) : ofJson? c.toJson = some c := by
  obtain ⟨params, subparams, intermediates, marker, final⟩ := c
  have hparams := Json.list?_nats Json.word?_nat params
  have hsubparams := Json.list?_array Json.bool?_bool subparams
  have hintermediates := Json.list?_nats Json.byte?_nat intermediates
  -- a field that may be null is looked at before it is read, so `nat` is opened here
  have hmarker (m : UInt8) : Json.byte? (.number { significand := m.toNat }) = some m :=
    Json.byte?_nat m
  rw [ofJson?, toJson, Json.record?_record]
  · cases marker <;>
      simp [Json.Record.required, Json.Record.orElse, Json.Record.nullable, Json.nat, hparams,
        hsubparams, hintermediates, hmarker]
  · exact List.Sublist.refl _
  · decide

end Csi

namespace Escape

theorem writable_toJson (e : Escape) : Writable e.toJson := by
  cases e <;> simp [toJson, Json.tagged, Json.writable_nats]

theorem designation?_record (slot charset : UInt8) :
    designation? (.record [("slot", .nat slot.toNat), ("charset", .nat charset.toNat)]) =
      some (.designateCharset slot charset) := by
  rw [designation?, Json.record?_record]
  · simp [Json.Record.required]
  · exact List.Sublist.refl _
  · decide

theorem ofJson?_toJson (e : Escape) : ofJson? e.toJson = some e := by
  cases e with
  | designateCharset slot charset => exact designation?_record slot charset
  | unknown bytes => exact congrArg (Option.map unknown) (Json.list?_nats Json.byte?_nat bytes)
  | _ => rfl

end Escape

namespace DynamicColor

theorem writable_toJson (d : DynamicColor) : Writable d.toJson := by
  cases d <;> simp [toJson]

theorem ofJson?_toJson (d : DynamicColor) : ofJson? d.toJson = some d := by
  cases d <;> rfl

end DynamicColor

namespace Osc

/-- A pair of an index and a color name as a value. -/
def entryToJson (entry : UInt16 × String) : Json :=
  .array [.nat entry.1.toNat, .text entry.2]

theorem writable_entryToJson (entry : UInt16 × String) : Writable (entryToJson entry) :=
  .array (by simp)

theorem writable_toJson (o : Osc) : Writable o.toJson := by
  cases o with
  | setColor entries =>
    have hentries := Json.writable_list writable_entryToJson entries
    exact .record (List.forall_mem_singleton.mpr hentries)
  | _ => simp [toJson, Json.tagged, Json.writable_nats, DynamicColor.writable_toJson]

theorem colorEntry?_entryToJson (entry : UInt16 × String) :
    colorEntry? (entryToJson entry) = some entry := by
  simp [entryToJson, colorEntry?]

theorem dynamicColor?_record (which : DynamicColor) (spec : String) :
    dynamicColor? (.record [("which", which.toJson), ("spec", .text spec)]) =
      some (.setDynamicColor which spec) := by
  rw [dynamicColor?, Json.record?_record]
  · simp [Json.Record.required, DynamicColor.ofJson?_toJson]
  · exact List.Sublist.refl _
  · decide

theorem clipboard?_record (selection data : String) :
    clipboard? (.record [("selection", .text selection), ("data", .text data)]) =
      some (.clipboard selection data) := by
  rw [clipboard?, Json.record?_record]
  · simp [Json.Record.required]
  · exact List.Sublist.refl _
  · decide

theorem unknown?_record (command : UInt32) (data : String) :
    unknown? (.record [("command", .nat command.toNat), ("data", .text data)]) =
      some (.unknown command data) := by
  rw [unknown?, Json.record?_record]
  · simp [Json.Record.required, Json.natBelow?_nat command.toNat_lt_size]
  · exact List.Sublist.refl _
  · decide

theorem ofJson?_toJson (o : Osc) : ofJson? o.toJson = some o := by
  cases o with
  | setTitle title => rfl
  | setIconName name => rfl
  | setColor entries =>
    exact congrArg (Option.map setColor) (Json.list?_array colorEntry?_entryToJson entries)
  | setDynamicColor which spec => exact dynamicColor?_record which spec
  | resetColor indices =>
    exact congrArg (Option.map resetColor) (Json.list?_nats Json.word?_nat indices)
  | resetDynamicColor which => exact congrArg (Option.map resetDynamicColor) which.ofJson?_toJson
  | clipboard selection data => exact clipboard?_record selection data
  | unknown command data => exact unknown?_record command data

end Osc

namespace Action

theorem writable_toJson (a : Action) : Writable a.toJson := by
  cases a <;>
    simp [toJson, Json.tagged, Csi.writable_toJson, Escape.writable_toJson, Osc.writable_toJson]

theorem ofJson?_toJson (a : Action) : ofJson? a.toJson = some a := by
  cases a with
  | print c => exact congrArg (Option.map print) (Json.char?_toString c)
  | execute byte => exact congrArg (Option.map execute) (Json.byte?_nat byte)
  | csi sequence => exact congrArg (Option.map csi) sequence.ofJson?_toJson
  | escape sequence => exact congrArg (Option.map escape) sequence.ofJson?_toJson
  | osc command => exact congrArg (Option.map osc) command.ofJson?_toJson

end Action

/-! ## Both layouts -/

/-- Whether a value is read back from what is written of it, in either layout. -/
def Json.ReadsBack {α : Type} (toJson : α → Json) (ofJson? : Json → Option α) (a : α) : Prop :=
  (Json.parse? (toJson a).compact).bind ofJson? = some a ∧
    (Json.parse? (toJson a).pretty).bind ofJson? = some a

theorem Json.readsBack_of_writable {α : Type} {toJson : α → Json} {ofJson? : Json → Option α}
    {a : α} (h : Writable (toJson a)) (hread : ofJson? (toJson a) = some a) :
    ReadsBack toJson ofJson? a := by
  rw [ReadsBack, parse?_compact h, parse?_pretty h]
  exact ⟨hread, hread⟩

/-- **Writing is lossless.** Every snapshot, line, cell, cursor, set of modes and action is
read back as it was from both layouts, if its counts are numbers of 64 bits. -/
theorem Json.written_values_read_back :
    (∀ s : Snapshot, s.Fits → ReadsBack Snapshot.toJson Snapshot.ofJson? s) ∧
      (∀ l : Line, ReadsBack Line.toJson Line.ofJson? l) ∧
      (∀ c : Cell, ReadsBack Cell.toJson Cell.ofJson? c) ∧
      (∀ c : Cursor, c.Fits → ReadsBack Cursor.toJson Cursor.ofJson? c) ∧
      (∀ m : Modes, ReadsBack Modes.toJson Modes.ofJson? m) ∧
      (∀ a : Action, ReadsBack Action.toJson Action.ofJson? a) := by
  refine ⟨fun s h => ?_, fun l => ?_, fun c => ?_, fun c h => ?_, fun m => ?_, fun a => ?_⟩
  · exact readsBack_of_writable s.writable_toJson (Snapshot.ofJson?_toJson h)
  · exact readsBack_of_writable l.writable_toJson l.ofJson?_toJson
  · exact readsBack_of_writable c.writable_toJson c.ofJson?_toJson
  · exact readsBack_of_writable c.writable_toJson (Cursor.ofJson?_toJson h)
  · exact readsBack_of_writable m.writable_toJson m.ofJson?_toJson
  · exact readsBack_of_writable a.writable_toJson a.ofJson?_toJson

/-- The largest counts, every kind of escape in a title, and a wide character with its right
half beside a row without cells. -/
theorem Json.written_values_read_back_largest :
    ReadsBack Snapshot.toJson Snapshot.ofJson?
        { cols := UInt64.size - 1
          rows := 2
          title := "\"\\\n\x01 é"
          cursor := { col := UInt64.size - 1, row := 1, visible := false }
          alternateScreen := true
          scrollbackLines := UInt64.size - 1
          grid :=
            [[{ content := "世", pen := { fg := .indexed 9, bg := .direct ⟨1, 2, 3⟩ }, width := 2 },
              { content := "", pen := {}, width := 0 }], []] } ∧
      ReadsBack Cursor.toJson Cursor.ofJson? { col := UInt64.size - 1, pendingWrap := true } := by
  refine ⟨written_values_read_back.1 _ ?_, written_values_read_back.2.2.2.1 _ ?_⟩
  · exact ⟨by decide, by decide, by decide, by decide, by decide⟩
  · exact ⟨by decide, by decide⟩

end Teletype

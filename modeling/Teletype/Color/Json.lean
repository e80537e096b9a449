import Teletype.Color
import Teletype.Json.Record

/-!
# Colors in JSON

`"Default"`, or an index of the palette, or the three parts.
-/

namespace Teletype.Color

open Json (nat tagged text)

/-- A color as a value. -/
def toJson : Color → Json
  | .unset => text "Default"
  | .indexed index => tagged "Indexed" (nat index.toNat)
  | .direct rgb =>
    tagged "Rgb" (.array [nat rgb.red.toNat, nat rgb.green.toNat, nat rgb.blue.toNat])

/-- Three parts of a color. -/
def parts? (j : Json) : Option Rgb :=
  match j.list? Json.byte? with
  | some [red, green, blue] => some ⟨red, green, blue⟩
  | _ => none

/-- The color that a value stands for. -/
def ofJson? (keptAside : Bool) (j : Json) : Option Color := do
  let v ← j.variant?
  match v.name with
  | "Default" => if v.isBare keptAside then some .unset else none
  | "Indexed" => (v.holding Json.byte?).map .indexed
  | "Rgb" => (v.holding parts?).map .direct
  | _ => none

end Teletype.Color

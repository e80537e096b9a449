/-!
# Colors

The three ways a cell names a color, and the color that every palette index
has until a program changes it.
-/

namespace Teletype

/-- A color as a screen shows it. -/
structure Rgb where
  red : UInt8
  green : UInt8
  blue : UInt8
  deriving Repr, DecidableEq

/-- A color as a program asks for it. -/
inductive Color where
  /-- Whatever the display uses where nothing was asked for. -/
  | unset
  /-- An entry of the palette. -/
  | indexed (index : UInt8)
  /-- A color by its parts. -/
  | direct (rgb : Rgb)
  deriving Repr, DecidableEq

instance : Inhabited Color := ⟨.unset⟩

namespace Rgb

/-- The sixteen named colors. -/
def named : List Rgb := [
  ⟨0, 0, 0⟩, ⟨205, 0, 0⟩, ⟨0, 205, 0⟩, ⟨205, 205, 0⟩,
  ⟨0, 0, 238⟩, ⟨205, 0, 205⟩, ⟨0, 205, 205⟩, ⟨229, 229, 229⟩,
  ⟨127, 127, 127⟩, ⟨255, 0, 0⟩, ⟨0, 255, 0⟩, ⟨255, 255, 0⟩,
  ⟨92, 92, 255⟩, ⟨255, 0, 255⟩, ⟨0, 255, 255⟩, ⟨255, 255, 255⟩]

/-- The brightness of a step of the color cube: steps of 40 above a first step
of 95. -/
def cubeLevel (step : Nat) : UInt8 :=
  if step = 0 then 0 else UInt8.ofNat (55 + 40 * step)

/-- The color that an index has at first: the named colors, then a cube of six
steps a side, then a ramp of grays. -/
def ofIndex (index : Nat) : Rgb :=
  if index < 16 then named.getD index ⟨0, 0, 0⟩
  else if index < 232 then
    let cube := index - 16
    ⟨cubeLevel (cube / 36), cubeLevel (cube / 6 % 6), cubeLevel (cube % 6)⟩
  else
    let gray := UInt8.ofNat (8 + 10 * (index - 232))
    ⟨gray, gray, gray⟩

end Rgb

end Teletype

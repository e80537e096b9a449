import Teletype.Color

/-!
# The palette

What the indexed colors and the three dynamic ones look like at the moment.
-/

namespace Teletype

/-- A color that stands outside the indexed ones. -/
inductive DynamicColor where
  | foreground
  | background
  | cursor
  deriving Repr, DecidableEq

/-- The colors on display. -/
structure Palette where
  indexed : Vector Rgb 256
  foreground : Rgb
  background : Rgb
  cursor : Rgb
  deriving DecidableEq

namespace Palette

/-- The color a dynamic color has at first. -/
def initialDynamic : DynamicColor → Rgb
  | .background => ⟨0, 0, 0⟩
  | .foreground | .cursor => ⟨229, 229, 229⟩

/-- The indexed colors as they are at first. -/
def initialIndexed : Vector Rgb 256 :=
  Vector.ofFn fun i => Rgb.ofIndex i.val

/-- The palette that no program has changed. -/
def initial : Palette where
  indexed := initialIndexed
  foreground := initialDynamic .foreground
  background := initialDynamic .background
  cursor := initialDynamic .cursor

/-- The color of an index. -/
def get (p : Palette) (index : UInt8) : Rgb :=
  have h : index.toNat < 256 := index.toNat_lt
  p.indexed[index.toNat]

/-- Changes the color of an index; an index past the last one names none. -/
def set (p : Palette) (index : Nat) (color : Rgb) : Palette :=
  { p with indexed := p.indexed.setIfInBounds index color }

/-- Gives an index its first color back. -/
def restore (p : Palette) (index : Nat) : Palette :=
  p.set index (Rgb.ofIndex index)

/-- A dynamic color as it is. -/
def dynamic (p : Palette) : DynamicColor → Rgb
  | .foreground => p.foreground
  | .background => p.background
  | .cursor => p.cursor

/-- Changes a dynamic color. -/
def setDynamic (p : Palette) (which : DynamicColor) (color : Rgb) : Palette :=
  match which with
  | .foreground => { p with foreground := color }
  | .background => { p with background := color }
  | .cursor => { p with cursor := color }

/-- What a color of a cell looks like, as ink or as paper. -/
def resolve (p : Palette) (color : Color) (ink : Bool) : Rgb :=
  match color with
  | .unset => if ink then p.foreground else p.background
  | .indexed index => p.get index
  | .direct rgb => rgb

/-- Changing an index leaves every other index alone. -/
theorem get_set_of_ne {p : Palette} {index : Nat} {color : Rgb} {other : UInt8}
    (h : other.toNat ≠ index) : (p.set index color).get other = p.get other := by
  simp only [get, set]
  rw [Vector.getElem_setIfInBounds]
  simp [Ne.symm h]

@[simp] theorem dynamic_set {p : Palette} {index : Nat} {color : Rgb} {which : DynamicColor} :
    (p.set index color).dynamic which = p.dynamic which := by
  cases which <;> rfl

end Palette

end Teletype

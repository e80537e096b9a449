import Teletype.Color
import Teletype.Text.Numeral
import Teletype.Text.Split

/-!
# Color names

Programs name a color by its parts: `rgb:R/G/B` with one to four digits a part,
or `#` and three parts of equal length. A part of `n` digits is a fraction of
the largest number of `n` digits, and the byte shown is that fraction of 255,
rounded down.

Lengths are counted in bytes of UTF-8, and a part is read as a numeral, so a
sign `+` may stand for its first digit.
-/

namespace Teletype.Rgb

open Text

/-- The bytes that a text takes. -/
def utf8Length (s : List Char) : Nat :=
  s.foldr (fun c size => c.utf8Size + size) 0

/-- The brightness that a part names. -/
def channel? (hex : List Char) : Option UInt8 :=
  let size := utf8Length hex
  if size = 0 || size > 4 then none
  else
    match Numeral.unsigned? 16 hex with
    | some value => some (UInt8.ofNat (value * 255 / (Nat.pow 16 size - 1)))
    | none => none

/-- The color of three parts. -/
def ofChannels? (red green blue : List Char) : Option Rgb := do
  some ⟨← channel? red, ← channel? green, ← channel? blue⟩

/-- The color that a name stands for. -/
def ofSpec? : List Char → Option Rgb
  | 'r' :: 'g' :: 'b' :: ':' :: parts =>
    match fields '/' parts with
    | [red, green, blue] => ofChannels? red green blue
    | _ => none
  | '#' :: hex =>
    let size := hex.length / 3
    if hex.isEmpty || hex.length % 3 ≠ 0 || !hex.all (·.toNat < 0x80) then none
    else ofChannels? (hex.take size) ((hex.drop size).take size) (hex.drop (2 * size))
  | _ => none

end Teletype.Rgb

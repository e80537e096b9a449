import Teletype.Text.Numeral
import Teletype.Text.Utf8

/-!
# Key input

A key that was pressed reaches the program as the UTF-8 of its character, with
`ESC` in front where it was pressed together with Alt.
-/

namespace Teletype

/-- A number that names no character. -/
structure InvalidCodePoint where
  codePoint : Nat
  deriving Repr, DecidableEq

/-- How the error is told. -/
def InvalidCodePoint.message (e : InvalidCodePoint) : String :=
  "Invalid code point: 0x" ++ Text.Numeral.upperHex e.codePoint

namespace KeyInput

/-- The byte in front of a key that was pressed together with Alt. -/
def escapeByte : UInt8 := 0x1B

/-- The bytes of a key. -/
def encode (escape : Bool) (codePoint : Nat) : Except InvalidCodePoint (List UInt8) :=
  match Text.scalar? codePoint with
  | some c => .ok ((if escape then [escapeByte] else []) ++ Text.Utf8.encode c.toString)
  | none => .error ⟨codePoint⟩

end KeyInput

end Teletype

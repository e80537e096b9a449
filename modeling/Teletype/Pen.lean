import Teletype.Color

/-!
# Pens

The colors and attributes that are stamped onto every character as it is
printed.
-/

namespace Teletype

/-- How the ink is drawn. -/
structure Style where
  bold : Bool := false
  faint : Bool := false
  italic : Bool := false
  underline : Bool := false
  blink : Bool := false
  inverse : Bool := false
  hidden : Bool := false
  strikethrough : Bool := false
  deriving Repr, DecidableEq, Inhabited

/-- What a character is drawn with. -/
structure Pen where
  fg : Color := .unset
  bg : Color := .unset
  style : Style := {}
  deriving Repr, DecidableEq, Inhabited

/-- Whether nothing was asked of the pen. -/
def Pen.isPlain (pen : Pen) : Bool :=
  pen = {}

end Teletype

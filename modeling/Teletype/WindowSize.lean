/-!
# Window sizes

The size of a window as its program is told, in cells and in pixels.
-/

namespace Teletype

/-- The size of a window. -/
structure WindowSize where
  cols : UInt16
  rows : UInt16
  pixelWidth : UInt16 := 0
  pixelHeight : UInt16 := 0
  deriving Repr, DecidableEq

namespace WindowSize

/-- A size of at least one cell each way. Zero pixels are an unknown number. -/
def ofCells (cols rows : UInt16) (pixelWidth pixelHeight : UInt16 := 0) : WindowSize :=
  { cols := max cols 1, rows := max rows 1, pixelWidth, pixelHeight }

/-- The size of a window that was given none. -/
def standard : WindowSize :=
  ofCells 80 24

end WindowSize

end Teletype

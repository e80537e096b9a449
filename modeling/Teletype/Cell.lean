import Teletype.Pen
import Teletype.Text.Width

/-!
# Cells

One position of the grid. A character of two columns fills two cells: its head
holds the text and the cell to the right is its tail, which holds none.
-/

namespace Teletype

/-- One position of the grid. -/
structure Cell where
  /-- The character and the marks that combine with it; empty where nothing was
  printed, and in a tail. -/
  content : String := ""
  pen : Pen := {}
  /-- Whether this is the right half of the character to the left. -/
  tail : Bool := false
  deriving Repr, DecidableEq, Inhabited

namespace Cell

/-- The cell that nothing was printed in. -/
abbrev blank : Cell := {}

/-- A character drawn with a pen. -/
def written (c : Char) (pen : Pen) : Cell :=
  { content := c.toString, pen }

/-- The right half of a character drawn with a pen. -/
def wideTail (pen : Pen) : Cell :=
  { pen, tail := true }

/-- What erasing leaves: no text, on paper of the color given. -/
def erased (bg : Color) : Cell :=
  { pen := { bg } }

/-- Whether the cell holds no text of its own. -/
def isEmpty (c : Cell) : Bool :=
  c.content.isEmpty

/-- Whether nothing of the cell shows: no text, no half of a character, and no
paper of its own. -/
def isBlank (c : Cell) : Bool :=
  c.content.isEmpty && !c.tail && c.pen.bg = .unset

/-- The columns the content takes. -/
def width (c : Cell) : Nat :=
  Text.stringWidth c.content

/-- Adds a mark to the content; a cell without content takes none. -/
def combine (c : Cell) (mark : Char) : Cell :=
  if c.content.isEmpty then c else { c with content := c.content.push mark }

/-- The text a reader sees; a cell without content reads as a space. -/
def shown (c : Cell) : String :=
  if c.content.isEmpty then " " else c.content

@[simp] theorem isBlank_blank : blank.isBlank = true := rfl

@[simp] theorem isBlank_wideTail (pen : Pen) : (wideTail pen).isBlank = false := by
  simp [wideTail, isBlank]

end Cell

end Teletype

import Teletype.Palette

/-!
# Control sequences

What the bytes of a program come to: printed characters, control characters,
and sequences. A sequence is kept as it was sent; what it does to the screen is
not said here.
-/

namespace Teletype

/-- The parameters of a control sequence past this count are dropped. -/
def maxParameters : Nat := 32

/-- A parameter together with the sub-parameters that follow it. -/
structure ParameterGroup where
  head : UInt16
  subs : List UInt16 := []
  deriving Repr, DecidableEq

/-- A sequence `ESC [` marker parameters intermediates final. -/
structure Csi where
  /-- The parameters in order; an omitted one reads 0. -/
  params : List UInt16 := []
  /-- For each parameter, whether it followed a colon and so belongs to the one
  before it. -/
  subparams : List Bool := []
  /-- The bytes before the final one, from space to `/`. -/
  intermediates : List UInt8 := []
  /-- One of `?`, `>`, `<` and `=`, right behind the introducer. -/
  marker : Option UInt8 := none
  final : UInt8
  deriving Repr, DecidableEq

namespace Csi

/-- A parameter, or what stands for it when it was not sent. -/
def param (c : Csi) (index : Nat) (default : UInt16) : UInt16 :=
  c.params.getD index default

/-- A parameter where 0 counts as not sent. -/
def paramOr (c : Csi) (index : Nat) (default : UInt16) : UInt16 :=
  if c.param index 0 = 0 then default else c.param index 0

/-- Whether a parameter belongs to the one before it. -/
def isSubparam (c : Csi) (index : Nat) : Bool :=
  c.subparams.getD index false

/-- Whether the sequence is one of the private ones. -/
def isPrivate (c : Csi) : Bool :=
  c.marker = some 0x3F

/-- The final byte as a letter. -/
def command (c : Csi) : Char :=
  Char.ofNat c.final.toNat

/-- Sub-parameters that belong to the parameter before the list, and the groups
behind them. -/
def regroup : List (UInt16 × Bool) → List UInt16 × List ParameterGroup
  | [] => ([], [])
  | (p, isSub) :: rest =>
    let (subs, groups) := regroup rest
    if isSub then (p :: subs, groups) else ([], ⟨p, subs⟩ :: groups)

/-- The parameters, each with its sub-parameters. The first one begins a group
whatever is said of it. -/
def groups (c : Csi) : List ParameterGroup :=
  match c.params.zipIdx.map fun (p, i) => (p, c.isSubparam i) with
  | [] => []
  | (p, _) :: rest =>
    let (subs, groups) := regroup rest
    ⟨p, subs⟩ :: groups

end Csi

/-- A sequence of `ESC` and few bytes. -/
inductive Escape where
  | saveCursor
  | restoreCursor
  | index
  | reverseIndex
  | nextLine
  | setTab
  | fullReset
  | applicationKeypad
  | normalKeypad
  | alignmentTest
  /-- Selects a character set. -/
  | designateCharset (slot charset : UInt8)
  /-- The end of a string, where none was open. -/
  | stringTerminator
  /-- Any other sequence, without its `ESC`. -/
  | unknown (bytes : List UInt8)
  deriving Repr, DecidableEq

/-- A command to the terminal as a whole. -/
inductive Osc where
  | setTitle (title : String)
  | setIconName (name : String)
  /-- New colors for indices of the palette. -/
  | setColor (entries : List (UInt16 × String))
  | setDynamicColor (which : DynamicColor) (spec : String)
  /-- First colors for these indices, or for all of them if there are none. -/
  | resetColor (indices : List UInt16)
  | resetDynamicColor (which : DynamicColor)
  | clipboard (selection data : String)
  | unknown (command : UInt32) (data : String)
  deriving Repr, DecidableEq

/-- What one or more bytes come to. -/
inductive Action where
  | print (c : Char)
  /-- A control character. -/
  | execute (byte : UInt8)
  | csi (sequence : Csi)
  | escape (sequence : Escape)
  | osc (command : Osc)
  deriving Repr, DecidableEq

end Teletype

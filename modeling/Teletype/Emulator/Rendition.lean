import Teletype.Pen
import Teletype.Sequence

/-!
# Graphic rendition

What the parameters of a rendition sequence make of a pen. Each group of
parameters selects one thing, except that 38 and 48 select a color: with colons
the color stands in the group itself, with semicolons in the groups behind it,
which are used up even if they name no color.
-/

namespace Teletype.Pen

/-- The part of a color, at most 255. -/
def part (n : UInt16) : UInt8 :=
  UInt8.ofNat (min n.toNat 255)

/-- The color of three parts. -/
def directColor (red green blue : UInt16) : Color :=
  .direct ⟨part red, part green, part blue⟩

/-- The color of an index, if the palette has it. -/
def indexedColor? (index : UInt16) : Option Color :=
  if index ≤ 255 then some (.indexed index.toUInt8) else none

/-- The color that sub-parameters name. Between the 2 and the three parts there
may be one more parameter, which says nothing. -/
def colonColor? : List UInt16 → Option Color
  | kind :: rest =>
    if kind = 5 then
      match rest with
      | index :: _ => indexedColor? index
      | [] => none
    else if kind = 2 then
      match rest with
      | _ :: red :: green :: blue :: _ => some (directColor red green blue)
      | [red, green, blue] => some (directColor red green blue)
      | _ => none
    else none
  | [] => none

/-- The color that the parameters behind a selector name, and how many of them
are used up. -/
def semicolonColor : List UInt16 → Option Color × Nat
  | [] => (none, 0)
  | kind :: rest =>
    if kind = 5 then
      match rest with
      | index :: _ => (indexedColor? index, 2)
      | [] => (none, 1)
    else if kind = 2 then
      match rest with
      | red :: green :: blue :: _ => (some (directColor red green blue), 4)
      | _ => (none, rest.length + 1)
    else (none, 1)

/-- The color that a selector names, and how many of the groups behind it are
used up. -/
def selectedColor (group : ParameterGroup) (rest : List ParameterGroup) : Option Color × Nat :=
  if group.subs.isEmpty then semicolonColor (rest.map (·.head)) else (colonColor? group.subs, 0)

/-- Changes the style. -/
def mapStyle (pen : Pen) (f : Style → Style) : Pen :=
  { pen with style := f pen.style }

/-- The color of an index counted from a base. -/
def indexFrom (base n : Nat) : Color :=
  .indexed (UInt8.ofNat (n - base))

/-- What a parameter other than 38 and 48 makes of a pen. -/
def select (pen : Pen) (n : Nat) : Pen :=
  match n with
  | 0 => {}
  | 1 => pen.mapStyle fun s => { s with bold := true }
  | 2 => pen.mapStyle fun s => { s with faint := true }
  | 3 => pen.mapStyle fun s => { s with italic := true }
  | 4 => pen.mapStyle fun s => { s with underline := true }
  | 5 | 6 => pen.mapStyle fun s => { s with blink := true }
  | 7 => pen.mapStyle fun s => { s with inverse := true }
  | 8 => pen.mapStyle fun s => { s with hidden := true }
  | 9 => pen.mapStyle fun s => { s with strikethrough := true }
  | 22 => pen.mapStyle fun s => { s with bold := false, faint := false }
  | 23 => pen.mapStyle fun s => { s with italic := false }
  | 24 => pen.mapStyle fun s => { s with underline := false }
  | 25 => pen.mapStyle fun s => { s with blink := false }
  | 27 => pen.mapStyle fun s => { s with inverse := false }
  | 28 => pen.mapStyle fun s => { s with hidden := false }
  | 29 => pen.mapStyle fun s => { s with strikethrough := false }
  | 39 => { pen with fg := .unset }
  | 49 => { pen with bg := .unset }
  | n =>
    if 30 ≤ n && n ≤ 37 then { pen with fg := indexFrom 30 n }
    else if 40 ≤ n && n ≤ 47 then { pen with bg := indexFrom 40 n }
    else if 90 ≤ n && n ≤ 97 then { pen with fg := indexFrom 82 n }
    else if 100 ≤ n && n ≤ 107 then { pen with bg := indexFrom 92 n }
    else pen

/-- What groups of parameters make of a pen. -/
def selectAll (pen : Pen) : List ParameterGroup → Pen
  | [] => pen
  | group :: rest =>
    if group.head = 38 then
      let (color, used) := selectedColor group rest
      selectAll { pen with fg := color.getD pen.fg } (rest.drop used)
    else if group.head = 48 then
      let (color, used) := selectedColor group rest
      selectAll { pen with bg := color.getD pen.bg } (rest.drop used)
    else selectAll (pen.select group.head.toNat) rest
  termination_by groups => groups.length
  decreasing_by all_goals simp only [List.length_cons, List.length_drop]; omega

/-- What a rendition sequence makes of a pen. Without parameters it asks for
the plain pen. -/
def rendered (pen : Pen) (c : Csi) : Pen :=
  if c.params.isEmpty then {} else pen.selectAll c.groups

end Teletype.Pen

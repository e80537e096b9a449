import Teletype.Color.Spec
import Teletype.Emulator.Basic
import Teletype.Text.Base64

/-!
# Carrying out commands to the terminal as a whole

Titles, colors and the clipboard. A host hears of each change once.
-/

namespace Teletype.Emulator

open Text

/-- Changes the title; the same title again is no change. -/
def setTitle (e : Emulator) (title : String) : Emulator :=
  if title = e.title then e else { e with title }.emit (.titleChanged e.title title)

/-- The palette with new colors for the entries whose index it has and whose
name is a color, and whether there was one. -/
def recolor (p : Palette) (entries : List (UInt16 × String)) : Palette × Bool :=
  entries.foldl
    (fun (p, changed) (index, spec) =>
      if index.toNat < 256 then
        match Rgb.ofSpec? spec.toList with
        | some color => (p.set index.toNat color, true)
        | none => (p, changed)
      else (p, changed))
    (p, false)

/-- The palette with first colors for these indices, or for all of them if there
are none. -/
def restoreColors (p : Palette) (indices : List UInt16) : Palette :=
  if indices.isEmpty then { p with indexed := Palette.initialIndexed }
  else indices.foldl (fun p index => p.restore index.toNat) p

/-- The text for the clipboard that a payload holds. A question is not
answered. -/
def clipboardText? (data : String) : Option String :=
  if data = "?" then none else (Base64.decode data.toList).map Utf8.decode

/-- Carries out a command. -/
def command (e : Emulator) : Osc → Emulator
  | .setTitle title => e.setTitle title
  | .setIconName _ => e
  | .setColor entries =>
    let (palette, changed) := recolor e.palette entries
    if changed then { e with palette }.emit .colorsChanged else e
  | .setDynamicColor which spec =>
    match Rgb.ofSpec? spec.toList with
    | some color => { e with palette := e.palette.setDynamic which color }.emit .colorsChanged
    | none => e
  | .resetColor indices =>
    { e with palette := restoreColors e.palette indices }.emit .colorsChanged
  | .resetDynamicColor which =>
    let palette := e.palette.setDynamic which (Palette.initialDynamic which)
    { e with palette }.emit .colorsChanged
  | .clipboard _ data =>
    match clipboardText? data with
    | some text => e.emit (.clipboard text)
    | none => e
  | .unknown .. => e

end Teletype.Emulator

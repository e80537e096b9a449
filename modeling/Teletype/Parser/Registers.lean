import Teletype.Parser

/-!
# A parser with registers

The parser as a machine of fixed parts: the place where it stands, and registers
that every kind of sequence uses for what it reads. A sequence sets the registers
that it needs when it begins. When it is over, or given up, they keep what they hold
until they are set again, so that most of the time some of them hold what means
nothing any more.

`Parser` is what is left of the machine without that.
-/

namespace Teletype

open Text

/-- What is asked of a parser. -/
inductive Parser.Call where
  | parse (bytes : List UInt8)
  /-- To drop what is half read. -/
  | reset

/-- What the machine takes the next byte for. -/
inductive Registers.Place where
  | ground
  | escape
  | escapeIntermediate
  | csiEntry
  | csiParameters
  | csiIntermediates
  | csiIgnored
  | command
  | skippedString
  deriving Repr, DecidableEq

/-- The parts of the machine. -/
structure Registers where
  place : Registers.Place := .ground
  /-- What was read of a sequence, of a short one the intermediates. -/
  draft : CsiDraft := {}
  /-- What was read of a command. -/
  payload : Array UInt8 := #[]
  /-- Whether the command grew too long. -/
  overlong : Bool := false
  /-- Whether the last `ESC` ended a string. -/
  endsString : Bool := false
  /-- The bytes of a character, of which the first `held` count. -/
  buffer : Array UInt8 := .replicate 4 0
  held : Nat := 0
  /-- How many bytes of the character are to come. -/
  awaited : Nat := 0
  deriving Repr, DecidableEq

namespace Registers

/-- What a step leaves: the machine and what the byte came to. -/
abbrev Step := Registers × List Action

/-- A machine that has read nothing. -/
def fresh : Registers := {}

/-- Drops what is half read. -/
def reset (m : Registers) : Registers :=
  { m with
    place := .ground
    draft := {}
    payload := #[]
    overlong := false
    endsString := false
    held := 0
    awaited := 0 }

/-- Whether nothing is half read. -/
def isGround (m : Registers) : Bool :=
  m.place = .ground && m.awaited = 0

/-! ## Bytes below space -/

/-- Carries out the command that was read. -/
def closeCommand (m : Registers) : Step :=
  ({ m with payload := #[], overlong := false }, Parser.closeCommand m.payload m.overlong)

/-- Reads `ESC`. -/
def escapeByte (m : Registers) : Step :=
  match m.place with
  | .command =>
    let (m, actions) := m.closeCommand
    ({ m with place := .escape, endsString := true, draft := {} }, actions)
  | .skippedString => ({ m with place := .escape, endsString := true, draft := {} }, [])
  | _ => ({ m with place := .escape, endsString := false, draft := {} }, [])

/-- Reads a byte below space. -/
def control (m : Registers) (byte : UInt8) : Step :=
  if byte = 0x18 || byte = 0x1A then ({ m with place := .ground }, [])
  else if byte = 0x1B then m.escapeByte
  else
    match m.place with
    | .command =>
      if byte = 0x07 then
        let (m, actions) := m.closeCommand
        ({ m with place := .ground }, actions)
      else (m, [])
    | .skippedString => (m, [])
    | _ => (m, [.execute byte])

/-! ## Characters -/

/-- Begins a character of so many more bytes. -/
def beginCharacter (m : Registers) (byte : UInt8) (awaited : Nat) : Registers :=
  { m with buffer := m.buffer.setIfInBounds 0 byte, held := 1, awaited }

/-- Reads a byte outside any sequence. -/
def groundByte (m : Registers) (byte : UInt8) : Step :=
  let n := byte.toNat
  if n < 0x7F then (m, [.print (Char.ofNat n)])
  else if n = 0x7F then (m, [])
  else if 0xC2 ≤ n && n ≤ 0xDF then (m.beginCharacter byte 1, [])
  else if 0xE0 ≤ n && n ≤ 0xEF then (m.beginCharacter byte 2, [])
  else if 0xF0 ≤ n && n ≤ 0xF4 then (m.beginCharacter byte 3, [])
  else (m, [.print replacement])

/-- The first character of bytes, if they are text. -/
def character (bytes : List UInt8) : Char :=
  ((String.fromUTF8? bytes.toByteArray).bind (·.toList.head?)).getD replacement

/-- Reads a continuation byte inside a character. -/
def continuation (m : Registers) (byte : UInt8) : Step :=
  let buffer := m.buffer.setIfInBounds m.held byte
  let held := m.held + 1
  let awaited := m.awaited - 1
  if awaited = 0 then
    ({ m with buffer, held := 0, awaited }, [.print (character (buffer.toList.take held))])
  else ({ m with buffer, held, awaited }, [])

/-! ## Sequences -/

/-- Reads a byte behind `ESC`. -/
def behindEscape (m : Registers) (byte : UInt8) : Step :=
  let endsString := m.endsString
  let m := { m with endsString := false }
  let n := byte.toNat
  if n < 0x30 then
    ({ m with
      place := .escapeIntermediate
      draft.intermediates := m.draft.intermediates ++ [byte] }, [])
  else if n = 0x5B then ({ m with place := .csiEntry, draft := {} }, [])
  else if n = 0x5D then ({ m with place := .command, payload := #[], overlong := false }, [])
  else if n = 0x50 || n = 0x58 || n = 0x5E || n = 0x5F then
    ({ m with place := .skippedString }, [])
  else if n = 0x5C && endsString then ({ m with place := .ground }, [])
  else if n < 0x7F then
    ({ m with place := .ground },
      [.escape (Parser.shortSequence m.draft.intermediates byte)])
  else ({ m with place := .ground }, [])

/-- Reads a byte behind `ESC` and intermediates. -/
def behindIntermediates (m : Registers) (byte : UInt8) : Step :=
  let n := byte.toNat
  if n < 0x30 then
    ({ m with draft.intermediates := m.draft.intermediates ++ [byte] }, [])
  else if n < 0x7F then
    ({ m with place := .ground },
      [.escape (Parser.shortSequence m.draft.intermediates byte)])
  else ({ m with place := .ground }, [])

/-- Hands out the control sequence that was read. -/
def dispatch (m : Registers) (final : UInt8) : Step :=
  ({ m with place := .ground, draft := {} }, [.csi (m.draft.sequence final)])

/-- Reads a byte where parameters may stand. -/
def parameterByte (m : Registers) (byte : UInt8) : Step :=
  let n := byte.toNat
  if n < 0x30 then
    ({ m with
      place := .csiIntermediates
      draft := { m.draft.close with intermediates := m.draft.intermediates ++ [byte] } }, [])
  else if n < 0x3A then ({ m with draft := m.draft.digit (n - 0x30) }, [])
  else if n = 0x3A then ({ m with draft := m.draft.separate true }, [])
  else if n = 0x3B then ({ m with draft := m.draft.separate false }, [])
  else if 0x40 ≤ n && n < 0x7F then { m with draft := m.draft.close }.dispatch byte
  else ({ m with place := .csiIgnored }, [])

/-- Reads a byte behind `ESC [`. -/
def entryByte (m : Registers) (byte : UInt8) : Step :=
  let m := { m with place := .csiParameters }
  if 0x3C ≤ byte && byte ≤ 0x3F then ({ m with draft.marker := some byte }, [])
  else m.parameterByte byte

/-- Reads a byte behind the intermediates of a control sequence. -/
def intermediateByte (m : Registers) (byte : UInt8) : Step :=
  let n := byte.toNat
  if n < 0x30 then
    ({ m with draft.intermediates := m.draft.intermediates ++ [byte] }, [])
  else if 0x40 ≤ n && n < 0x7F then m.dispatch byte
  else ({ m with place := .csiIgnored }, [])

/-- Reads a byte of a sequence that is not well formed. -/
def ignoredByte (m : Registers) (byte : UInt8) : Step :=
  if 0x40 ≤ byte && byte < 0x7F then ({ m with place := .ground }, []) else (m, [])

/-- Reads a byte of a command. -/
def commandByte (m : Registers) (byte : UInt8) : Step :=
  if m.payload.size < Parser.maxPayload then ({ m with payload := m.payload.push byte }, [])
  else ({ m with overlong := true }, [])

/-! ## The machine -/

/-- Reads a byte from space on, outside a character. -/
def visible (m : Registers) (byte : UInt8) : Step :=
  match m.place with
  | .ground => m.groundByte byte
  | .escape => m.behindEscape byte
  | .escapeIntermediate => m.behindIntermediates byte
  | .csiEntry => m.entryByte byte
  | .csiParameters => m.parameterByte byte
  | .csiIntermediates => m.intermediateByte byte
  | .csiIgnored => m.ignoredByte byte
  | .command => m.commandByte byte
  | .skippedString => (m, [])

/-- Reads a byte outside a character. -/
def plainByte (m : Registers) (byte : UInt8) : Step :=
  if byte < 0x20 then m.control byte else m.visible byte

/-- Reads a byte. One that does not continue the character being read ends it with
a replacement. -/
def step (m : Registers) (byte : UInt8) : Step :=
  if 0 < m.awaited then
    if 0x80 ≤ byte && byte ≤ 0xBF then m.continuation byte
    else
      let (next, actions) := { m with held := 0, awaited := 0 }.plainByte byte
      (next, .print replacement :: actions)
  else m.plainByte byte

/-- Reads bytes. -/
def feed (m : Registers) : List UInt8 → Step
  | [] => (m, [])
  | byte :: rest =>
    let (next, actions) := m.step byte
    let (last, more) := next.feed rest
    (last, actions ++ more)

/-- Does what is asked for. -/
def call (m : Registers) : Parser.Call → Step
  | .parse bytes => m.feed bytes
  | .reset => (m.reset, [])

/-- Does what is asked for, in turn. -/
def run (m : Registers) : List Parser.Call → Step
  | [] => (m, [])
  | call :: rest =>
    let (next, actions) := m.call call
    let (last, more) := next.run rest
    (last, actions ++ more)

end Registers

end Teletype

import Teletype.Osc

/-!
# Parsing control sequences

A machine that takes one byte at a time and says what it comes to. Its state
says where in a sequence it stands and keeps what was read of the sequence,
nothing else: at `ground` nothing is half read. So a stream may be cut into
pieces anywhere (`feed_append`), and dropping what is half read is going to
`ground`.

Bytes that make no sense are dropped. The bytes below space act alike almost
everywhere: `CAN` and `SUB` end a sequence, `ESC` begins a new one, and the
others are carried out at once, except inside a string.
-/

namespace Teletype

open Text

/-- What was read of a control sequence. -/
structure CsiDraft where
  marker : Option UInt8 := none
  /-- The parameters that are complete, with the mark of a sub-parameter. -/
  done : List (UInt16 × Bool) := []
  /-- The value of the parameter being read. -/
  value : Nat := 0
  /-- Whether there is a parameter being read. -/
  started : Bool := false
  /-- Whether it follows a colon. -/
  isSub : Bool := false
  intermediates : List UInt8 := []
  deriving Repr, DecidableEq

/-- Where in its input a parser stands. -/
inductive Parser where
  | ground
  /-- Inside a character: the bits read, the bytes to come, and the least code
  point that takes so many bytes. -/
  | character (bits left least : Nat)
  /-- Behind `ESC`. The flag says whether that byte ended a string. -/
  | escape (endsString : Bool)
  | escapeIntermediate (intermediates : List UInt8)
  /-- Behind `ESC [`. -/
  | csiEntry
  | csiParameters (draft : CsiDraft)
  | csiIntermediates (draft : CsiDraft)
  /-- In a control sequence that is not well formed. -/
  | csiIgnored
  /-- In a command to the terminal as a whole. The flag says that it grew too
  long. -/
  | command (payload : Array UInt8) (overlong : Bool)
  /-- In a string of a kind that is skipped. -/
  | skippedString
  deriving Repr, DecidableEq

namespace CsiDraft

/-- The largest value of a parameter. -/
def maxValue : Nat := 65535

/-- Reads a digit. -/
def digit (d : CsiDraft) (n : Nat) : CsiDraft :=
  { d with value := min (d.value * 10 + n) maxValue, started := true }

/-- Completes the parameter being read. -/
def finish (d : CsiDraft) : CsiDraft :=
  { d with
    done :=
      if d.done.length < maxParameters then d.done ++ [(UInt16.ofNat d.value, d.isSub)] else d.done
    value := 0
    started := false
    isSub := false }

/-- Reads a separator, behind which there is a parameter. -/
def separate (d : CsiDraft) (isSub : Bool) : CsiDraft :=
  { d.finish with started := true, isSub }

/-- Completes the last parameter, if there is one. -/
def close (d : CsiDraft) : CsiDraft :=
  if d.started then d.finish else d

/-- The sequence that ends with `final`. -/
def sequence (d : CsiDraft) (final : UInt8) : Csi :=
  { params := d.done.map (·.1)
    subparams := d.done.map (·.2)
    intermediates := d.intermediates
    marker := d.marker
    final }

end CsiDraft

namespace Parser

/-- The longest payload of a command that is kept. -/
def maxPayload : Nat := 65536

/-- What a step leaves: where the parser stands and what the byte came to. -/
abbrev Step := Parser × List Action

/-! ## Bytes below space -/

/-- What the end of a command comes to. -/
def closeCommand (payload : Array UInt8) (overlong : Bool) : List Action :=
  if overlong then []
  else
    match Osc.ofBytes? payload.toList with
    | some osc => [.osc osc]
    | none => []

/-- Reads `ESC`. Inside a string it is the first half of its terminator. -/
def escapeByte : Parser → Step
  | .command payload overlong => (.escape true, closeCommand payload overlong)
  | .skippedString => (.escape true, [])
  | _ => (.escape false, [])

/-- Reads a byte below space. -/
def control (p : Parser) (byte : UInt8) : Step :=
  if byte = 0x18 || byte = 0x1A then (.ground, [])
  else if byte = 0x1B then p.escapeByte
  else
    match p with
    | .command payload overlong =>
      if byte = 0x07 then (.ground, closeCommand payload overlong) else (p, [])
    | .skippedString => (p, [])
    | _ => (p, [.execute byte])

/-! ## Characters -/

/-- Reads a byte outside any sequence. -/
def groundByte (byte : UInt8) : Step :=
  let n := byte.toNat
  if n < 0x7F then (.ground, [.print (Char.ofNat n)])
  else if n = 0x7F then (.ground, [])
  else if 0xC2 ≤ n && n ≤ 0xDF then (.character (n - 0xC0) 1 0x80, [])
  else if 0xE0 ≤ n && n ≤ 0xEF then (.character (n - 0xE0) 2 0x800, [])
  else if 0xF0 ≤ n && n ≤ 0xF4 then (.character (n - 0xF0) 3 0x10000, [])
  else (.ground, [.print replacement])

/-- The character of so many bits, if it needed so many bytes. -/
def completed (bits least : Nat) : Char :=
  if bits < least then replacement else (scalar? bits).getD replacement

/-- Reads a continuation byte inside a character. -/
def continuation (bits left least : Nat) (byte : UInt8) : Step :=
  let bits := bits * 64 + (byte.toNat - 0x80)
  if left ≤ 1 then (.ground, [.print (completed bits least)])
  else (.character bits (left - 1) least, [])

/-! ## Short sequences -/

/-- The sequence of intermediates and a final byte. -/
def shortSequence (intermediates : List UInt8) (final : UInt8) : Escape :=
  match intermediates, Char.ofNat final.toNat with
  | [], '7' => .saveCursor
  | [], '8' => .restoreCursor
  | [], 'D' => .index
  | [], 'M' => .reverseIndex
  | [], 'E' => .nextLine
  | [], 'H' => .setTab
  | [], 'c' => .fullReset
  | [], '=' => .applicationKeypad
  | [], '>' => .normalKeypad
  | [], '\\' => .stringTerminator
  | [slot], c =>
    if slot = 0x23 && c = '8' then .alignmentTest
    else if 0x28 ≤ slot && slot ≤ 0x2B then .designateCharset slot final
    else .unknown [slot, final]
  | _, _ => .unknown (intermediates ++ [final])

/-- Reads a byte behind `ESC`. -/
def behindEscape (endsString : Bool) (byte : UInt8) : Step :=
  let n := byte.toNat
  if n < 0x30 then (.escapeIntermediate [byte], [])
  else if n = 0x5B then (.csiEntry, [])
  else if n = 0x5D then (.command #[] false, [])
  else if n = 0x50 || n = 0x58 || n = 0x5E || n = 0x5F then (.skippedString, [])
  else if n = 0x5C && endsString then (.ground, [])
  else if n < 0x7F then (.ground, [.escape (shortSequence [] byte)])
  else (.ground, [])

/-- Reads a byte behind `ESC` and intermediates. -/
def behindIntermediates (intermediates : List UInt8) (byte : UInt8) : Step :=
  let n := byte.toNat
  if n < 0x30 then (.escapeIntermediate (intermediates ++ [byte]), [])
  else if n < 0x7F then (.ground, [.escape (shortSequence intermediates byte)])
  else (.ground, [])

/-! ## Control sequences -/

/-- Reads a byte where parameters may stand. -/
def parameterByte (d : CsiDraft) (byte : UInt8) : Step :=
  let n := byte.toNat
  if n < 0x30 then
    (.csiIntermediates { d.close with intermediates := d.intermediates ++ [byte] }, [])
  else if n < 0x3A then (.csiParameters (d.digit (n - 0x30)), [])
  else if n = 0x3A then (.csiParameters (d.separate true), [])
  else if n = 0x3B then (.csiParameters (d.separate false), [])
  else if 0x40 ≤ n && n < 0x7F then (.ground, [.csi (d.close.sequence byte)])
  else (.csiIgnored, [])

/-- Reads a byte behind `ESC [`. -/
def entryByte (byte : UInt8) : Step :=
  if 0x3C ≤ byte && byte ≤ 0x3F then (.csiParameters { marker := some byte }, [])
  else parameterByte {} byte

/-- Reads a byte behind the intermediates of a control sequence. -/
def intermediateByte (d : CsiDraft) (byte : UInt8) : Step :=
  let n := byte.toNat
  if n < 0x30 then (.csiIntermediates { d with intermediates := d.intermediates ++ [byte] }, [])
  else if 0x40 ≤ n && n < 0x7F then (.ground, [.csi (d.sequence byte)])
  else (.csiIgnored, [])

/-- Reads a byte of a sequence that is not well formed. -/
def ignoredByte (byte : UInt8) : Step :=
  if 0x40 ≤ byte && byte < 0x7F then (.ground, []) else (.csiIgnored, [])

/-- Reads a byte of a command. -/
def commandByte (payload : Array UInt8) (overlong : Bool) (byte : UInt8) : Step :=
  if payload.size < maxPayload then (.command (payload.push byte) overlong, [])
  else (.command payload true, [])

/-! ## The machine -/

/-- Reads a byte from space on, outside a character. -/
def visible (byte : UInt8) : Parser → Step
  | .ground | .character .. => groundByte byte
  | .escape endsString => behindEscape endsString byte
  | .escapeIntermediate intermediates => behindIntermediates intermediates byte
  | .csiEntry => entryByte byte
  | .csiParameters d => parameterByte d byte
  | .csiIntermediates d => intermediateByte d byte
  | .csiIgnored => ignoredByte byte
  | .command payload overlong => commandByte payload overlong byte
  | .skippedString => (.skippedString, [])

/-- Reads a byte outside a character. -/
def plainByte (p : Parser) (byte : UInt8) : Step :=
  if byte < 0x20 then p.control byte else visible byte p

/-- Reads a byte. One that does not continue the character being read ends it
with a replacement. -/
def step (p : Parser) (byte : UInt8) : Step :=
  match p with
  | .character bits left least =>
    if 0x80 ≤ byte && byte ≤ 0xBF then continuation bits left least byte
    else
      let (next, actions) := plainByte .ground byte
      (next, .print replacement :: actions)
  | p => p.plainByte byte

/-- Whether nothing is half read. -/
def isGround : Parser → Bool
  | .ground => true
  | _ => false

/-- Reads bytes, adding to the actions so far. -/
def feedFrom (state : Parser × Array Action) (bytes : List UInt8) : Parser × Array Action :=
  bytes.foldl
    (fun (p, actions) byte => let (next, new) := p.step byte; (next, actions ++ new.toArray)) state

/-- Reads bytes. -/
def feed (p : Parser) (bytes : List UInt8) : Parser × List Action :=
  let (next, actions) := feedFrom (p, #[]) bytes
  (next, actions.toList)

/-- A byte from space on is no control character. -/
theorem plainByte_visible {byte : UInt8} (h : 0x20 ≤ byte.toNat) (p : Parser) :
    p.plainByte byte = visible byte p := by
  refine if_neg ?_
  rw [UInt8.lt_iff_toNat_lt]
  exact Nat.not_lt.mpr h

@[simp] theorem feed_nil (p : Parser) : p.feed [] = (p, []) := rfl

theorem feedFrom_eq (p : Parser) (actions : Array Action) (bytes : List UInt8) :
    feedFrom (p, actions) bytes =
      ((feedFrom (p, #[]) bytes).1, actions ++ (feedFrom (p, #[]) bytes).2) := by
  induction bytes generalizing p actions with
  | nil => simp [feedFrom]
  | cons byte rest ih =>
    simp only [feedFrom, List.foldl_cons] at ih ⊢
    rw [ih, ih (p.step byte).1 (#[] ++ (p.step byte).2.toArray)]
    simp [Array.append_assoc]

theorem feed_cons (p : Parser) (byte : UInt8) (bytes : List UInt8) :
    p.feed (byte :: bytes) =
      (((p.step byte).1.feed bytes).1, (p.step byte).2 ++ ((p.step byte).1.feed bytes).2) := by
  simp only [feed, feedFrom, List.foldl_cons]
  have h := feedFrom_eq (p.step byte).1 ((#[] : Array Action) ++ (p.step byte).2.toArray) bytes
  simp only [feedFrom] at h
  rw [h]
  simp

/-- **A stream may be cut anywhere.** -/
theorem feed_append (p : Parser) (xs ys : List UInt8) :
    p.feed (xs ++ ys) =
      (((p.feed xs).1.feed ys).1, (p.feed xs).2 ++ ((p.feed xs).1.feed ys).2) := by
  induction xs generalizing p with
  | nil => simp
  | cons byte rest ih => simp [feed_cons, ih]

end Parser

end Teletype

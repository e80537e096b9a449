/-!
# UTF-8

Characters as bytes and bytes as characters. `Utf8.encode` writes text;
`Utf8.decode` reads any bytes and never fails: it puts the replacement
character for every longest run of bytes that begins a character without
finishing it, and for every other byte that cannot stand where it is.

The decoder is a machine that takes one byte at a time, so that reading a text
in two pieces is reading it in one (`decodeFrom_append`).
-/

namespace Teletype.Text

/-- The character that stands for bytes which are no text. -/
def replacement : Char := '\uFFFD'

/-- The character with this code point, unless the number is a surrogate or too
large. -/
def scalar? (n : Nat) : Option Char :=
  if n.isValidChar then some (Char.ofNat n) else none

theorem scalar?_eq_none_iff {n : Nat} : scalar? n = none ↔ ¬ n.isValidChar := by
  unfold scalar?
  split <;> simp_all

theorem scalar?_toNat (c : Char) : scalar? c.toNat = some c := by
  have hvalid : c.toNat.isValidChar := c.valid
  rw [scalar?, if_pos hvalid, Char.ofNat_toNat]

theorem toNat_of_scalar? {n : Nat} {c : Char} (h : scalar? n = some c) : c.toNat = n := by
  unfold scalar? at h
  split at h
  · next hv =>
    cases h
    rw [Char.ofNat, dif_pos hv]
    rfl
  · simp at h

namespace Utf8

/-- The bytes of a text. -/
def encode (s : String) : List UInt8 :=
  s.toList.flatMap String.utf8EncodeChar

/-- A character that has begun: the bits read so far, how many bytes are to
come, and the range of the next one. -/
structure Partial where
  bits : Nat
  left : Nat
  low : Nat
  high : Nat
  deriving Repr, DecidableEq

/-- Reads the first byte of a character. The ranges of the second byte keep out
the overlong forms, the surrogates and everything above U+10FFFF. -/
def start (byte : Nat) : Option Partial × List Char :=
  if byte < 0x80 then (none, [Char.ofNat byte])
  else if byte < 0xC2 then (none, [replacement])
  else if byte < 0xE0 then (some ⟨byte - 0xC0, 1, 0x80, 0xBF⟩, [])
  else if byte = 0xE0 then (some ⟨0, 2, 0xA0, 0xBF⟩, [])
  else if byte = 0xED then (some ⟨0xD, 2, 0x80, 0x9F⟩, [])
  else if byte < 0xF0 then (some ⟨byte - 0xE0, 2, 0x80, 0xBF⟩, [])
  else if byte = 0xF0 then (some ⟨0, 3, 0x90, 0xBF⟩, [])
  else if byte < 0xF4 then (some ⟨byte - 0xF0, 3, 0x80, 0xBF⟩, [])
  else if byte = 0xF4 then (some ⟨4, 3, 0x80, 0x8F⟩, [])
  else (none, [replacement])

/-- Reads one byte. A byte that cannot go on ends the begun character with a
replacement and is read again as a first byte. -/
def step : Option Partial → UInt8 → Option Partial × List Char
  | none, byte => start byte.toNat
  | some p, byte =>
    if p.low ≤ byte.toNat && byte.toNat ≤ p.high then
      let bits := p.bits * 64 + (byte.toNat - 0x80)
      if p.left ≤ 1 then (none, [Char.ofNat bits])
      else (some ⟨bits, p.left - 1, 0x80, 0xBF⟩, [])
    else
      let (next, chars) := start byte.toNat
      (next, replacement :: chars)

/-- Reads bytes from inside a text, adding to the text read so far. -/
def decodeFrom (state : Option Partial × String) (bytes : List UInt8) : Option Partial × String :=
  bytes.foldl
    (fun (p, text) byte => let (next, chars) := step p byte; (next, chars.foldl String.push text))
    state

/-- **Two pieces read as one.** -/
theorem decodeFrom_append (state : Option Partial × String) (xs ys : List UInt8) :
    decodeFrom state (xs ++ ys) = decodeFrom (decodeFrom state xs) ys := by
  simp [decodeFrom]

/-- The text that the bytes hold, with a replacement character wherever they
hold none. -/
def decode (bytes : List UInt8) : String :=
  match decodeFrom (none, "") bytes with
  | (none, text) => text
  | (some _, text) => text.push replacement

end Utf8

end Teletype.Text

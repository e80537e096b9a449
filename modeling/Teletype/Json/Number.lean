import Teletype.Json.Basic
import Teletype.Json.Double

/-!
# What a number comes to

Of the digits of a number as many are kept as fit 64 bits, in the part before the
point and then in the part behind it. Digits that are not kept before the point
count as a power of ten, and behind the point they do not count. An integer that
is kept in full stays one; any other number is one of double precision, and must
be in its range.
-/

namespace Teletype.Json.Number

/-- The digits of a number below `10 ^ width`, with zeros in front up to `width`. -/
def digits (width n : Nat) : List Nat :=
  let digits := (Nat.toDigits 10 n).map fun c => c.toNat - '0'.toNat
  List.replicate (width - digits.length) 0 ++ digits

/-- Adds digits to a number of 64 bits while there is room, and counts those that
are left. -/
def keep : Nat → List Nat → Nat × Nat
  | kept, [] => (kept, 0)
  | kept, digit :: rest =>
    if kept * 10 + digit < UInt64.size then keep (kept * 10 + digit) rest
    else (kept, rest.length + 1)

theorem keep_lt_size {kept : Nat} (h : kept < UInt64.size) (row : List Nat) :
    (keep kept row).1 < UInt64.size := by
  induction row generalizing kept with
  | nil => exact h
  | cons digit rest ih =>
    unfold keep
    split
    · next fits => exact ih fits
    · exact h

/-- The digits before the point. -/
def wholeDigits (n : Number) : List Nat :=
  digits 1 (n.significand / Nat.pow 10 n.places)

/-- The digits behind the point. -/
def fractionDigits (n : Number) : List Nat :=
  if n.places = 0 then [] else digits n.places (n.significand % Nat.pow 10 n.places)

/-- The digits that are kept, and the power of ten behind the last of them. -/
def kept (n : Number) : Nat × Int :=
  let (whole, left) := keep 0 n.wholeDigits
  let (all, dropped) := keep whole n.fractionDigits
  (all, n.exponent + left - (n.places - dropped : Nat))

/-- The magnitude in double precision, if it is in range. -/
def magnitude? (n : Number) : Option Double :=
  let (significand, exponent) := n.kept
  (Double.ofNat significand).scaleTen? exponent

/-- The integer that the number stays. A zero with a sign is none, nor is anything
below the integers of 64 bits. -/
def integer? (n : Number) : Option Int :=
  if !n.isPlain then none
  else if !n.negative then if n.significand < UInt64.size then some n.significand else none
  else if 0 < n.significand && n.significand ≤ Nat.pow 2 63 then some (-n.significand)
  else none

/-- Whether the number can be computed with. -/
def inRange (n : Number) : Bool :=
  n.magnitude?.isSome

end Teletype.Json.Number

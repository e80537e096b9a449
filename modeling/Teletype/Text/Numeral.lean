/-!
# Numerals

Numbers as they are written in control sequences, color names and options: one
`+` may stand in front, leading zeros are welcome, a blank or an empty numeral
is not, and a number beyond the limit of its use is refused.
-/

namespace Teletype.Text.Numeral

/-- The value of a digit, in the digits of base sixteen. -/
def digit? (c : Char) : Option Nat :=
  let n := c.toNat
  if 0x30 ≤ n && n ≤ 0x39 then some (n - 0x30)
  else if 0x61 ≤ n && n ≤ 0x66 then some (n - 0x61 + 10)
  else if 0x41 ≤ n && n ≤ 0x46 then some (n - 0x41 + 10)
  else none

/-- The value of a row of digits read after the number `value`, if all of them
are digits of the base. -/
def extend? (base : Nat) : Nat → List Char → Option Nat
  | value, [] => some value
  | value, c :: rest =>
    match digit? c with
    | some d => if d < base then extend? base (value * base + d) rest else none
    | none => none

/-- The value of a non-empty row of digits. -/
def digits? (base : Nat) : List Char → Option Nat
  | [] => none
  | c :: rest => extend? base 0 (c :: rest)

/-- A numeral with an optional sign `+`. -/
def unsigned? (base : Nat) : List Char → Option Nat
  | '+' :: rest => digits? base rest
  | text => digits? base text

/-- A decimal numeral that is at most `limit`. -/
def upTo? (limit : Nat) (text : List Char) : Option Nat :=
  match unsigned? 10 text with
  | some n => if n ≤ limit then some n else none
  | none => none

theorem digit?_of_isDigit {c : Char} (h : c.isDigit = true) :
    digit? c = some (c.toNat - '0'.toNat) := by
  obtain ⟨hlow, hhigh⟩ := Char.isDigit_iff_toNat.mp h
  have hrange : (0x30 ≤ c.toNat && c.toNat ≤ 0x39) = true := by
    rw [Bool.and_eq_true, decide_eq_true_eq, decide_eq_true_eq]
    exact ⟨hlow, hhigh⟩
  exact if_pos hrange

/-- Decimal digits have the value that core gives them. -/
theorem extend?_eq_ofDigitChars {digits : List Char} (h : ∀ c ∈ digits, c.isDigit = true)
    (value : Nat) : extend? 10 value digits = some (Nat.ofDigitChars 10 digits value) := by
  induction digits generalizing value with
  | nil => rfl
  | cons c rest ih =>
    obtain ⟨hc, hrest⟩ := List.forall_mem_cons.mp h
    have hhigh : c.toNat ≤ 0x39 := (Char.isDigit_iff_toNat.mp hc).2
    have hbase : c.toNat - '0'.toNat < 10 := by
      show c.toNat - 0x30 < 10
      omega
    simp only [extend?, digit?_of_isDigit hc, if_pos hbase, ih hrest, Nat.ofDigitChars_cons,
      Nat.mul_comm value]

/-- **A number is read as it is written**, up to the limit. -/
theorem upTo?_toDigits (limit n : Nat) :
    upTo? limit (Nat.toDigits 10 n) = if n ≤ limit then some n else none := by
  have hdigits : ∀ c ∈ Nat.toDigits 10 n, c.isDigit = true :=
    fun c hc => Nat.isDigit_of_mem_toDigits (by decide) (by decide) hc
  have hvalue : extend? 10 0 (Nat.toDigits 10 n) = some n := by
    rw [extend?_eq_ofDigitChars hdigits, Nat.ofDigitChars_ten_toDigits]
  have hunsigned : unsigned? 10 (Nat.toDigits 10 n) = some n := by
    cases htext : Nat.toDigits 10 n with
    | nil => exact absurd htext Nat.toDigits_ne_nil
    | cons c rest =>
      rw [htext] at hdigits hvalue
      -- no digit is taken for a sign
      have hsign : c ≠ '+' := by
        rintro rfl
        exact absurd (hdigits '+' List.mem_cons_self) (by decide)
      unfold unsigned?
      split
      next heq => exact absurd (List.cons.inj heq).1 hsign
      next => exact hvalue
  rw [upTo?, hunsigned]

/-- The magnitude of the least number of 32 bits, one past the largest. -/
def int32Limit : Nat := 0x80000000

/-- A decimal numeral of a signed number of 32 bits. -/
def int32? : List Char → Option Int
  | '-' :: rest => do
    let n ← digits? 10 rest
    if n ≤ int32Limit then some (-n) else none
  | text => (upTo? (int32Limit - 1) text).map Int.ofNat

/-- The digits of a number in base sixteen, in lower case. -/
def lowerHex (n : Nat) : String :=
  String.ofList (Nat.toDigits 16 n)

/-- The digits of a number in base sixteen, in upper case. -/
def upperHex (n : Nat) : String :=
  String.ofList ((Nat.toDigits 16 n).map Char.toUpper)

/-- The digits of a number in base sixteen, filled with zeros to `width`. -/
def paddedHex (width n : Nat) : String :=
  let digits := Nat.toDigits 16 n
  String.ofList (List.replicate (width - digits.length) '0' ++ digits)

/-- Bytes as two digits each. -/
def hexBytes (bytes : List UInt8) : String :=
  String.join (bytes.map fun byte => paddedHex 2 byte.toNat)

end Teletype.Text.Numeral

/-!
# Numbers of double precision

A magnitude of double precision is `significand · 2 ^ scale`: the significand has
at most 53 bits, and the scale is as small as that allows, but at least `-1074`.
Above there is no limit here; `inRange` says which magnitudes the format has.

Every operation is the exact one, rounded once: to the nearest magnitude, and
between two of them to the one with the even significand. So a whole calculation
is settled in natural numbers.
-/

namespace Teletype.Json

/-- `n / d` as a whole number: the nearest, and of two the even one. -/
def roundQuotient (n d : Nat) : Nat :=
  let quotient := n / d
  let excess := 2 * (n % d)
  if excess < d then quotient
  else if d < excess then quotient + 1
  else quotient + quotient % 2

/-- What divides is not rounded. -/
theorem roundQuotient_mul (q : Nat) {d : Nat} (h : 0 < d) : roundQuotient (q * d) d = q := by
  simp [roundQuotient, Nat.mul_div_cancel _ h, h]

/-- **Rounding stays within half a unit.** -/
theorem roundQuotient_near (n : Nat) {d : Nat} (h : 0 < d) :
    2 * (d * roundQuotient n d) ≤ 2 * n + d ∧ 2 * n ≤ 2 * (d * roundQuotient n d) + d := by
  have exact := Nat.div_add_mod n d
  have below := Nat.mod_lt n h
  unfold roundQuotient
  dsimp only
  split
  · omega
  · split
    · rw [Nat.mul_add, Nat.mul_one]
      omega
    · rw [Nat.mul_add]
      rcases Nat.mod_two_eq_zero_or_one (n / d) with parity | parity <;> rw [parity] <;>
        simp <;> omega

/-- A magnitude of double precision. -/
structure Double where
  significand : Nat
  /-- The power of two that the significand counts. -/
  scale : Int
  deriving Repr, DecidableEq

namespace Double

/-- The bits of a significand. -/
def precision : Nat := 53

/-- The scale of the smallest magnitudes. -/
def leastScale : Int := -1074

/-- The scale of the largest magnitudes. -/
def greatestScale : Int := 971

/-- No magnitude. -/
def zero : Double := ⟨0, leastScale⟩

/-- Whether the format has the magnitude. -/
def inRange (x : Double) : Bool :=
  x.scale ≤ greatestScale

/-- The numerator of `n / d · 2 ^ scale`. -/
def scaledUp (n : Nat) (scale : Int) : Nat :=
  n * Nat.pow 2 scale.toNat

/-- The scale at which `n / d` has as many bits as a significand. -/
def fittingScale (n d : Nat) : Int :=
  let scale : Int := (n.log2 : Int) - d.log2 - precision
  let bits := scaledUp n (-scale) / scaledUp d scale
  max leastScale (if bits < Nat.pow 2 precision then scale else scale + 1)

/-- The magnitude nearest to `n / d`. -/
def ofRatio (n d : Nat) : Double :=
  if n = 0 then zero
  else
    let scale := fittingScale n d
    let significand := roundQuotient (scaledUp n (-scale)) (scaledUp d scale)
    if significand = Nat.pow 2 precision then ⟨Nat.pow 2 (precision - 1), scale + 1⟩
    else ⟨significand, scale⟩

/-- The magnitude nearest to a natural number. -/
def ofNat (n : Nat) : Double :=
  ofRatio n 1

/-- The magnitude nearest to `10 ^ k`. -/
def tenTo (k : Nat) : Double :=
  ofNat (Nat.pow 10 k)

/-- The product. -/
def mul (x y : Double) : Double :=
  let scale := x.scale + y.scale
  ofRatio (scaledUp (x.significand * y.significand) scale) (scaledUp 1 (-scale))

/-- The quotient. -/
def div (x y : Double) : Double :=
  let scale := x.scale - y.scale
  ofRatio (scaledUp x.significand scale) (scaledUp y.significand (-scale))

/-! ## Powers of ten -/

/-- The largest power of ten in range. -/
def largestTen : Nat := 308

/-- Divides by the largest power of ten, several times over. -/
def lower : Nat → Double → Double
  | 0, x => x
  | times + 1, x => if x.significand = 0 then x else lower times (x.div (tenTo largestTen))

/-- `x / 10 ^ k`, divided in steps of which each but the last is by the largest
power of ten. -/
def divTen (x : Double) (k : Nat) : Double :=
  let steps := (k - 1) / largestTen
  (lower steps x).div (tenTo (k - steps * largestTen))

/-- `x · 10 ^ exponent`, if it is in range. -/
def scaleTen? (x : Double) (exponent : Int) : Option Double :=
  if exponent < 0 then some (x.divTen (-exponent).toNat)
  else if x.significand = 0 then some x
  else if largestTen < exponent then none
  else
    let product := x.mul (tenTo exponent.toNat)
    if product.inRange then some product else none

end Double

end Teletype.Json

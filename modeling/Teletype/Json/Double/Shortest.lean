import Teletype.Json.Double

/-!
# The shortest decimal of a magnitude

A magnitude of double precision is written with the fewest digits that round back
to it. The reals that round to it are an interval, whose ends belong to it if the
significand is even. The coarsest decimal grid with a point in that interval has
the fewest digits, and one of the two neighbours of the magnitude on the grid is
such a point; the nearer one is taken.
-/

namespace Teletype.Json.Double

/-- Four times the significand at the lower end of the interval. Below a power of
two the magnitudes are twice as dense. -/
def lowerEnd (x : Double) : Nat :=
  if x.significand = Nat.pow 2 (precision - 1) && leastScale < x.scale then 4 * x.significand - 1
  else 4 * x.significand - 2

/-- Four times the significand at the upper end of the interval. -/
def upperEnd (x : Double) : Nat :=
  4 * x.significand + 2

/-- The point of the grid `10 ^ k` that stands for the magnitude, counted in steps
of the grid, if one can. A quarter of the last bit of the significand is
`quarter / step` steps. -/
def onGrid? (x : Double) (k : Int) : Option Nat :=
  let quarter := scaledUp 1 (x.scale - 2) * Nat.pow 10 (-k).toNat
  let step := scaledUp 1 (2 - x.scale) * Nat.pow 10 k.toNat
  let inside (point : Nat) : Bool :=
    if x.significand % 2 = 0 then
      x.lowerEnd * quarter ≤ point * step && point * step ≤ x.upperEnd * quarter
    else x.lowerEnd * quarter < point * step && point * step < x.upperEnd * quarter
  let magnitude := 4 * x.significand * quarter
  let below := magnitude / step
  [roundQuotient magnitude step, below, below + 1].find? inside

/-- The grids that have to be tried, the coarsest first. -/
def grids : List Int :=
  (List.range 633).map fun i : Nat => (308 : Int) - i

/-- The shortest decimal, as digits and the power of ten that they count. -/
def shortest (x : Double) : Nat × Int :=
  (grids.findSome? fun k => (x.onGrid? k).map (·, k)).getD (0, 0)

/-- Zeros in a row. -/
def zeros (n : Nat) : String :=
  String.ofList (List.replicate n '0')

/-- Digits with a point behind the first, if more follow. -/
def pointed : List Char → String
  | first :: second :: rest => String.ofList (first :: '.' :: second :: rest)
  | digits => String.ofList digits

/-- The magnitude in decimal. Between a hundred-thousandth and ten to the sixteenth
it is written out, always with a point; otherwise with an exponent, whose sign
stands even if it is positive. -/
def text (x : Double) : String :=
  if x.significand = 0 then "0.0"
  else
    let (point, k) := x.shortest
    let digits := Nat.toDigits 10 point
    let exponent := k + digits.length - 1
    if exponent < -5 || 15 < exponent then
      pointed digits ++ "e" ++ (if exponent < 0 then "-" else "+") ++ toString exponent.natAbs
    else if 0 ≤ k then String.ofList digits ++ zeros k.toNat ++ ".0"
    else if 0 ≤ exponent then
      let whole := exponent.toNat + 1
      String.ofList (digits.take whole) ++ "." ++ String.ofList (digits.drop whole)
    else "0." ++ zeros (-exponent - 1).toNat ++ String.ofList digits

end Teletype.Json.Double

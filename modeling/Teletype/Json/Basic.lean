/-!
# JSON values

Values as they were written. A member of an object may occur twice, the members
keep their order, and a number keeps the form that it was written in, because
what may stand for an integer depends on it. A string may spell half of a
surrogate pair, which no text has: such a string reads as `none`.
-/

namespace Teletype

namespace Json

/-- A number as it was written. -/
structure Number where
  negative : Bool := false
  /-- All digits before the exponent as one number. -/
  significand : Nat
  /-- How many of the digits stand behind the point. -/
  places : Nat := 0
  /-- The exponent that was written. -/
  exponent : Int := 0
  /-- Written without a fraction and without an exponent. -/
  isPlain : Bool := true
  deriving Repr, DecidableEq

/-- A string, unless it spells half of a surrogate pair. -/
abbrev Text := Option String

end Json

/-- A JSON value. -/
inductive Json where
  | null
  | bool (value : Bool)
  | number (value : Json.Number)
  | string (value : Json.Text)
  | array (elements : List Json)
  | object (members : List (Json.Text × Json))

namespace Json

instance : Inhabited Json := ⟨.null⟩

/-- The number `n`. -/
def nat (n : Nat) : Json :=
  .number { significand := n }

/-- A string that spells a text. -/
def text (s : String) : Json :=
  .string (some s)

/-- An object with the members given by name. -/
def record (members : List (String × Json)) : Json :=
  .object (members.map fun (name, value) => (some name, value))

/-- A value under the name of its variant. -/
def tagged (variant : String) (value : Json) : Json :=
  record [(variant, value)]

end Json

end Teletype

import Teletype.Json.Double.Shortest
import Teletype.Json.Number
import Teletype.Text.Quoted

/-!
# Faults in JSON

What is wrong with a text that should spell a value of some type, where it is
noticed, and how that is told.
-/

namespace Teletype.Json

/-! ## Places -/

/-- A place in a text: the row, counted from one, and the bytes before it in the
row. -/
structure Place where
  row : Nat := 1
  column : Nat := 0
  deriving Repr, DecidableEq

namespace Place

/-- The place behind a character. -/
def behind (p : Place) (c : Char) : Place :=
  if c = '\n' then { row := p.row + 1 } else { p with column := p.column + c.utf8Size }

/-- The place so many bytes further into a text, or at its end. -/
def forward (p : Place) : List Char → Nat → Place
  | [], _ => p
  | c :: rest, bytes =>
    if bytes < c.utf8Size then { p with column := p.column + bytes }
    else (p.behind c).forward rest (bytes - c.utf8Size)

theorem forward_zero (p : Place) (rest : List Char) : p.forward rest 0 = p := by
  cases rest with
  | nil => rfl
  | cons c rest => simp [forward, Char.utf8Size_pos c]

end Place

/-! ## Defects -/

/-- What a text ends in the middle of. -/
inductive Unfinished where
  | value
  | list
  | object
  | string
  deriving Repr, DecidableEq

/-- What stands where something else is wanted. -/
inductive Found where
  | null
  | bool (value : Bool)
  | number (value : Number)
  | string (value : String)
  | array
  | object
  deriving Repr, DecidableEq

/-- What is wrong. -/
inductive Defect where
  | ended (inside : Unfinished)
  | expectedColon
  | expectedElement
  | expectedMember
  /-- A word other than the three that are values. -/
  | expectedWord
  | expectedValue
  | expectedKey
  | trailingComma
  | trailingText
  | badNumber
  | numberTooLarge
  | badEscape
  /-- Half of a surrogate pair without the other half. -/
  | unpaired
  /-- The first half of a surrogate pair, and no escape behind it. -/
  | pairBroken
  | control
  /-- A value of another type than the wanted one. -/
  | wrongType (found : Found) (wanted : String)
  /-- A number that the wanted type does not have. -/
  | wrongValue (found : Int) (wanted : String)
  | duplicateField (name : String)
  deriving Repr, DecidableEq

/-- A number of double precision. -/
def Number.text (n : Number) : String :=
  (if n.negative then "-" else "") ++ (n.magnitude?.getD .zero).text

/-- How it is told what stands there. -/
def Found.message : Found → String
  | .null => "null"
  | .bool value => "boolean `" ++ toString value ++ "`"
  | .number value =>
    match value.integer? with
    | some n => "integer `" ++ toString n ++ "`"
    | none => "floating point `" ++ value.text ++ "`"
  | .string value => "string " ++ Text.Quoted.quote value
  | .array => "sequence"
  | .object => "map"

/-- How it is told what is unfinished. -/
def Unfinished.message : Unfinished → String
  | .value => "a value"
  | .list => "a list"
  | .object => "an object"
  | .string => "a string"

/-- How it is told what is wrong. -/
def Defect.message : Defect → String
  | .ended inside => "EOF while parsing " ++ inside.message
  | .expectedColon => "expected `:`"
  | .expectedElement => "expected `,` or `]`"
  | .expectedMember => "expected `,` or `\x7d`"
  | .expectedWord => "expected ident"
  | .expectedValue => "expected value"
  | .expectedKey => "key must be a string"
  | .trailingComma => "trailing comma"
  | .trailingText => "trailing characters"
  | .badNumber => "invalid number"
  | .numberTooLarge => "number out of range"
  | .badEscape => "invalid escape"
  | .unpaired => "lone leading surrogate in hex escape"
  | .pairBroken => "unexpected end of hex escape"
  | .control => "control character (\\u0000-\\u001F) found while parsing a string"
  | .wrongType found wanted => "invalid type: " ++ found.message ++ ", expected " ++ wanted
  | .wrongValue found wanted =>
    "invalid value: integer `" ++ toString found ++ "`, expected " ++ wanted
  | .duplicateField name => "duplicate field `" ++ name ++ "`"

/-! ## Faults -/

/-- A defect at the place where it is noticed. -/
structure Fault where
  defect : Defect
  place : Place
  deriving Repr, DecidableEq

/-- How the fault is told. -/
def Fault.message (f : Fault) : String :=
  f.defect.message ++ " at line " ++ toString f.place.row ++ " column " ++ toString f.place.column

end Teletype.Json

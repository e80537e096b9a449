import Teletype.Json.Basic
import Teletype.Text.Numeral

/-!
# Writing JSON

Two layouts of a value: the compact one without any blank, and the pretty one
with a member or element a row and two more spaces for every level. Of a text
only the quote, the backslash and the controls below space are escaped.
-/

namespace Teletype.Json

open Text

/-- A character as it stands between quotes. -/
def escape (c : Char) : String :=
  if c = '"' then "\\\""
  else if c = '\\' then "\\\\"
  else if c = '\n' then "\\n"
  else if c = '\r' then "\\r"
  else if c = '\t' then "\\t"
  else if c = '\x08' then "\\b"
  else if c = '\x0c' then "\\f"
  else if c.toNat < 0x20 then "\\u" ++ Numeral.paddedHex 4 c.toNat
  else c.toString

/-- A string between quotes. One that is no text is written as half a pair. -/
def quoted : Text → String
  | some s => "\"" ++ String.join (s.toList.map escape) ++ "\""
  | none => "\"\\ud800\""

/-- A number. -/
def numeral (n : Number) : String :=
  let sign := if n.negative then "-" else ""
  let exponent := if n.isPlain then "" else "e" ++ toString (n.exponent - n.places)
  sign ++ toString n.significand ++ exponent

/-! ## Compact -/

mutual

/-- The value without a blank. -/
def compact : Json → String
  | .null => "null"
  | .bool b => if b then "true" else "false"
  | .number n => numeral n
  | .string s => quoted s
  | .array elements => "[" ++ ",".intercalate (compactElements elements) ++ "]"
  | .object members => "\x7b" ++ ",".intercalate (compactMembers members) ++ "\x7d"

/-- Each element without a blank. -/
def compactElements : List Json → List String
  | [] => []
  | value :: rest => compact value :: compactElements rest

/-- Each member without a blank. -/
def compactMembers : List (Text × Json) → List String
  | [] => []
  | (key, value) :: rest => (quoted key ++ ":" ++ compact value) :: compactMembers rest

end

/-! ## Pretty -/

/-- A new row inside `level` containers. -/
def newRow (level : Nat) : String :=
  "\n" ++ String.ofList (List.replicate (2 * level) ' ')

/-- The items of a container at `level`, each on a row of its own. -/
def block (level : Nat) (items : List String) : String :=
  if items.isEmpty then ""
  else
    newRow (level + 1) ++ ("," ++ newRow (level + 1)).intercalate items ++ newRow level

mutual

/-- The value inside `level` containers, one item a row. -/
def prettyAt (level : Nat) : Json → String
  | .null => "null"
  | .bool b => if b then "true" else "false"
  | .number n => numeral n
  | .string s => quoted s
  | .array elements => "[" ++ block level (prettyElements (level + 1) elements) ++ "]"
  | .object members => "\x7b" ++ block level (prettyMembers (level + 1) members) ++ "\x7d"

/-- Each element inside `level` containers. -/
def prettyElements (level : Nat) : List Json → List String
  | [] => []
  | value :: rest => prettyAt level value :: prettyElements level rest

/-- Each member inside `level` containers. -/
def prettyMembers (level : Nat) : List (Text × Json) → List String
  | [] => []
  | (key, value) :: rest =>
    (quoted key ++ ": " ++ prettyAt level value) :: prettyMembers level rest

end

/-- The value, one item a row. -/
def pretty (value : Json) : String :=
  prettyAt 0 value

end Teletype.Json

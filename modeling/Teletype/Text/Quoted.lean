import Teletype.Text.Numeral
import Teletype.Text.QuotedTable

/-!
# Quoted text

How messages show a text that came from outside: between double quotes, with
every character that could be misread spelled out. A quote and a backslash get
a backslash, the common controls a letter, and whatever leaves no ink or joins
the character before it its number.
-/

namespace Teletype.Text.Quoted

/-- The number of a character, as it is spelled inside quotes. -/
def byNumber (c : Char) : String :=
  "\\u\x7b" ++ Numeral.lowerHex c.toNat ++ "\x7d"

/-- Whether a character is spelled by its number. -/
def needsNumber (c : Char) : Bool :=
  c.toNat < 0x20 || c.toNat = 0x7F || QuotedTable.inkless.covers c || QuotedTable.extending.covers c

/-- A character as it stands between the quotes. -/
def spell (c : Char) : String :=
  if c = '"' then "\\\""
  else if c = '\\' then "\\\\"
  else if c = '\n' then "\\n"
  else if c = '\r' then "\\r"
  else if c = '\t' then "\\t"
  else if c.toNat = 0 then "\\0"
  else if needsNumber c then byNumber c
  else c.toString

/-- The text between quotes. -/
def quote (s : String) : String :=
  "\"" ++ String.join (s.toList.map spell) ++ "\""

end Teletype.Text.Quoted

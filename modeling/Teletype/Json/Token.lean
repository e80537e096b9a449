import Teletype.Json.Basic
import Teletype.Text.Numeral
import Teletype.Text.Utf8

/-!
# JSON tokens

A machine that takes one character at a time cuts a text into tokens. Between
tokens there may be blanks, and nothing else: which token may follow which is
not decided here. A word or a number ends at the first character that cannot
belong to it, and that character is read anew.
-/

namespace Teletype.Json

open Text

/-- A token. -/
inductive Token where
  | openArray
  | closeArray
  | openObject
  | closeObject
  | comma
  | colon
  | null
  | bool (value : Bool)
  | number (value : Number)
  | string (value : Text)
  deriving Repr, DecidableEq

/-- What may follow inside a number. -/
inductive NumberPart where
  /-- The minus sign was read: a digit must follow. -/
  | sign
  /-- The integer part is `0`, which no digit may follow. -/
  | zero
  | integer
  /-- The point was read: a digit must follow. -/
  | point
  | fraction
  /-- The letter of the exponent was read: a sign or a digit must follow. -/
  | letter
  /-- The sign of the exponent was read: a digit must follow. -/
  | exponentSign
  | exponent
  deriving Repr, DecidableEq

/-- What was read of a number. -/
structure NumberDraft where
  part : NumberPart
  negative : Bool := false
  significand : Nat := 0
  /-- The digits read behind the point. -/
  places : Nat := 0
  exponentNegative : Bool := false
  exponent : Nat := 0
  isPlain : Bool := true
  deriving Repr, DecidableEq

/-- What may follow inside a string. -/
inductive StringPart where
  /-- A character, or the end. -/
  | plain
  /-- A backslash was read. -/
  | escape
  /-- Four digits name a unit; `digits` of them were read. -/
  | unit (digits value : Nat)
  deriving Repr, DecidableEq

/-- What was read of a string. -/
structure StringDraft where
  part : StringPart := .plain
  /-- The text so far, unless it holds half of a pair. -/
  value : Text := some ""
  /-- The first half of a pair, if that is the last thing that was read. -/
  half : Option Nat := none
  deriving Repr, DecidableEq

/-- Where in the text a scanner stands. -/
inductive ScanPlace where
  | between
  /-- In a word, of which `rest` is still to come. -/
  | word (rest : List Char) (token : Token)
  | number (draft : NumberDraft)
  | string (draft : StringDraft)
  deriving Repr, DecidableEq

/-! ## Numbers -/

namespace NumberDraft

/-- The value of a decimal digit. -/
def digit? (c : Char) : Option Nat :=
  if '0' ≤ c && c ≤ '9' then some (c.toNat - '0'.toNat) else none

/-- Reads a digit of the significand. -/
def addDigit (d : NumberDraft) (part : NumberPart) (n : Nat) : NumberDraft :=
  { d with part, significand := d.significand * 10 + n }

/-- Reads a digit behind the point. -/
def addPlace (d : NumberDraft) (n : Nat) : NumberDraft :=
  { d.addDigit .fraction n with places := d.places + 1 }

/-- Reads a digit of the exponent. -/
def addExponent (d : NumberDraft) (n : Nat) : NumberDraft :=
  { d with part := .exponent, exponent := d.exponent * 10 + n }

/-- Reads a digit, where one may stand. -/
def addAny? (d : NumberDraft) (n : Nat) : Option NumberDraft :=
  match d.part with
  | .sign => some (d.addDigit (if n = 0 then .zero else .integer) n)
  | .zero => none
  | .integer => some (d.addDigit .integer n)
  | .point | .fraction => some (d.addPlace n)
  | .letter | .exponentSign | .exponent => some (d.addExponent n)

/-- Reads a character, if it can belong to the number. -/
def next? (d : NumberDraft) (c : Char) : Option NumberDraft :=
  match digit? c with
  | some n => d.addAny? n
  | none =>
    match d.part, c with
    | .zero, '.' | .integer, '.' => some { d with part := .point, isPlain := false }
    | .zero, 'e' | .zero, 'E' | .integer, 'e' | .integer, 'E' | .fraction, 'e' | .fraction, 'E' =>
      some { d with part := .letter, isPlain := false }
    | .letter, '+' => some { d with part := .exponentSign }
    | .letter, '-' => some { d with part := .exponentSign, exponentNegative := true }
    | _, _ => none

/-- The number, if it is complete. -/
def number? (d : NumberDraft) : Option Number :=
  match d.part with
  | .zero | .integer | .fraction | .exponent =>
    let scale : Int := if d.exponentNegative then -d.exponent else d.exponent
    some
      { negative := d.negative
        significand := d.significand
        places := d.places
        exponent := scale
        isPlain := d.isPlain }
  | _ => none

end NumberDraft

/-! ## Strings -/

namespace StringDraft

/-- Reads a character of the text. A half pair before it stays half. -/
def push (d : StringDraft) (c : Char) : StringDraft :=
  { value := if d.half.isSome then none else d.value.map (·.push c) }

/-- Reads a unit of sixteen bits. A first half waits for the second. -/
def pushUnit (d : StringDraft) (unit : Nat) : StringDraft :=
  if 0xDC00 ≤ unit && unit ≤ 0xDFFF then
    match d.half with
    | some first =>
      let c := Char.ofNat (0x10000 + (first - 0xD800) * 1024 + (unit - 0xDC00))
      { value := d.value.map (·.push c) }
    | none => { value := none }
  else if 0xD800 ≤ unit && unit ≤ 0xDBFF then
    { value := if d.half.isSome then none else d.value, half := some unit }
  else d.push (Char.ofNat unit)

/-- The character that a letter behind a backslash stands for. -/
def escaped? : Char → Option Char
  | '"' => some '"'
  | '\\' => some '\\'
  | '/' => some '/'
  | 'b' => some '\x08'
  | 'f' => some '\x0c'
  | 'n' => some '\n'
  | 'r' => some '\r'
  | 't' => some '\t'
  | _ => none

/-- Reads a character behind a backslash. -/
def afterBackslash? (d : StringDraft) (c : Char) : Option StringDraft :=
  if c = 'u' then some { d with part := .unit 0 0 }
  else (escaped? c).map d.push

/-- Reads a digit of a unit. -/
def addUnitDigit? (d : StringDraft) (digits value : Nat) (c : Char) : Option StringDraft :=
  match Numeral.digit? c with
  | some n =>
    let value := value * 16 + n
    if digits = 3 then some (d.pushUnit value)
    else some { d with part := .unit (digits + 1) value }
  | none => none

/-- The string that ends here. -/
def close (d : StringDraft) : Token :=
  .string (if d.half.isSome then none else d.value)

end StringDraft

/-! ## The machine -/

/-- A blank between tokens. -/
def isSpace (c : Char) : Bool :=
  c = ' ' || c = '\n' || c = '\r' || c = '\t'

/-- The tokens read so far and where the scanner stands. -/
structure Scan where
  tokens : Array Token := #[]
  place : ScanPlace := .between

namespace Scan

/-- Completes a token. -/
def emit (s : Scan) (token : Token) : Scan :=
  { tokens := s.tokens.push token }

/-- Reads a character between tokens. -/
def begin? (s : Scan) (c : Char) : Option Scan :=
  match c with
  | '[' => some (s.emit .openArray)
  | ']' => some (s.emit .closeArray)
  | '\x7b' => some (s.emit .openObject)
  | '\x7d' => some (s.emit .closeObject)
  | ',' => some (s.emit .comma)
  | ':' => some (s.emit .colon)
  | 'n' => some { s with place := .word ['u', 'l', 'l'] .null }
  | 't' => some { s with place := .word ['r', 'u', 'e'] (.bool true) }
  | 'f' => some { s with place := .word ['a', 'l', 's', 'e'] (.bool false) }
  | '"' => some { s with place := .string {} }
  | '-' => some { s with place := .number { part := .sign, negative := true } }
  | c =>
    if isSpace c then some s
    else
      match NumberDraft.digit? c with
      | some n =>
        let draft : NumberDraft := { part := .sign }
        some { s with place := .number (draft.addDigit (if n = 0 then .zero else .integer) n) }
      | none => none

/-- Reads a character inside a string. -/
def inString? (s : Scan) (d : StringDraft) (c : Char) : Option Scan :=
  let go (next : StringDraft) : Scan := { s with place := .string next }
  match d.part with
  | .escape => (d.afterBackslash? c).map go
  | .unit digits value => (d.addUnitDigit? digits value c).map go
  | .plain =>
    if c = '"' then some (s.emit d.close)
    else if c = '\\' then some (go { d with part := .escape })
    else if c.toNat < 0x20 then none
    else some (go (d.push c))

/-- Reads a character. -/
def step? (s : Scan) (c : Char) : Option Scan :=
  match s.place with
  | .between => s.begin? c
  | .word (expected :: rest) token =>
    if c = expected then
      some (if rest.isEmpty then s.emit token else { s with place := .word rest token })
    else none
  | .word [] token => (s.emit token).begin? c
  | .number d =>
    match d.next? c with
    | some next => some { s with place := .number next }
    | none => d.number?.bind fun n => (s.emit (.number n)).begin? c
  | .string d => s.inString? d c

/-- Completes what the end of the text completes. -/
def finish? (s : Scan) : Option (List Token) :=
  match s.place with
  | .between => some s.tokens.toList
  | .number d => d.number?.map fun n => (s.emit (.number n)).tokens.toList
  | _ => none

/-- Reads characters. -/
def run? (s : Scan) (text : List Char) : Option Scan :=
  text.foldlM step? s

theorem run?_append (s : Scan) (xs ys : List Char) :
    s.run? (xs ++ ys) = (s.run? xs).bind (·.run? ys) := by
  simp [run?, List.foldlM_append, bind]

end Scan

/-- The tokens of a text. -/
def tokens? (text : List Char) : Option (List Token) :=
  (Scan.run? {} text).bind Scan.finish?

end Teletype.Json

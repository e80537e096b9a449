import Teletype.Json.Source.Scalar

/-!
# Passing over a value

A value that nobody asked for is passed over with a stack of the brackets that are
still open, so no depth of nesting is too much.
-/

namespace Teletype.Json.Reader

/-- A bracket that is still open. -/
inductive Bracket where
  | array
  | object
  deriving Repr, DecidableEq

namespace Bracket

/-- The character that closes it. -/
def closing : Bracket → Char
  | .array => ']'
  | .object => '\x7d'

/-- What a text is in the middle of if it ends here. -/
def unfinished : Bracket → Unfinished
  | .array => .list
  | .object => .object

/-- What is wrong with an item that neither a comma nor the end follows. -/
def noSeparator : Bracket → Defect
  | .array => .expectedElement
  | .object => .expectedMember

end Bracket

/-- What may follow while a value is passed over. -/
inductive Passing where
  | value (stack : List Bracket)
  /-- Behind an opening bracket: an item, or the end. -/
  | firstItem (bracket : Bracket) (stack : List Bracket)
  | afterItem (bracket : Bracket) (stack : List Bracket)

/-- Reads the colon behind a key. -/
def colon : Reader Unit := do
  match ← peekToken with
  | none => stopEnded .object
  | some c => if c = ':' then advance else stopAt .expectedColon

/-- What follows a complete value. -/
def afterValue : List Bracket → Passing ⊕ Unit
  | [] => .inr ()
  | bracket :: stack => .inl (.afterItem bracket stack)

/-- Reads the first token of a value. -/
def passValue (stack : List Bracket) : Reader (Passing ⊕ Unit) := do
  match ← peekToken with
  | none => stopEnded .value
  | some 'n' =>
    advance
    word ['u', 'l', 'l']
    return afterValue stack
  | some 't' =>
    advance
    word ['r', 'u', 'e']
    return afterValue stack
  | some 'f' =>
    advance
    word ['a', 'l', 's', 'e']
    return afterValue stack
  | some '"' =>
    advance
    discard (string .passing)
    return afterValue stack
  | some '[' =>
    advance
    return .inl (.firstItem .array stack)
  | some '\x7b' =>
    advance
    return .inl (.firstItem .object stack)
  | some c =>
    if beginsNumber c then
      discard (number .passing)
      return afterValue stack
    else stopAt .expectedValue

/-- Reads what stands before the value of an item: in an object the key. -/
def passKey : Bracket → Reader Unit
  | .array => return
  | .object => do
    match ← peekToken with
    | none => stopEnded .object
    | some c =>
      if c = '"' then
        advance
        discard (string .passing)
        colon
      else stopAt .expectedKey

/-- Reads on in a value. -/
def continuePassing : Passing → Reader (Passing ⊕ Unit)
  | .value stack => passValue stack
  | .firstItem bracket stack => do
    match ← peekToken with
    | none => stopEnded bracket.unfinished
    | some c =>
      if c = bracket.closing then
        advance
        return afterValue stack
      else
        passKey bracket
        passValue (bracket :: stack)
  | .afterItem bracket stack => do
    match ← peekToken with
    | none => stopEnded bracket.unfinished
    | some c =>
      if c = ',' then
        advance
        passKey bracket
        return .inl (.value (bracket :: stack))
      else if c = bracket.closing then
        advance
        return afterValue stack
      else stopAt bracket.noSeparator

/-- Passes over a value. -/
def skip : Reader Unit :=
  loop continuePassing (.value [])

end Teletype.Json.Reader

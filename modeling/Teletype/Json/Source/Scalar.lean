import Teletype.Json.Source

/-!
# Reading words, numbers and strings

The three words, a number and a string, each behind the character that begins it.
Numbers and strings are read by the machines that cut a text into tokens
(`NumberDraft`, `StringDraft`), and what these refuse becomes a fault.

A value that nobody asked for is only passed over. Then a number may be too large,
a string may spell half of a surrogate pair, and the ends of the text inside a
number are no different from a character that does not belong there.
-/

namespace Teletype.Json.Reader

/-- What a value is read for. -/
inductive Purpose where
  | value
  | passing
  deriving Repr, DecidableEq

/-- Reads the letters of a word. -/
def word : List Char → Reader Unit
  | [] => return
  | letter :: rest => do
    match ← peek with
    | none => stopEnded .value
    | some c =>
      if c = letter then
        advance
        word rest
      else stopAt .expectedWord

/-! ## Numbers -/

/-- The largest exponent that is computed with. -/
def exponentLimit : Nat := 2147483647

/-- Whether the exponent alone puts the number out of range. -/
def exponentTooLarge (d : NumberDraft) : Bool :=
  !d.exponentNegative && d.significand ≠ 0 && exponentLimit < d.exponent

/-- The number that ends here. -/
def endNumber (purpose : Purpose) (d : NumberDraft) : Reader Number := do
  match d.number?, ← peek with
  | some n, next =>
    if d.part = .zero && (next.bind NumberDraft.digit?).isSome then stopAt .badNumber
    else if purpose = .value && !n.inRange then stop .numberTooLarge
    else return n
  | none, some _ => stopAt .badNumber
  | none, none => if purpose = .value then stopEnded .value else stop .badNumber

/-- Reads on in a number. -/
def continueNumber (purpose : Purpose) (d : NumberDraft) : Reader (NumberDraft ⊕ Number) := do
  match (← peek).bind d.next? with
  | some next =>
    advance
    if purpose = .value && exponentTooLarge next then stop .numberTooLarge
    else return .inl next
  | none => return .inr (← endNumber purpose d)

/-- Whether a number begins with the character. -/
def beginsNumber (c : Char) : Bool :=
  c = '-' || (NumberDraft.digit? c).isSome

/-- Reads a number. -/
def number (purpose : Purpose) : Reader Number := do
  let negative := (← peek) = some '-'
  if negative then advance
  loop (continueNumber purpose) { part := .sign, negative }

/-! ## Strings -/

/-- Whether the character can go on with the pair of which the first half was read. -/
def continuesPair (d : StringDraft) (c : Char) : Bool :=
  match d.part with
  | .plain => c = '\\'
  | .escape => c = 'u'
  | .unit _ _ => true

/-- Stops at a character that is no digit of a unit. The digits that are still to
come are passed over before they are looked at. -/
def stopInUnit {α : Type} (digits : Nat) : Reader α := do
  let missing := 4 - digits
  let left := (((← get).rest.take missing).map Char.utf8Size).foldl (· + ·) 0
  stopBehind missing (if left < missing then .ended .string else .badEscape)

/-- Reads on in a string. -/
def continueString (purpose : Purpose) (d : StringDraft) : Reader (StringDraft ⊕ String) := do
  match ← peek with
  | none => stopEnded .string
  | some c =>
    if purpose = .value && d.half.isSome && !continuesPair d c then stopAt .pairBroken
    else
      match d.part with
      | .plain =>
        if c = '"' then
          advance
          return .inr (d.value.getD "")
        else if c = '\\' then
          advance
          return .inl { d with part := .escape }
        else if c.toNat < 0x20 then
          if purpose = .value then stopAt .control else stop .control
        else
          advance
          return .inl (d.push c)
      | .escape =>
        match d.afterBackslash? c with
        | none => stopAt .badEscape
        | some next =>
          advance
          return .inl next
      | .unit digits value =>
        match d.addUnitDigit? digits value c with
        | none => stopInUnit digits
        | some next =>
          advance
          if purpose = .value && next.value.isNone then stop .unpaired
          else return .inl next

/-- Reads a string behind its opening quote. -/
def string (purpose : Purpose) : Reader String :=
  loop (continueString purpose) {}

end Teletype.Json.Reader

import Teletype.Json.Source.Skip

/-!
# Reading values of a type

Texts, counts, lists and records are read straight from a text, so that a value of
another type is a fault at its place. A record is an object with members under the
names of its fields, or an array of the fields in their order. A field that is not
there keeps the value that it has, other members are passed over, and no field may
occur twice.
-/

namespace Teletype.Json.Reader

variable {α : Type}

/-- Stops at a value of another type than the wanted one. What a scalar is told as
takes reading it. -/
def unexpected (wanted : String) : Reader α := do
  match ← peek with
  | some 'n' =>
    advance
    word ['u', 'l', 'l']
    stop (.wrongType .null wanted)
  | some 't' =>
    advance
    word ['r', 'u', 'e']
    stop (.wrongType (.bool true) wanted)
  | some 'f' =>
    advance
    word ['a', 'l', 's', 'e']
    stop (.wrongType (.bool false) wanted)
  | some '"' =>
    advance
    let s ← string .value
    stop (.wrongType (.string s) wanted)
  | some '[' => stop (.wrongType .array wanted)
  | some '\x7b' => stop (.wrongType .object wanted)
  | next =>
    if next.any beginsNumber then
      let n ← number .value
      stop (.wrongType (.number n) wanted)
    else stopAt .expectedValue

/-! ## Simple values -/

/-- Reads a text. -/
def text (wanted : String) : Reader String := do
  match ← peekToken with
  | none => stopEnded .value
  | some '"' =>
    advance
    string .value
  | some _ => unexpected wanted

/-- Reads a number that a count can have. -/
def count (wanted : String) : Reader Nat := do
  match ← peekToken with
  | none => stopEnded .value
  | some c =>
    if beginsNumber c then
      let n ← number .value
      match n.integer? with
      | some (.ofNat count) => return count
      | some negative => stop (.wrongValue negative wanted)
      | none => stop (.wrongType (.number n) wanted)
    else unexpected wanted

/-- Reads null for none, or a value. -/
def nullable (read : Reader α) : Reader (Option α) := do
  match ← peekToken with
  | some 'n' =>
    advance
    word ['u', 'l', 'l']
    return none
  | _ => some <$> read

/-! ## Arrays -/

/-- Goes to the next element of an array, if there is one. -/
def nextElement (first : Bool) : Reader Bool := do
  match ← peekToken with
  | none => stopEnded .list
  | some c =>
    if c = ']' then return false
    else if first then return true
    else if c = ',' then
      advance
      match ← peekToken with
      | none => stopEnded .value
      | some c => if c = ']' then stopAt .trailingComma else return true
    else stopAt .expectedElement

/-- Reads the end of an array behind the last element that is wanted. -/
def closeArray : Reader Unit := do
  match ← peekToken with
  | none => stopEnded .list
  | some c =>
    if c = ']' then advance
    else if c = ',' then
      advance
      stopAt (if (← peekToken) = some ']' then .trailingComma else .trailingText)
    else stopAt .trailingText

/-- Reads a list. -/
def list (read : Reader α) : Reader (List α) := do
  match ← peekToken with
  | none => stopEnded .value
  | some '[' =>
    advance
    let elements ← loop
      (fun elements : Array α => do
        if ← nextElement elements.isEmpty then return .inl (elements.push (← read))
        else return .inr elements.toList)
      #[]
    closeArray
    return elements
  | some _ => unexpected "a sequence"

/-! ## Records -/

/-- The fields of a record in their order, by name, each with the reader that sets
it. -/
abbrev Fields (α : Type) := List (String × (α → Reader α))

/-- Reads a record's fields without names. -/
def elements (first : Bool) : Fields α → α → Reader α
  | [], a => return a
  | (_, read) :: rest, a => do
    if ← nextElement first then elements false rest (← read a) else return a

/-- Goes to the next key of an object, if there is one, and reads it. -/
def nextKey (first : Bool) : Reader (Option String) := do
  match ← peekToken with
  | none => stopEnded .object
  | some c =>
    if c = '\x7d' then return none
    else if first then
      if c = '"' then key else stopAt .expectedKey
    else if c = ',' then
      advance
      match ← peekToken with
      | none => stopEnded .value
      | some c =>
        if c = '"' then key
        else stopAt (if c = '\x7d' then .trailingComma else .expectedKey)
    else stopAt .expectedMember
where
  key : Reader (Option String) := do
    advance
    some <$> string .value

/-- Reads the end of an object. -/
def closeObject : Reader Unit := do
  match ← peekToken with
  | none => stopEnded .object
  | some c =>
    if c = '\x7d' then advance
    else stopAt (if c = ',' then .trailingComma else .trailingText)

/-- Stops at a field that occurs twice; if the object ends there, behind its end. -/
def duplicate (name : String) : Reader α := do
  if (← peekToken) = some '\x7d' then advance
  stop (.duplicateField name)

/-- What was read of an object. -/
structure Members (α : Type) where
  record : α
  seen : List String := []
  first : Bool := true

/-- Reads a member. -/
def member (fields : Fields α) (m : Members α) : Reader (Members α ⊕ α) := do
  match ← nextKey m.first with
  | none => return .inr m.record
  | some name =>
    match fields.lookup name with
    | none =>
      colon
      skip
      return .inl { m with first := false }
    | some read =>
      if m.seen.contains name then duplicate name
      else
        colon
        return .inl { record := ← read m.record, seen := name :: m.seen, first := false }

/-- Reads a record whose fields have values already. -/
def record (wanted : String) (fields : Fields α) (start : α) : Reader α := do
  match ← peekToken with
  | none => stopEnded .value
  | some '[' =>
    advance
    let a ← elements true fields start
    closeArray
    return a
  | some '\x7b' =>
    advance
    let a ← loop (member fields) { record := start }
    closeObject
    return a
  | some _ => unexpected wanted

end Teletype.Json.Reader

import Teletype.Json.Number

/-!
# Reading types out of JSON

How the types of this library are found in a value. A record is an object with
a member for each field, or an array of the fields in their order. Of an object
other members are passed over, but no field may occur twice. One of several
variants is its name, or an object of its name and what it holds.
-/

namespace Teletype.Json

/-! ## Simple values -/

/-- A truth value. -/
def bool? : Json → Option Bool
  | .bool b => some b
  | _ => none

/-- A text. -/
def text? : Json → Option String
  | .string s => s
  | _ => none

/-- A single character. -/
def char? (j : Json) : Option Char :=
  match (text? j).map String.toList with
  | some [c] => some c
  | _ => none

/-- A number below `bound`, written as an integer. A minus sign is out of place
even before a zero. -/
def natBelow? (bound : Nat) : Json → Option Nat
  | .number n =>
    if n.isPlain && !n.negative && n.significand < bound then some n.significand else none
  | _ => none

/-- A number that a count can have. -/
def count? : Json → Option Nat :=
  natBelow? UInt64.size

/-- A byte. -/
def byte? (j : Json) : Option UInt8 :=
  (natBelow? UInt8.size j).map UInt8.ofNat

/-- A number of sixteen bits. -/
def word? (j : Json) : Option UInt16 :=
  (natBelow? UInt16.size j).map UInt16.ofNat

/-- The elements of an array, all of which can be read. -/
def list? {α : Type} (read? : Json → Option α) : Json → Option (List α)
  | .array elements => elements.mapM read?
  | _ => none

/-! ## Records -/

/-- The fields that a record was written with. -/
structure Record where
  fields : List (String × Json)
  /-- Whether they stood under their names. -/
  byName : Bool

/-- The members of an object by name; there are none if a key is no text. -/
def named? (members : List (Text × Json)) : Option (List (String × Json)) :=
  members.mapM fun (key, value) => key.map (·, value)

/-- The fields that are among the names, none of them twice. -/
def select? (names : List String) (members : List (String × Json)) :
    Option (List (String × Json)) :=
  let fields := members.filter fun (name, _) => names.contains name
  if (fields.map (·.1)).Nodup then some fields else none

/-- A record with fields of these names, in this order. -/
def record? (names : List String) : Json → Option Record
  | .object members => do
    let fields ← select? names (← named? members)
    some { fields, byName := true }
  | .array elements =>
    if elements.length ≤ names.length then some { fields := names.zip elements, byName := false }
    else none
  | _ => none

namespace Record

/-- A field as it was written. -/
def find? (r : Record) (name : String) : Option Json :=
  r.fields.lookup name

/-- A field that must be there. -/
def required {α : Type} (r : Record) (name : String) (read? : Json → Option α) : Option α :=
  (r.find? name).bind read?

/-- A field that has a value of its own where it is not there. -/
def orElse {α : Type} (r : Record) (name : String) (default : α) (read? : Json → Option α) :
    Option α :=
  match r.find? name with
  | some value => read? value
  | none => some default

/-- A field that may be null. Among names it may also be missing, in an array
it may not. -/
def nullable {α : Type} (r : Record) (name : String) (read? : Json → Option α) :
    Option (Option α) :=
  match r.find? name with
  | some .null => some none
  | some value => (read? value).map some
  | none => if r.byName then some none else none

end Record

/-! ## Variants -/

/-- The name of a variant and what it holds, if something was written. -/
structure Variant where
  name : String
  held : Option Json

/-- One of several variants. -/
def variant? : Json → Option Variant
  | .string (some name) => some { name, held := none }
  | .object [(some name, value)] => some { name, held := some value }
  | _ => none

namespace Variant

/-- Whether the variant holds nothing. Null is nothing, and so is an empty object
in a value that was kept aside. -/
def isBare (v : Variant) (keptAside : Bool) : Bool :=
  match v.held with
  | none | some .null => true
  | some (.object []) => keptAside
  | some _ => false

/-- What the variant holds. -/
def holding {α : Type} (v : Variant) (read? : Json → Option α) : Option α :=
  v.held.bind read?

end Variant

/-! ## Values kept aside

Where the fields of one record are spread among the members of another, members
are kept aside until they are asked for. What is kept aside must be a value in
full: texts, numbers of a size that can be computed with, and not too deep. -/

mutual

/-- Whether the value can be kept aside, with at most `depth` containers inside
each other. -/
def canKeep (depth : Nat) : Json → Bool
  | .null | .bool _ => true
  | .number n => n.inRange
  | .string s => s.isSome
  | .array elements =>
    match depth with
    | 0 => false
    | d + 1 => canKeepElements d elements
  | .object members =>
    match depth with
    | 0 => false
    | d + 1 => canKeepMembers d members

/-- Whether all elements can be kept aside. -/
def canKeepElements (depth : Nat) : List Json → Bool
  | [] => true
  | value :: rest => canKeep depth value && canKeepElements depth rest

/-- Whether all members can be kept aside. -/
def canKeepMembers (depth : Nat) : List (Text × Json) → Bool
  | [] => true
  | (key, value) :: rest => key.isSome && canKeep depth value && canKeepMembers depth rest

end

end Teletype.Json

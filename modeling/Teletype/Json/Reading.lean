import Teletype.Json.Token

/-!
# Reading JSON

Tokens become a value by a machine with a stack of the arrays and objects that
are still open, so no depth of nesting is too much for it. The grammar is the
strict one: no comma before a closing bracket and nothing behind the value.
-/

namespace Teletype.Json

/-- An array or object that is still open. -/
inductive Frame where
  | array (elements : Array Json)
  /-- The members so far, and the key of the value being read. -/
  | object (members : Array (Text × Json)) (key : Text)

/-- What may follow. -/
inductive Reading where
  | atValue (stack : List Frame)
  /-- Behind `[`: a value, or the end of the array. -/
  | atFirstElement (stack : List Frame)
  | afterElement (elements : Array Json) (stack : List Frame)
  /-- Behind the opening of an object: a key, or the end of the object. -/
  | atFirstKey (stack : List Frame)
  | atKey (members : Array (Text × Json)) (stack : List Frame)
  | atColon (members : Array (Text × Json)) (key : Text) (stack : List Frame)
  | afterMember (members : Array (Text × Json)) (stack : List Frame)
  /-- The value is complete. -/
  | complete (value : Json)

namespace Reading

/-- Hands a complete value to the innermost container. -/
def deliver (value : Json) : List Frame → Reading
  | [] => .complete value
  | .array elements :: stack => .afterElement (elements.push value) stack
  | .object members key :: stack => .afterMember (members.push (key, value)) stack

/-- Reads the first token of a value. -/
def begin? (stack : List Frame) : Token → Option Reading
  | .openArray => some (.atFirstElement stack)
  | .openObject => some (.atFirstKey stack)
  | .null => some (deliver .null stack)
  | .bool b => some (deliver (.bool b) stack)
  | .number n => some (deliver (.number n) stack)
  | .string s => some (deliver (.string s) stack)
  | .closeArray | .closeObject | .comma | .colon => none

/-- Reads a token. -/
def step? : Reading → Token → Option Reading
  | .atValue stack, token => begin? stack token
  | .atFirstElement stack, .closeArray => some (deliver (.array []) stack)
  | .atFirstElement stack, token => begin? (.array #[] :: stack) token
  | .afterElement elements stack, .comma => some (.atValue (.array elements :: stack))
  | .afterElement elements stack, .closeArray => some (deliver (.array elements.toList) stack)
  | .atFirstKey stack, .closeObject => some (deliver (.object []) stack)
  | .atFirstKey stack, .string key => some (.atColon #[] key stack)
  | .atKey members stack, .string key => some (.atColon members key stack)
  | .atColon members key stack, .colon => some (.atValue (.object members key :: stack))
  | .afterMember members stack, .comma => some (.atKey members stack)
  | .afterMember members stack, .closeObject => some (deliver (.object members.toList) stack)
  | _, _ => none

/-- Reads tokens. -/
def run? (r : Reading) (tokens : List Token) : Option Reading :=
  tokens.foldlM step? r

/-- The value, if it is complete. -/
def value? : Reading → Option Json
  | .complete value => some value
  | _ => none

theorem run?_append (r : Reading) (xs ys : List Token) :
    r.run? (xs ++ ys) = (r.run? xs).bind (·.run? ys) := by
  simp [run?, List.foldlM_append, bind]

end Reading

/-- The value that tokens spell. -/
def ofTokens? (tokens : List Token) : Option Json :=
  ((Reading.atValue []).run? tokens).bind Reading.value?

/-- The value that a text spells. -/
def parse? (text : String) : Option Json :=
  (tokens? text.toList).bind ofTokens?

end Teletype.Json

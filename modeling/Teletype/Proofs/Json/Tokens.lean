import Teletype.Json.Reading

/-!
# The tokens of a value

The tokens that a value is spelled with, in either layout, and how the reader takes them
up: in front of whatever is still open it hands over the value, and nothing else
(`run?_tokens`).
-/

namespace Teletype.Json

mutual

/-- The tokens of a value. -/
def tokens : Json → List Token
  | .null => [.null]
  | .bool b => [.bool b]
  | .number n => [.number n]
  | .string s => [.string s]
  | .array elements =>
    .openArray :: ([.comma].intercalate (elementTokens elements) ++ [.closeArray])
  | .object members =>
    .openObject :: ([.comma].intercalate (memberTokens members) ++ [.closeObject])

/-- The tokens of each element. -/
def elementTokens : List Json → List (List Token)
  | [] => []
  | value :: rest => tokens value :: elementTokens rest

/-- The tokens of each member. -/
def memberTokens : List (Text × Json) → List (List Token)
  | [] => []
  | (key, value) :: rest => (.string key :: .colon :: tokens value) :: memberTokens rest

end

theorem elementTokens_eq_map (elements : List Json) : elementTokens elements = elements.map tokens := by
  induction elements with
  | nil => rfl
  | cons value rest ih => rw [elementTokens, ih, List.map_cons]

theorem memberTokens_eq_map (members : List (Text × Json)) :
    memberTokens members =
      members.map fun member => .string member.1 :: .colon :: tokens member.2 := by
  induction members with
  | nil => rfl
  | cons member rest ih => rw [memberTokens, ih, List.map_cons]

/-- A list put together with a separator, from its first part on. -/
theorem intercalate_cons {α : Type} (sep first : List α) (others : List (List α)) :
    sep.intercalate (first :: others) = first ++ others.flatMap (sep ++ ·) := by
  induction others generalizing first with
  | nil => rw [List.intercalate_singleton, List.flatMap_nil, List.append_nil]
  | cons second rest ih =>
    rw [List.intercalate_cons_cons, ih second, List.flatMap_cons, List.append_assoc,
      List.append_assoc]

namespace Reading

/-- The first token of a value does not close anything. -/
theorem exists_tokens_cons (j : Json) :
    ∃ first others, tokens j = first :: others ∧ first ≠ .closeArray := by
  cases j <;> exact ⟨_, _, rfl, nofun⟩

/-- The first element is read like a later one. -/
theorem run?_atFirstElement (j : Json) (stack : List Frame) :
    (atFirstElement stack).run? (tokens j) = (atValue (.array #[] :: stack)).run? (tokens j) := by
  obtain ⟨first, others, htokens, hfirst⟩ := exists_tokens_cons j
  have hstep : (atFirstElement stack).step? first = (atValue (.array #[] :: stack)).step? first := by
    cases first <;> first | rfl | exact absurd rfl hfirst
  rw [htokens, run?, run?, List.foldlM_cons, List.foldlM_cons, hstep]

theorem run?_cons (r : Reading) (token : Token) (rest : List Token) :
    r.run? (token :: rest) = (r.step? token).bind (·.run? rest) := rfl

mutual

/-- **A value is read from its tokens**, and handed to what is open. -/
theorem run?_tokens : ∀ (j : Json) (stack : List Frame),
    (atValue stack).run? (tokens j) = some (deliver j stack)
  | .null, _ => rfl
  | .bool _, _ => rfl
  | .number _, _ => rfl
  | .string _, _ => rfl
  | .array [], _ => rfl
  | .array (first :: others), stack => by
    have hfirst := run?_tokens first (.array #[] :: stack)
    have hothers := run?_elementTokens others [first] stack
    rw [tokens, elementTokens, intercalate_cons, run?_cons]
    show (atFirstElement stack).run? _ = _
    rw [List.append_assoc, run?_append, run?_atFirstElement, hfirst, Option.bind_some]
    exact hothers
  | .object [], _ => rfl
  | .object ((key, value) :: others), stack => by
    have hvalue := run?_tokens value (.object #[] key :: stack)
    have hothers := run?_memberTokens others [(key, value)] stack
    rw [tokens, memberTokens, intercalate_cons, run?_cons]
    show (atValue (.object #[] key :: stack)).run? (tokens value ++ _ ++ _) = _
    rw [List.append_assoc, run?_append, hvalue, Option.bind_some]
    exact hothers

/-- The elements behind others, and the end of the array. -/
theorem run?_elementTokens : ∀ (elements done : List Json) (stack : List Frame),
    (afterElement done.toArray stack).run?
        ((elementTokens elements).flatMap ([.comma] ++ ·) ++ [.closeArray]) =
      some (deliver (.array (done ++ elements)) stack)
  | [], done, stack => by
    rw [List.append_nil]
    rfl
  | value :: rest, done, stack => by
    have hvalue := run?_tokens value (.array done.toArray :: stack)
    have hrest := run?_elementTokens rest (done ++ [value]) stack
    rw [elementTokens, List.flatMap_cons, List.append_assoc, List.append_assoc, List.singleton_append,
      run?_cons]
    show (atValue (.array done.toArray :: stack)).run? _ = _
    rw [run?_append, hvalue, Option.bind_some, deliver, List.push_toArray, hrest,
      List.append_assoc, List.singleton_append]

/-- The members behind others, and the end of the object. -/
theorem run?_memberTokens : ∀ (members done : List (Text × Json)) (stack : List Frame),
    (afterMember done.toArray stack).run?
        ((memberTokens members).flatMap ([.comma] ++ ·) ++ [.closeObject]) =
      some (deliver (.object (done ++ members)) stack)
  | [], done, stack => by
    rw [List.append_nil]
    rfl
  | (key, value) :: rest, done, stack => by
    have hvalue := run?_tokens value (.object done.toArray key :: stack)
    have hrest := run?_memberTokens rest (done ++ [(key, value)]) stack
    rw [memberTokens, List.flatMap_cons, List.append_assoc, List.append_assoc, List.singleton_append,
      run?_cons]
    show (atValue (.object done.toArray key :: stack)).run? (tokens value ++ _) = _
    rw [run?_append, hvalue, Option.bind_some, deliver, List.push_toArray, hrest,
      List.append_assoc, List.singleton_append]

end

end Reading

/-- The tokens of a value spell it. -/
theorem ofTokens?_tokens (j : Json) : ofTokens? (tokens j) = some j := by
  rw [ofTokens?, Reading.run?_tokens]
  rfl

end Teletype.Json

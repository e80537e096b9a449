/-!
# Blanks

Characters that count as white space, and the two ways of trimming the end of
a text: of white space, and of plain spaces only.
-/

namespace Teletype.Text

/-- White space in the sense of the Unicode property of that name. -/
def isBlank (c : Char) : Bool :=
  (0x09 ≤ c.toNat && c.toNat ≤ 0x0D) || c.toNat = 0x20 || c.toNat = 0x85 || c.toNat = 0xA0 ||
    c.toNat = 0x1680 || (0x2000 ≤ c.toNat && c.toNat ≤ 0x200A) || c.toNat = 0x2028 ||
    c.toNat = 0x2029 || c.toNat = 0x202F || c.toNat = 0x205F || c.toNat = 0x3000

/-- Core's white space is white space here. -/
theorem isBlank_of_isWhitespace {c : Char} (h : c.isWhitespace = true) : isBlank c = true := by
  simp only [Char.isWhitespace, Bool.or_eq_true, decide_eq_true_eq] at h
  rcases h with ((h | h) | h) | h <;> subst h <;> decide

/-- Drops the longest run of elements at the end that all satisfy `p`. -/
def dropEndWhile {α : Type} (p : α → Bool) (xs : List α) : List α :=
  (xs.reverse.dropWhile p).reverse

section DropEndWhile

variable {α : Type} {p : α → Bool} {xs ys zs : List α}

/-- What is dropped is at the end and satisfies `p`. -/
theorem exists_dropEndWhile_append (p : α → Bool) (xs : List α) :
    ∃ ys, xs = dropEndWhile p xs ++ ys ∧ ∀ y ∈ ys, p y = true := by
  refine ⟨(xs.reverse.takeWhile p).reverse, ?_, fun y hy => ?_⟩
  · rw [dropEndWhile, ← List.reverse_append, List.takeWhile_append_dropWhile, List.reverse_reverse]
  · exact List.all_eq_true.mp List.all_takeWhile y (List.mem_reverse.mp hy)

theorem dropEndWhile_append (h : ∀ y ∈ ys, p y = true) :
    dropEndWhile p (xs ++ ys) = dropEndWhile p xs := by
  unfold dropEndWhile
  rw [List.reverse_append, List.dropWhile_append_of_pos fun y hy => h y (List.mem_reverse.mp hy)]

theorem dropEndWhile_concat {y : α} (h : p y = false) :
    dropEndWhile p (xs ++ [y]) = xs ++ [y] := by
  unfold dropEndWhile
  rw [List.reverse_append, List.reverse_singleton, List.singleton_append,
    List.dropWhile_cons_of_neg (by rw [h]; decide), List.reverse_cons, List.reverse_reverse]

/-- What is in front does not matter to what is dropped. -/
theorem dropEndWhile_append_congr (h : dropEndWhile p ys = dropEndWhile p zs) :
    dropEndWhile p (xs ++ ys) = dropEndWhile p (xs ++ zs) := by
  obtain ⟨ys', hys, hdropped⟩ := exists_dropEndWhile_append p ys
  obtain ⟨zs', hzs, hdropped'⟩ := exists_dropEndWhile_append p zs
  rw [hys, hzs, h, ← List.append_assoc, ← List.append_assoc, dropEndWhile_append hdropped,
    dropEndWhile_append hdropped']

theorem dropEndWhile_eq_self (h : ∀ x ∈ xs.getLast?, p x = false) : dropEndWhile p xs = xs := by
  rcases List.eq_nil_or_concat xs with rfl | ⟨front, x, rfl⟩
  · rfl
  · rw [List.concat_eq_append] at h ⊢
    exact dropEndWhile_concat (h x List.getLast?_concat)

/-- What is left ends with an element that does not satisfy `p`. -/
theorem eq_false_of_mem_getLast?_dropEndWhile {x : α}
    (h : x ∈ (dropEndWhile p xs).getLast?) : p x = false := by
  rw [dropEndWhile, List.getLast?_reverse] at h
  have hfirst := List.head?_dropWhile_not p xs.reverse
  rw [Option.mem_def.mp h] at hfirst
  exact hfirst

end DropEndWhile

/-- The text without the white space at its end. -/
def trimBlanks (s : String) : String :=
  String.ofList (dropEndWhile isBlank s.toList)

/-- The text without the spaces at its end. -/
def trimSpaces (s : String) : String :=
  String.ofList (dropEndWhile (· == ' ') s.toList)

end Teletype.Text

/-!
# Fields of a text

A text cut at a separator. There is always one field more than there are
separators, so an empty text is one empty field.
-/

namespace Teletype.Text

/-- Puts a character in front of the first field, or opens a field before it. -/
def addToFields (sep c : Char) (behind : List (List Char)) : List (List Char) :=
  if c = sep then [] :: behind
  else
    match behind with
    | [] => [[c]]
    | first :: others => (c :: first) :: others

/-- The fields between the separators. -/
def fields (sep : Char) (s : List Char) : List (List Char) :=
  s.foldr (addToFields sep) [[]]

/-- What stands before the first separator and what stands behind it. -/
def cutAt? (sep : Char) (s : List Char) : Option (List Char × List Char) :=
  match s.dropWhile (· ≠ sep) with
  | [] => none
  | _ :: behind => some (s.takeWhile (· ≠ sep), behind)

theorem fields_cons (sep c : Char) (s : List Char) :
    fields sep (c :: s) = addToFields sep c (fields sep s) := rfl

/-- The fields are those that core's lists are split into. -/
theorem fields_eq_splitOn (sep : Char) (s : List Char) : fields sep s = s.splitOn sep := by
  induction s with
  | nil => rfl
  | cons c rest ih =>
    have hbehind : rest.splitOn sep ≠ [] := List.splitOn_ne_nil sep rest
    rw [fields_cons, ih, List.splitOn_cons_eq_if_modifyHead]
    unfold addToFields
    by_cases hc : c = sep
    · rw [if_pos hc, if_pos (beq_iff_eq.mpr hc)]
    · rw [if_neg hc, if_neg (fun h => hc (beq_iff_eq.mp h))]
      cases hfields : rest.splitOn sep with
      | nil => exact absurd hfields hbehind
      | cons first others => rfl

theorem fields_ne_nil (sep : Char) (s : List Char) : fields sep s ≠ [] := by
  rw [fields_eq_splitOn]
  exact List.splitOn_ne_nil sep s

/-- The fields joined by the separator are the text again. -/
theorem intercalate_fields (sep : Char) (s : List Char) :
    [sep].intercalate (fields sep s) = s := by
  rw [fields_eq_splitOn]
  exact List.intercalate_splitOn sep

/-- Texts joined by the separator are the fields again, if none of them holds it. -/
theorem fields_intercalate {sep : Char} {texts : List (List Char)} (hne : texts ≠ [])
    (h : ∀ text ∈ texts, sep ∉ text) : fields sep ([sep].intercalate texts) = texts := by
  rw [fields_eq_splitOn]
  exact List.splitOn_intercalate sep h hne

/-- A text is cut at the first separator. -/
theorem cutAt?_append {sep : Char} {before : List Char} (h : sep ∉ before) (behind : List Char) :
    cutAt? sep (before ++ sep :: behind) = some (before, behind) := by
  have hother : ∀ c ∈ before, decide (c ≠ sep) = true :=
    fun c hc => decide_eq_true (fun heq => h (heq ▸ hc))
  unfold cutAt?
  rw [List.dropWhile_append_of_pos hother, List.takeWhile_append_of_pos hother,
    List.dropWhile_cons_of_neg (by simp), List.takeWhile_cons_of_neg (by simp), List.append_nil]

theorem cutAt?_of_not_mem {sep : Char} {s : List Char} (h : sep ∉ s) : cutAt? sep s = none := by
  have hother : ∀ c ∈ s, decide (c ≠ sep) = true :=
    fun c hc => decide_eq_true (fun heq => h (heq ▸ hc))
  have hdrop : s.dropWhile (· ≠ sep) = [] := by
    rw [← List.append_nil s, List.dropWhile_append_of_pos hother]
    rfl
  rw [cutAt?, hdrop]

theorem eq_of_cutAt? {sep : Char} {s before behind : List Char}
    (h : cutAt? sep s = some (before, behind)) :
    s = before ++ sep :: behind ∧ sep ∉ before := by
  unfold cutAt? at h
  split at h
  · simp at h
  · next c rest hd =>
    cases h
    have hc : c = sep := by
      have := List.head?_dropWhile_not (· ≠ sep) s
      rw [hd] at this
      simpa using this
    subst hc
    refine ⟨?_, fun hm => ?_⟩
    · rw [← hd]
      exact List.takeWhile_append_dropWhile.symm
    · have := List.all_takeWhile (p := (· ≠ c)) (l := s)
      rw [List.all_eq_true] at this
      simpa using this c hm

end Teletype.Text

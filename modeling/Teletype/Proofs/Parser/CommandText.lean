import Teletype.Osc

/-!
# Commands as text

How a command is written: a number that says which command it is (`Osc.numbers`), a
semicolon, and what that command is about (`Osc.arguments`). Where there is nothing
behind the semicolon it may be left out.

What was written is read again (`ofText?_of_mem_texts`), for every command that can be
told from all others by its text. Three kinds cannot always: a color name or the
selection of a clipboard that holds a semicolon runs into what follows, no colors at
all are no setting of colors, and a number that has a meaning is not an unknown one.
-/

namespace Teletype

open Text

/-- How far a dynamic color is behind the foreground. -/
def DynamicColor.offset : DynamicColor → Nat
  | .foreground => 0
  | .background => 1
  | .cursor => 2

namespace Osc

/-- A number as it is sent. -/
def numeral (n : Nat) : List Char :=
  Nat.toDigits 10 n

/-- Texts with semicolons between them. -/
def joined (texts : List (List Char)) : List Char :=
  [';'].intercalate texts

/-- The index and the name of a new color. -/
def entryTexts (entry : UInt16 × String) : List (List Char) :=
  [numeral entry.1.toNat, entry.2.toList]

/-- The numbers that a command can be sent with. -/
def numbers : Osc → List Nat
  | setTitle _ => [0, 2]
  | setIconName _ => [1]
  | setColor _ => [4]
  | setDynamicColor which _ => [10 + which.offset]
  | resetColor _ => [104]
  | resetDynamicColor which => [110 + which.offset]
  | clipboard _ _ => [52]
  | unknown command _ => [command.toNat]

/-- What is sent behind the number. -/
def arguments : Osc → List Char
  | setTitle data | setIconName data | setDynamicColor _ data | unknown _ data => data.toList
  | setColor entries => joined (entries.flatMap entryTexts)
  | resetColor indices => joined (indices.map fun i => numeral i.toNat)
  | resetDynamicColor _ => []
  | clipboard selection data => selection.toList ++ ';' :: data.toList

/-- The texts that a command can be sent as. -/
def texts (o : Osc) : List (List Char) :=
  o.numbers.flatMap fun n =>
    (numeral n ++ ';' :: o.arguments) :: if o.arguments = [] then [numeral n] else []

/-- The numbers that have a meaning. -/
def knownNumbers : List Nat :=
  [0, 1, 2, 4, 10, 11, 12, 52, 104, 110, 111, 112]

/-- Whether the text of a command tells it from all others. -/
def IsDistinct : Osc → Prop
  | setColor entries => entries ≠ [] ∧ ∀ entry ∈ entries, ';' ∉ entry.2.toList
  | clipboard selection _ => ';' ∉ selection.toList
  | unknown command _ => command.toNat ∉ knownNumbers
  | _ => True

/-- The strings of a command. -/
def strings : Osc → List String
  | setTitle data | setIconName data | setDynamicColor _ data | unknown _ data => [data]
  | setColor entries => entries.map (·.2)
  | resetColor _ | resetDynamicColor _ => []
  | clipboard selection data => [selection, data]

/-- Whether a text has no control characters below space. -/
def IsVisible (text : List Char) : Prop :=
  ∀ c ∈ text, 0x20 ≤ c.toNat

/-- What makes it possible to send a command. -/
structure IsSendable (o : Osc) : Prop where
  visible : ∀ s ∈ o.strings, IsVisible s.toList
  distinct : o.IsDistinct

instance (text : List Char) : Decidable (IsVisible text) :=
  List.decidableBAll (fun c : Char => 0x20 ≤ c.toNat) text

instance : (o : Osc) → Decidable o.IsDistinct
  | setColor entries =>
    inferInstanceAs (Decidable (entries ≠ [] ∧ ∀ entry ∈ entries, ';' ∉ entry.2.toList))
  | clipboard selection _ => inferInstanceAs (Decidable (';' ∉ selection.toList))
  | unknown command _ => inferInstanceAs (Decidable (command.toNat ∉ knownNumbers))
  | setTitle _ | setIconName _ | setDynamicColor _ _ | resetColor _ | resetDynamicColor _ =>
    isTrue trivial

instance (o : Osc) : Decidable o.IsSendable :=
  decidable_of_iff ((∀ s ∈ o.strings, IsVisible s.toList) ∧ o.IsDistinct)
    ⟨fun h => ⟨h.1, h.2⟩, fun h => ⟨h.visible, h.distinct⟩⟩

variable {o : Osc} {n : Nat} {text : List Char}

/-! ## Numbers -/

theorem isDigit_of_mem_numeral {c : Char} (h : c ∈ numeral n) : c.isDigit = true :=
  Nat.isDigit_of_mem_toDigits (by decide) (by decide) h

theorem semicolon_not_mem_numeral (n : Nat) : ';' ∉ numeral n :=
  fun h => absurd (isDigit_of_mem_numeral h) (by decide)

theorem index?_numeral (i : UInt16) : index? (numeral i.toNat) = some i := by
  have hlimit : i.toNat ≤ UInt16.size - 1 := Nat.le_pred_of_lt i.toNat_lt
  rw [index?, numeral, Numeral.upTo?_toDigits, if_pos hlimit, Option.map_some, UInt16.ofNat_toNat]

/-- The text behind the number is what the command is about. -/
theorem ofText?_numbered (hn : n < UInt32.size) (payload : List Char) :
    ofText? (numeral n ++ ';' :: payload) = some (ofPayload (UInt32.ofNat n) payload) := by
  have hlimit : n ≤ UInt32.size - 1 := Nat.le_pred_of_lt hn
  rw [ofText?, cutAt?_append (semicolon_not_mem_numeral n)]
  simp only [Option.getD_some, numeral, Numeral.upTo?_toDigits, if_pos hlimit, Option.map_some]

theorem ofText?_numeral (hn : n < UInt32.size) :
    ofText? (numeral n) = some (ofPayload (UInt32.ofNat n) []) := by
  have hlimit : n ≤ UInt32.size - 1 := Nat.le_pred_of_lt hn
  rw [ofText?, cutAt?_of_not_mem (semicolon_not_mem_numeral n)]
  simp only [Option.getD_none, numeral, Numeral.upTo?_toDigits, if_pos hlimit, Option.map_some]

/-! ## What a command is about -/

theorem fields_joined {texts : List (List Char)} (hne : texts ≠ [])
    (h : ∀ text ∈ texts, ';' ∉ text) : fields ';' (joined texts) = texts :=
  fields_intercalate hne h

theorem colorEntries_entryTexts (entries : List (UInt16 × String)) :
    colorEntries (entries.flatMap entryTexts) = entries := by
  induction entries with
  | nil => rfl
  | cons entry rest ih =>
    show colorEntries (numeral entry.1.toNat :: entry.2.toList :: rest.flatMap entryTexts) = _
    rw [colorEntries, index?_numeral, ih, String.ofList_toList]

theorem semicolon_not_mem_entryTexts {entries : List (UInt16 × String)}
    (h : ∀ entry ∈ entries, ';' ∉ entry.2.toList) :
    ∀ text ∈ entries.flatMap entryTexts, ';' ∉ text := by
  intro text htext
  obtain ⟨entry, hentry, hmem⟩ := List.mem_flatMap.mp htext
  rcases List.mem_cons.mp hmem with rfl | hmem
  · exact semicolon_not_mem_numeral _
  · rw [List.mem_singleton.mp hmem]
    exact h entry hentry

theorem ofPayload_setColor {entries : List (UInt16 × String)} (hne : entries ≠ [])
    (h : ∀ entry ∈ entries, ';' ∉ entry.2.toList) :
    ofPayload 4 (joined (entries.flatMap entryTexts)) = setColor entries := by
  obtain ⟨entry, rest, rfl⟩ := List.exists_cons_of_ne_nil hne
  have htexts : (entry :: rest).flatMap entryTexts ≠ [] := List.cons_ne_nil _ _
  have hread : colorEntries (fields ';' (joined ((entry :: rest).flatMap entryTexts))) =
      entry :: rest := by
    rw [fields_joined htexts (semicolon_not_mem_entryTexts h), colorEntries_entryTexts]
  have hcommand : (4 : UInt32).toNat = 4 := rfl
  simp only [ofPayload, hcommand, hread]

theorem ofPayload_resetColor (indices : List UInt16) :
    ofPayload 104 (joined (indices.map fun i => numeral i.toNat)) = resetColor indices := by
  have hread : (fields ';' (joined (indices.map fun i => numeral i.toNat))).filterMap index? =
      indices := by
    cases indices with
    | nil => rfl
    | cons i rest =>
      have hne : ((i :: rest).map fun i => numeral i.toNat) ≠ [] := List.cons_ne_nil _ _
      have hnone : ∀ text ∈ (i :: rest).map fun i => numeral i.toNat, ';' ∉ text := by
        intro text htext
        obtain ⟨j, -, rfl⟩ := List.mem_map.mp htext
        exact semicolon_not_mem_numeral _
      have hindex : index? ∘ (fun i : UInt16 => numeral i.toNat) = some := funext index?_numeral
      rw [fields_joined hne hnone, List.filterMap_map, hindex, List.filterMap_some]
  exact congrArg resetColor hread

theorem ofPayload_clipboard {selection : String} (data : String)
    (h : ';' ∉ selection.toList) :
    ofPayload 52 (selection.toList ++ ';' :: data.toList) = clipboard selection data := by
  have hcommand : (52 : UInt32).toNat = 52 := rfl
  simp only [ofPayload, hcommand, cutAt?_append h, String.ofList_toList]

theorem ofPayload_unknown {command : UInt32} (data : String) (h : command.toNat ∉ knownNumbers) :
    ofPayload command data.toList = unknown command data := by
  have hother : ∀ n ∈ knownNumbers, command.toNat ≠ n := fun n hn heq => h (heq ▸ hn)
  unfold ofPayload
  rw [String.ofList_toList]
  split
  all_goals first
    | rfl
    | next heq => exact absurd heq (hother _ (by decide))

/-- **What a command is about is read as it was written.** -/
theorem ofPayload_arguments (ho : o.IsDistinct) (hn : n ∈ o.numbers) :
    ofPayload (UInt32.ofNat n) o.arguments = o := by
  cases o with
  | setTitle title =>
    rcases List.mem_cons.mp hn with rfl | hn
    · exact congrArg setTitle String.ofList_toList
    · rw [List.mem_singleton.mp hn]
      exact congrArg setTitle String.ofList_toList
  | setIconName name =>
    rw [List.mem_singleton.mp hn]
    exact congrArg setIconName String.ofList_toList
  | setColor entries =>
    rw [List.mem_singleton.mp hn]
    exact ofPayload_setColor ho.1 ho.2
  | setDynamicColor which spec =>
    rw [List.mem_singleton.mp hn]
    cases which <;> exact congrArg (setDynamicColor _) String.ofList_toList
  | resetColor indices =>
    rw [List.mem_singleton.mp hn]
    exact ofPayload_resetColor indices
  | resetDynamicColor which =>
    rw [List.mem_singleton.mp hn]
    cases which <;> rfl
  | clipboard selection data =>
    rw [List.mem_singleton.mp hn]
    exact ofPayload_clipboard data ho
  | unknown command data =>
    rw [List.mem_singleton.mp hn, UInt32.ofNat_toNat]
    exact ofPayload_unknown data ho

theorem lt_of_mem_numbers (hn : n ∈ o.numbers) : n < UInt32.size := by
  cases o with
  | setDynamicColor which _ | resetDynamicColor which =>
    rw [List.mem_singleton.mp hn]
    cases which <;> decide
  | setTitle _ =>
    rcases List.mem_cons.mp hn with rfl | hn
    · decide
    · rw [List.mem_singleton.mp hn]
      decide
  | unknown command _ =>
    rw [List.mem_singleton.mp hn]
    exact command.toNat_lt
  | _ =>
    rw [List.mem_singleton.mp hn]
    decide

/-- **A command is read as it was written.** -/
theorem ofText?_of_mem_texts (ho : o.IsDistinct) (h : text ∈ o.texts) : ofText? text = some o := by
  obtain ⟨n, hn, hmem⟩ := List.mem_flatMap.mp h
  have hsize := lt_of_mem_numbers hn
  rcases List.mem_cons.mp hmem with rfl | hbare
  · rw [ofText?_numbered hsize, ofPayload_arguments ho hn]
  · split at hbare
    next hnone =>
      rw [List.mem_singleton.mp hbare, ofText?_numeral hsize, ← hnone, ofPayload_arguments ho hn]
    next => cases hbare

/-! ## What a command is written with -/

theorem isVisible_numeral (n : Nat) : IsVisible (numeral n) := by
  intro c hc
  have hlow := (Char.isDigit_iff_toNat.mp (isDigit_of_mem_numeral hc)).1
  exact Nat.le_trans (by decide) hlow

theorem IsVisible.append_semicolon {before behind : List Char} (hbefore : IsVisible before)
    (hbehind : IsVisible behind) : IsVisible (before ++ ';' :: behind) := by
  intro c hc
  rcases List.mem_append.mp hc with hc | hc
  · exact hbefore c hc
  · rcases List.mem_cons.mp hc with rfl | hc
    · decide
    · exact hbehind c hc

theorem isVisible_joined {texts : List (List Char)} (h : ∀ text ∈ texts, IsVisible text) :
    IsVisible (joined texts) := by
  induction texts with
  | nil => exact List.forall_mem_nil _
  | cons text rest ih =>
    obtain ⟨htext, hrest⟩ := List.forall_mem_cons.mp h
    unfold joined at ih ⊢
    cases rest with
    | nil =>
      rw [List.intercalate_singleton]
      exact htext
    | cons next others =>
      rw [List.intercalate_cons_cons, List.append_assoc]
      exact htext.append_semicolon (ih hrest)

theorem isVisible_arguments (ho : ∀ s ∈ o.strings, IsVisible s.toList) :
    IsVisible o.arguments := by
  cases o with
  | setColor entries =>
    refine isVisible_joined fun text htext => ?_
    obtain ⟨entry, hentry, hmem⟩ := List.mem_flatMap.mp htext
    rcases List.mem_cons.mp hmem with rfl | hmem
    · exact isVisible_numeral _
    · rw [List.mem_singleton.mp hmem]
      exact ho _ (List.mem_map_of_mem hentry)
  | resetColor indices =>
    refine isVisible_joined fun text htext => ?_
    obtain ⟨i, -, rfl⟩ := List.mem_map.mp htext
    exact isVisible_numeral _
  | resetDynamicColor which => exact List.forall_mem_nil _
  | clipboard selection data =>
    obtain ⟨hselection, hdata⟩ := List.forall_mem_cons.mp ho
    exact hselection.append_semicolon (hdata _ List.mem_cons_self)
  | _ => exact ho _ List.mem_cons_self

/-- **A command is written in visible characters**, if its strings are. -/
theorem isVisible_of_mem_texts (ho : ∀ s ∈ o.strings, IsVisible s.toList) (h : text ∈ o.texts) :
    IsVisible text := by
  obtain ⟨n, -, hmem⟩ := List.mem_flatMap.mp h
  rcases List.mem_cons.mp hmem with rfl | hbare
  · exact (isVisible_numeral n).append_semicolon (isVisible_arguments ho)
  · split at hbare
    next =>
      rw [List.mem_singleton.mp hbare]
      exact isVisible_numeral n
    next => cases hbare

end Osc

end Teletype

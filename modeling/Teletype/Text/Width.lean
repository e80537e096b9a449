import Teletype.Text.WidthTable

/-!
# Columns of text

How many columns a character takes when it is printed, and how many a string
takes when it is shown. The two differ in three places: a control character
has no column when printed and one when shown, a selector behind a character
changes the character's columns, and a skin tone joins the emoji before it.
-/

namespace Teletype.Text

/-- The columns a printed character takes. Control characters take none, and
U+17D8 is the one character that takes three. -/
def charWidth (c : Char) : Nat :=
  if c.toNat < 0x20 then 0
  else if c.toNat < 0x7F then 1
  else if c.toNat < 0xA0 then 0
  else if c.toNat = 0x17D8 then 3
  else if WidthTable.twoColumns.covers c then 2
  else if WidthTable.noColumns.covers c then 0
  else 1

/-- The columns of a character inside a string, when nothing behind it changes
them. -/
def shownWidth (c : Char) : Nat :=
  if c = '\n' then 0
  else if c.toNat < 0x20 || (0x7F ≤ c.toNat && c.toNat < 0xA0) then 1
  else charWidth c

/-- The columns of a character together with the character behind it, when the
two are shown as one. -/
def joinedWidth (c next : Char) : Option Nat :=
  if next = '\uFE0F' && WidthTable.emojiByRequest.covers c then some 2
  else if next = '\uFE0E' && WidthTable.textByRequest.covers c then some 1
  else if 0x1F3FB ≤ next.toNat && next.toNat ≤ 0x1F3FF && WidthTable.takesSkinTone.covers c then
    some 2
  else none

/-- The columns of a sequence of characters. -/
def charsWidth : List Char → Nat
  | [] => 0
  | [c] => shownWidth c
  | c :: next :: rest =>
    match joinedWidth c next with
    | some width => width + charsWidth rest
    | none => shownWidth c + charsWidth (next :: rest)

/-- The columns of a string. -/
def stringWidth (s : String) : Nat :=
  charsWidth s.toList

@[simp] theorem stringWidth_empty : stringWidth "" = 0 := rfl

theorem charWidth_le_three (c : Char) : charWidth c ≤ 3 := by
  unfold charWidth
  repeat' split
  all_goals omega

/-- A character that takes columns when printed takes as many inside a string. -/
theorem shownWidth_eq {c : Char} (h : charWidth c ≠ 0) : shownWidth c = charWidth c := by
  unfold shownWidth
  split
  · next hnewline =>
    rw [hnewline] at h
    exact absurd (by decide) h
  · split
    · next hcontrol =>
      have hrange : c.toNat < 0x20 ∨ (0x7F ≤ c.toNat ∧ c.toNat < 0xA0) := by simpa using hcontrol
      refine absurd ?_ h
      unfold charWidth
      rcases hrange with hlow | ⟨hlow, hhigh⟩
      · rw [if_pos hlow]
      · rw [if_neg (by omega), if_neg (by omega), if_pos hhigh]
    · rfl

theorem stringWidth_toString {c : Char} (h : charWidth c ≠ 0) :
    stringWidth c.toString = charWidth c := by
  have hlist : c.toString.toList = [c] := by simp [Char.toString]
  rw [stringWidth, hlist, charsWidth, shownWidth_eq h]

end Teletype.Text

import Teletype.Color.Spec
import Mathlib.Data.Nat.Digits.Defs
import Mathlib.Tactic.Ring

/-!
# What color names are read as

The names that are meant: three groups of one to four digits behind `rgb:`, with
slashes between them, or three groups of equal length behind `#`. A group stands
for its share of the largest number of as many digits.

The names that are read are these, and those in which a group begins with a sign
`+`. The sign counts as a digit where the largest number is taken, and as none
where the value is.
-/

namespace Teletype.Rgb

open Text

/-- The digits of base sixteen in their order. -/
def hexDigits : List Char := "0123456789abcdef".toList

/-- Digits may be written in capitals. -/
def IsHexDigit (c : Char) : Prop := c.toLower ∈ hexDigits

/-- The number of a digit. -/
def hexDigit (c : Char) : Nat := hexDigits.idxOf c.toLower

/-- The number that a row of digits is. -/
def hexValue (digits : List Char) : Nat :=
  Nat.ofDigits 16 (digits.map hexDigit).reverse

/-- What a group of digits stands for. -/
structure Shade (group : List Char) (level : UInt8) : Prop where
  length_pos : 1 ≤ group.length
  length_le : group.length ≤ 4
  isHexDigit : ∀ c ∈ group, IsHexDigit c
  level_eq : level.toNat = hexValue group * 255 / (16 ^ group.length - 1)

/-- What a group with a sign is read as: the value of its digits, as a share of
what the group could hold if the sign were a digit too. -/
structure SignedShade (group : List Char) (level : UInt8) (digits : List Char) : Prop where
  group_eq : group = '+' :: digits
  length_pos : 1 ≤ digits.length
  length_le : group.length ≤ 4
  isHexDigit : ∀ c ∈ digits, IsHexDigit c
  level_eq : level.toNat = hexValue digits * 255 / (16 ^ group.length - 1)

/-- What a group is read as. -/
def Reads (group : List Char) (level : UInt8) : Prop :=
  Shade group level ∨ ∃ digits, SignedShade group level digits

/-- The two ways to write three groups. -/
inductive Spells : List Char → List Char → List Char → List Char → Prop
  | slashes (red green blue : List Char) :
      Spells ("rgb:".toList ++ (red ++ '/' :: (green ++ '/' :: blue))) red green blue
  | equal (red green blue : List Char) (hgreen : green.length = red.length)
      (hblue : blue.length = red.length) : Spells ('#' :: (red ++ (green ++ blue))) red green blue

/-- Three groups stand for the parts of a color. -/
def StandFor (stands : List Char → UInt8 → Prop) (red green blue : List Char) (color : Rgb) :
    Prop :=
  stands red color.red ∧ stands green color.green ∧ stands blue color.blue

/-- A name whose groups stand for the parts of a color. -/
def NamesBy (stands : List Char → UInt8 → Prop) (s : List Char) (color : Rgb) : Prop :=
  ∃ red green blue, Spells s red green blue ∧ StandFor stands red green blue color

/-- A name of a color. -/
def Names : List Char → Rgb → Prop := NamesBy Shade

section Digits

/-- A character beyond the plain ones is no digit. -/
theorem not_isHexDigit_of_le {c : Char} (h : 128 ≤ c.toNat) : ¬ IsHexDigit c := by
  have hsame : c.toLower = c := by
    refine dif_neg ?_
    rintro ⟨-, hle⟩
    have : c.toNat ≤ 0x5A := hle
    omega
  intro hmem
  rw [IsHexDigit, hsame] at hmem
  have hall : hexDigits.all (·.toNat < 128) = true := by decide
  have hplain : c.toNat < 128 := of_decide_eq_true (List.all_eq_true.mp hall c hmem)
  omega

instance (c : Char) : Decidable (IsHexDigit c) :=
  inferInstanceAs (Decidable (c.toLower ∈ hexDigits))

theorem toNat_lt_of_isHexDigit {c : Char} (h : IsHexDigit c) : c.toNat < 128 :=
  Nat.lt_of_not_le fun hle => not_isHexDigit_of_le hle h

theorem hexDigit_lt {c : Char} (h : IsHexDigit c) : hexDigit c < 16 :=
  List.idxOf_lt_length_of_mem h

/-- A digit is read as its number, and nothing else is read. -/
theorem digit?_eq (c : Char) :
    Numeral.digit? c = if IsHexDigit c then some (hexDigit c) else none := by
  by_cases hc : c.toNat < 128
  · have hall : ∀ n : Fin 128, Numeral.digit? (Char.ofNat n) =
        if IsHexDigit (Char.ofNat n) then some (hexDigit (Char.ofNat n)) else none := by
      decide +kernel
    have hread := hall ⟨c.toNat, hc⟩
    rwa [Char.ofNat_toNat] at hread
  · rw [if_neg (not_isHexDigit_of_le (by omega)), Numeral.digit?]
    simp only [Bool.and_eq_true, decide_eq_true_eq]
    rw [if_neg (by omega), if_neg (by omega), if_neg (by omega)]

theorem hexValue_cons (c : Char) (rest : List Char) :
    hexValue (c :: rest) = hexDigit c * 16 ^ rest.length + hexValue rest := by
  rw [hexValue, List.map_cons, Nat.ofDigits_reverse_cons, List.length_map, hexValue, Nat.mul_comm,
    Nat.add_comm]

theorem hexValue_lt {digits : List Char} (h : ∀ c ∈ digits, IsHexDigit c) :
    hexValue digits < 16 ^ digits.length := by
  have hlt : Nat.ofDigits 16 (digits.map hexDigit).reverse <
      16 ^ (digits.map hexDigit).reverse.length := by
    refine Nat.ofDigits_lt_base_pow_length (by decide) fun d hd => ?_
    obtain ⟨c, hc, rfl⟩ := List.mem_map.mp (List.mem_reverse.mp hd)
    exact hexDigit_lt (h c hc)
  rwa [List.length_reverse, List.length_map] at hlt

/-- A row of digits is read behind a number as the digits that follow it. -/
theorem extend?_eq_some_iff {digits : List Char} {start value : Nat} :
    Numeral.extend? 16 start digits = some value ↔ (∀ c ∈ digits, IsHexDigit c) ∧
      value = start * 16 ^ digits.length + hexValue digits := by
  induction digits generalizing start with
  | nil => simp [Numeral.extend?, hexValue, eq_comm]
  | cons c rest ih =>
    rw [Numeral.extend?, digit?_eq, List.forall_mem_cons]
    by_cases hc : IsHexDigit c
    · have hvalue : (start * 16 + hexDigit c) * 16 ^ rest.length + hexValue rest =
          start * 16 ^ (c :: rest).length + hexValue (c :: rest) := by
        rw [hexValue_cons, List.length_cons, Nat.pow_succ]
        ring
      rw [if_pos hc]
      show (if hexDigit c < 16 then _ else _) = _ ↔ _
      rw [if_pos (hexDigit_lt hc), ih, hvalue]
      simp [hc]
    · simp [hc]

theorem digits?_eq_some_iff {digits : List Char} {value : Nat} :
    Numeral.digits? 16 digits = some value ↔
      1 ≤ digits.length ∧ (∀ c ∈ digits, IsHexDigit c) ∧ value = hexValue digits := by
  cases digits with
  | nil => simp [Numeral.digits?]
  | cons c rest => simp [Numeral.digits?, extend?_eq_some_iff]

/-- A numeral is a row of digits, or one behind a sign. -/
theorem unsigned?_eq_some_iff {text : List Char} {value : Nat} :
    Numeral.unsigned? 16 text = some value ↔
      ∃ digits, (text = digits ∨ text = '+' :: digits) ∧
        1 ≤ digits.length ∧ (∀ c ∈ digits, IsHexDigit c) ∧ value = hexValue digits := by
  have hsign : ¬ IsHexDigit '+' := by decide
  unfold Numeral.unsigned?
  split
  next rest =>
    rw [digits?_eq_some_iff]
    constructor
    · exact fun h => ⟨rest, .inr rfl, h⟩
    · rintro ⟨digits, rfl | htext, hlength, hdigits, hvalue⟩
      · exact absurd (hdigits '+' List.mem_cons_self) hsign
      · cases htext
        exact ⟨hlength, hdigits, hvalue⟩
  next hnone =>
    rw [digits?_eq_some_iff]
    constructor
    · exact fun h => ⟨text, .inl rfl, h⟩
    · rintro ⟨digits, rfl | htext, h⟩
      · exact h
      · exact absurd htext (hnone digits)

end Digits

section Groups

variable {group : List Char} {level : UInt8}

theorem utf8Size_of_lt {c : Char} (h : c.toNat < 128) : c.utf8Size = 1 := by
  rw [Char.utf8Size, if_pos]
  exact Nat.le_of_lt_succ h

/-- Plain characters take a byte each. -/
theorem utf8Length_eq_length {s : List Char} (h : ∀ c ∈ s, c.toNat < 128) :
    utf8Length s = s.length := by
  induction s with
  | nil => rfl
  | cons c rest ih =>
    obtain ⟨hc, hrest⟩ := List.forall_mem_cons.mp h
    rw [List.length_cons, ← ih hrest, utf8Length, List.foldr_cons, utf8Size_of_lt hc, Nat.add_comm]
    rfl

/-- A share of 255 is a byte. -/
theorem share_lt {value size : Nat} (h : value < 16 ^ size) :
    value * 255 / (16 ^ size - 1) < 256 := by
  rcases Nat.eq_zero_or_pos (16 ^ size - 1) with hzero | hpos
  · rw [hzero, Nat.div_zero]
    decide
  · have hle : value * 255 ≤ (16 ^ size - 1) * 255 := Nat.mul_le_mul_right 255 (by omega)
    exact Nat.lt_succ_of_le (Nat.div_le_of_le_mul hle)

/-- What is read is plain text. -/
theorem Reads.toNat_lt (h : Reads group level) : ∀ c ∈ group, c.toNat < 128 := by
  obtain hshade | ⟨digits, hsigned⟩ := h
  · exact fun c hc => toNat_lt_of_isHexDigit (hshade.isHexDigit c hc)
  · rw [hsigned.group_eq, List.forall_mem_cons]
    exact ⟨by decide, fun c hc => toNat_lt_of_isHexDigit (hsigned.isHexDigit c hc)⟩

theorem Reads.length_pos (h : Reads group level) : 1 ≤ group.length := by
  obtain hshade | ⟨digits, hsigned⟩ := h
  · exact hshade.length_pos
  · rw [hsigned.group_eq, List.length_cons]
    exact Nat.le_add_left 1 _

/-- No separator is part of what is read. -/
theorem Reads.slash_not_mem (h : Reads group level) : '/' ∉ group := by
  have hslash : ¬ IsHexDigit '/' := by decide
  obtain hshade | ⟨digits, hsigned⟩ := h
  · exact fun hmem => hslash (hshade.isHexDigit _ hmem)
  · rw [hsigned.group_eq]
    intro hmem
    obtain heq | hmem := List.mem_cons.mp hmem
    · exact absurd heq (by decide)
    · exact hslash (hsigned.isHexDigit _ hmem)

theorem channel?_eq_some : channel? group = some level ↔
    1 ≤ utf8Length group ∧ utf8Length group ≤ 4 ∧ ∃ value, Numeral.unsigned? 16 group = some value ∧
      UInt8.ofNat (value * 255 / (16 ^ utf8Length group - 1)) = level := by
  rw [channel?]
  simp only [Bool.or_eq_true, decide_eq_true_eq]
  split
  next hsize =>
    refine ⟨fun h => absurd h (by simp), fun h => ?_⟩
    omega
  next hsize =>
    have hpos : 1 ≤ utf8Length group := by omega
    have hle : utf8Length group ≤ 4 := by omega
    cases Numeral.unsigned? 16 group with
    | none => simp
    | some value => simp [hpos, hle, Nat.pow_eq]

/-- The byte of a share is the share itself. -/
theorem ofNat_share_eq_iff {value size : Nat} (h : value < 16 ^ size) :
    UInt8.ofNat (value * 255 / (16 ^ size - 1)) = level ↔
      level.toNat = value * 255 / (16 ^ size - 1) := by
  rw [← UInt8.toNat_inj, UInt8.toNat_ofNat_of_lt' (share_lt h), eq_comm]

/-- **A group is read as its share of the largest number**, with or without a sign. -/
theorem channel?_eq_some_iff : channel? group = some level ↔ Reads group level := by
  rw [channel?_eq_some]
  constructor
  · rintro ⟨-, hle, value, hvalue, hlevel⟩
    obtain ⟨digits, htext, hlength, hdigits, rfl⟩ := unsigned?_eq_some_iff.mp hvalue
    have hplain : ∀ c ∈ digits, c.toNat < 128 := fun c hc => toNat_lt_of_isHexDigit (hdigits c hc)
    have hlt : hexValue digits < 16 ^ digits.length := hexValue_lt hdigits
    obtain rfl | rfl := htext
    · rw [utf8Length_eq_length hplain] at hle hlevel
      exact .inl ⟨hlength, hle, hdigits, (ofNat_share_eq_iff hlt).mp hlevel⟩
    · have hlonger : hexValue digits < 16 ^ ('+' :: digits).length :=
        hlt.trans_le (Nat.pow_le_pow_right (by decide) (by simp))
      rw [utf8Length_eq_length (List.forall_mem_cons.mpr ⟨by decide, hplain⟩)] at hle hlevel
      exact .inr ⟨digits, rfl, hlength, hle, hdigits, (ofNat_share_eq_iff hlonger).mp hlevel⟩
  · intro h
    rw [utf8Length_eq_length h.toNat_lt]
    refine ⟨h.length_pos, ?_⟩
    obtain hshade | ⟨digits, hsigned⟩ := h
    · have hread := unsigned?_eq_some_iff.mpr
        ⟨group, .inl rfl, hshade.length_pos, hshade.isHexDigit, rfl⟩
      exact ⟨hshade.length_le, hexValue group, hread,
        (ofNat_share_eq_iff (hexValue_lt hshade.isHexDigit)).mpr hshade.level_eq⟩
    · have hread := unsigned?_eq_some_iff.mpr
        ⟨digits, .inr hsigned.group_eq, hsigned.length_pos, hsigned.isHexDigit, rfl⟩
      have hlonger : hexValue digits < 16 ^ group.length := by
        rw [hsigned.group_eq]
        exact (hexValue_lt hsigned.isHexDigit).trans_le
          (Nat.pow_le_pow_right (by decide) (by simp))
      exact ⟨hsigned.length_le, hexValue digits, hread,
        (ofNat_share_eq_iff hlonger).mpr hsigned.level_eq⟩

end Groups

section Spelled

variable {red green blue : List Char} {color : Rgb}

theorem ofChannels?_eq_some_iff :
    ofChannels? red green blue = some color ↔ StandFor Reads red green blue color := by
  simp only [StandFor, ← channel?_eq_some_iff, ofChannels?, Option.bind_eq_bind,
    Option.bind_eq_some_iff, Option.some.injEq]
  constructor
  · rintro ⟨r, hred, g, hgreen, b, hblue, rfl⟩
    exact ⟨hred, hgreen, hblue⟩
  · rintro ⟨hred, hgreen, hblue⟩
    exact ⟨_, hred, _, hgreen, _, hblue, rfl⟩

/-- Three groups between slashes are the three fields. -/
theorem fields_eq_iff {parts : List Char} (h : ∀ group ∈ [red, green, blue], '/' ∉ group) :
    fields '/' parts = [red, green, blue] ↔ parts = red ++ '/' :: (green ++ '/' :: blue) := by
  have hjoined : ['/'].intercalate [red, green, blue] = red ++ '/' :: (green ++ '/' :: blue) := by
    simp [List.intercalate]
  constructor
  · intro hfields
    rw [← hjoined, ← hfields, intercalate_fields]
  · rintro rfl
    rw [← hjoined, fields_intercalate (by simp) h]

theorem ofSpec?_slashes {parts : List Char} :
    ofSpec? ('r' :: 'g' :: 'b' :: ':' :: parts) = some color ↔
      ∃ red green blue, parts = red ++ '/' :: (green ++ '/' :: blue) ∧
        StandFor Reads red green blue color := by
  have hnone : ∀ {red green blue}, StandFor Reads red green blue color →
      ∀ group ∈ [red, green, blue], '/' ∉ group := by
    intro red green blue h group hgroup
    simp only [List.mem_cons, List.not_mem_nil, or_false] at hgroup
    obtain rfl | rfl | rfl := hgroup
    · exact h.1.slash_not_mem
    · exact h.2.1.slash_not_mem
    · exact h.2.2.slash_not_mem
  rw [ofSpec?]
  constructor
  · split
    next red green blue hfields =>
      intro h
      have hread : StandFor Reads red green blue color := ofChannels?_eq_some_iff.mp h
      exact ⟨red, green, blue, (fields_eq_iff (hnone hread)).mp hfields, hread⟩
    next => exact fun h => absurd h (by simp)
  · rintro ⟨red, green, blue, hparts, hread⟩
    rw [(fields_eq_iff (hnone hread)).mpr hparts]
    exact ofChannels?_eq_some_iff.mpr hread

/-- A row of plain characters whose length is a multiple of three. -/
def isCuttable (hex : List Char) : Bool :=
  !hex.isEmpty && hex.length % 3 = 0 && hex.all (·.toNat < 0x80)

theorem isCuttable_iff {hex : List Char} : isCuttable hex = true ↔
    1 ≤ hex.length ∧ hex.length % 3 = 0 ∧ ∀ c ∈ hex, c.toNat < 128 := by
  simp [isCuttable, Nat.one_le_iff_ne_zero, and_assoc]

theorem ofSpec?_number (hex : List Char) : ofSpec? ('#' :: hex) =
    if isCuttable hex then
      ofChannels? (hex.take (hex.length / 3)) ((hex.drop (hex.length / 3)).take (hex.length / 3))
        (hex.drop (2 * (hex.length / 3)))
    else none := by
  have hrefused : (hex.isEmpty || hex.length % 3 ≠ 0 || !hex.all (·.toNat < 0x80)) =
      !isCuttable hex := by
    simp [isCuttable, Bool.not_and]
  show (if (hex.isEmpty || hex.length % 3 ≠ 0 || !hex.all (·.toNat < 0x80)) = true then none
    else _) = _
  rw [hrefused]
  cases isCuttable hex <;> rfl

theorem ofSpec?_equal {hex : List Char} : ofSpec? ('#' :: hex) = some color ↔
    ∃ red green blue, hex = red ++ (green ++ blue) ∧ green.length = red.length ∧
      blue.length = red.length ∧ StandFor Reads red green blue color := by
  rw [ofSpec?_number]
  constructor
  · split
    next hcut =>
      intro h
      obtain ⟨-, hthird, -⟩ := isCuttable_iff.mp hcut
      refine ⟨_, _, _, ?_, ?_, ?_, ofChannels?_eq_some_iff.mp h⟩
      · rw [Nat.two_mul, ← List.drop_drop, List.take_append_drop, List.take_append_drop]
      · simp only [List.length_take, List.length_drop]
        omega
      · simp only [List.length_take, List.length_drop]
        omega
    next => exact fun h => absurd h (by simp)
  · rintro ⟨red, green, blue, rfl, hgreen, hblue, hread⟩
    have hlength : (red ++ (green ++ blue)).length = 3 * red.length := by
      simp only [List.length_append]
      omega
    have hthird : (red ++ (green ++ blue)).length / 3 = red.length := by omega
    have hplain : ∀ c ∈ red ++ (green ++ blue), c.toNat < 128 := by
      simp only [List.forall_mem_append]
      exact ⟨hread.1.toNat_lt, hread.2.1.toNat_lt, hread.2.2.toNat_lt⟩
    have hpos : 1 ≤ red.length := hread.1.length_pos
    rw [if_pos (isCuttable_iff.mpr ⟨by omega, by omega, hplain⟩), hthird, Nat.two_mul,
      ← List.drop_drop, List.take_left, List.drop_left, List.take_left' hgreen,
      List.drop_left' hgreen]
    exact ofChannels?_eq_some_iff.mpr hread

/-- **What is read is a name in one of the two forms**, whose groups are read. -/
theorem ofSpec?_eq_some_iff {s : List Char} :
    ofSpec? s = some color ↔ NamesBy Reads s color := by
  constructor
  · intro h
    unfold ofSpec? at h
    split at h
    next parts =>
      obtain ⟨red, green, blue, rfl, hread⟩ := ofSpec?_slashes.mp h
      exact ⟨red, green, blue, .slashes red green blue, hread⟩
    next hex =>
      obtain ⟨red, green, blue, rfl, hgreen, hblue, hread⟩ := ofSpec?_equal.mp h
      exact ⟨red, green, blue, .equal red green blue hgreen hblue, hread⟩
    next => exact absurd h (by simp)
  · rintro ⟨red, green, blue, hspells, hread⟩
    cases hspells with
    | slashes => exact ofSpec?_slashes.mpr ⟨red, green, blue, rfl, hread⟩
    | equal _ _ _ hgreen hblue =>
      exact ofSpec?_equal.mpr ⟨red, green, blue, rfl, hgreen, hblue, hread⟩

end Spelled

section Sliced

/-- A text cut in two at a byte, if a character ends there. -/
def cutBytes? : Nat → List Char → Option (List Char × List Char)
  | 0, s => some ([], s)
  | _ + 1, [] => none
  | n + 1, c :: rest =>
    if c.utf8Size ≤ n + 1 then do
      let (front, back) ← cutBytes? (n + 1 - c.utf8Size) rest
      some (c :: front, back)
    else none

/-- The text between two bytes, if both are where a character begins or the text
ends. -/
def slice? (first last : Nat) (s : List Char) : Option (List Char) := do
  let (front, _) ← cutBytes? last s
  let (_, back) ← cutBytes? first front
  some back

/-- The color that a name stands for, where the groups of a row are cut out of it at
their bytes. There is no outcome if a slice has no place in the row. -/
def sliced? : List Char → Option (Option Rgb)
  | '#' :: hex =>
    let size := utf8Length hex / 3
    if utf8Length hex = 0 || utf8Length hex % 3 ≠ 0 || !hex.all (·.toNat < 0x80) then some none
    else do
      let red ← slice? 0 size hex
      let green ← slice? size (2 * size) hex
      let blue ← slice? (2 * size) (utf8Length hex) hex
      some (ofChannels? red green blue)
  | s => some (ofSpec? s)

variable {s : List Char}

theorem cutBytes?_of_le (h : ∀ c ∈ s, c.toNat < 128) {n : Nat} (hn : n ≤ s.length) :
    cutBytes? n s = some (s.take n, s.drop n) := by
  induction s generalizing n with
  | nil =>
    obtain rfl : n = 0 := Nat.le_zero.mp hn
    rfl
  | cons c rest ih =>
    obtain ⟨hc, hrest⟩ := List.forall_mem_cons.mp h
    cases n with
    | zero => rfl
    | succ n => simp [cutBytes?, utf8Size_of_lt hc, ih hrest (Nat.le_of_succ_le_succ hn)]

theorem slice?_of_le (h : ∀ c ∈ s, c.toNat < 128) {first last : Nat} (hfirst : first ≤ last)
    (hlast : last ≤ s.length) : slice? first last s = some ((s.take last).drop first) := by
  have hfront : ∀ c ∈ s.take last, c.toNat < 128 := fun c hc => h c (List.mem_of_mem_take hc)
  have hlength : first ≤ (s.take last).length := by
    rw [List.length_take]
    omega
  rw [slice?, cutBytes?_of_le h hlast]
  show (cutBytes? first (s.take last)).bind _ = _
  rw [cutBytes?_of_le hfront hlength]
  rfl

/-- **No slice is out of range**, and what is cut out is what is read. -/
theorem sliced?_eq (s : List Char) : sliced? s = some (ofSpec? s) := by
  unfold sliced?
  split
  next hex =>
    rw [ofSpec?_number]
    by_cases hplain : ∀ c ∈ hex, c.toNat < 128
    · have hrefused : (decide (hex.length = 0) || decide (hex.length % 3 ≠ 0) ||
          !hex.all (·.toNat < 0x80)) = !isCuttable hex := by
        cases hex <;> simp [isCuttable, Bool.not_and]
      rw [utf8Length_eq_length hplain]
      simp only [hrefused]
      cases isCuttable hex with
      | false => rfl
      | true =>
        rw [slice?_of_le hplain (Nat.zero_le _) (by omega),
          slice?_of_le hplain (by omega) (by omega), slice?_of_le hplain (by omega) (Nat.le_refl _)]
        show some (ofChannels? _ _ _) = some (ofChannels? _ _ _)
        rw [List.drop_zero, List.take_length, List.drop_take]
        congr 4
        omega
    · have hall : hex.all (·.toNat < 0x80) = false := by
        rw [List.all_eq_false]
        push Not at hplain
        obtain ⟨c, hc, hle⟩ := hplain
        exact ⟨c, hc, by simpa using hle⟩
      simp [isCuttable, hall]
  next => rfl

end Sliced

section Differences

variable {s : List Char} {color : Rgb}

theorem plus_not_mem_of_names (h : Names s color) : '+' ∉ s := by
  have hplus : ¬ IsHexDigit '+' := by decide
  have hgroup : ∀ {group level}, Shade group level → '+' ∉ group :=
    fun hshade hmem => hplus (hshade.isHexDigit _ hmem)
  obtain ⟨red, green, blue, hspells, hred, hgreen, hblue⟩ := h
  cases hspells with
  | slashes => simp [hgroup hred, hgroup hgreen, hgroup hblue]
  | equal => simp [hgroup hred, hgroup hgreen, hgroup hblue]

theorem Reads.shade {group : List Char} {level : UInt8} (h : Reads group level)
    (hplus : '+' ∉ group) : Shade group level := by
  obtain hshade | ⟨digits, hsigned⟩ := h
  · exact hshade
  · rw [hsigned.group_eq] at hplus
    exact absurd List.mem_cons_self hplus

/-- Without a sign, what is read is a name. -/
theorem names_of_reads (h : NamesBy Reads s color) (hplus : '+' ∉ s) : Names s color := by
  obtain ⟨red, green, blue, hspells, hred, hgreen, hblue⟩ := h
  cases hspells with
  | slashes =>
    simp only [List.mem_append, List.mem_cons, not_or] at hplus
    exact ⟨red, green, blue, .slashes red green blue, hred.shade hplus.2.1,
      hgreen.shade hplus.2.2.2.1, hblue.shade hplus.2.2.2.2.2⟩
  | equal _ _ _ hg hb =>
    simp only [List.mem_append, List.mem_cons, not_or] at hplus
    exact ⟨red, green, blue, .equal red green blue hg hb, hred.shade hplus.2.1,
      hgreen.shade hplus.2.2.1, hblue.shade hplus.2.2.2⟩

theorem Names.reads (h : Names s color) : NamesBy Reads s color := by
  obtain ⟨red, green, blue, hspells, hred, hgreen, hblue⟩ := h
  exact ⟨red, green, blue, hspells, .inl hred, .inl hgreen, .inl hblue⟩

/-- **What is read, and where it differs from what is meant.** Every text has an
outcome, with each slice in its place. It is the color that the groups are read as;
and it is the color that the text is a name of, or none, exactly if no sign is read. -/
theorem ofSpec?_names_iff (s : List Char) :
    sliced? s = some (ofSpec? s) ∧
    (∀ color, ofSpec? s = some color ↔ NamesBy Reads s color) ∧
    ((∀ color, ofSpec? s = some color ↔ Names s color) ↔ ('+' ∈ s → ofSpec? s = none)) := by
  refine ⟨sliced?_eq s, fun color => ofSpec?_eq_some_iff, ?_, ?_⟩
  · intro h hplus
    rw [Option.eq_none_iff_forall_ne_some]
    intro color hread
    exact plus_not_mem_of_names ((h color).mp hread) hplus
  · intro h color
    refine ⟨fun hread => ?_, fun hnames => ofSpec?_eq_some_iff.mpr hnames.reads⟩
    have hplus : '+' ∉ s := fun hmem => by
      rw [h hmem] at hread
      exact absurd hread (by simp)
    exact names_of_reads (ofSpec?_eq_some_iff.mp hread) hplus

/-- A sign in the place of a digit: no name of a color, but read as one. -/
theorem ofSpec?_reads_sign : ofSpec? "rgb:+f/0/0".toList = some ⟨15, 0, 0⟩ ∧
    ∀ color, ¬ Names "rgb:+f/0/0".toList color :=
  ⟨by decide, fun _ h => plus_not_mem_of_names h (by decide)⟩

end Differences

end Teletype.Rgb

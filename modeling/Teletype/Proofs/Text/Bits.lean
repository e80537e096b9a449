import Teletype.Proofs.Parser.Characters

/-!
# The number that bytes bring

A first byte and as many continuation bytes as it asks for bring a number, whatever
they are, and the number gives the bytes back (`bytes_bitsOf`). They are text exactly
if that number is a code point that is written in this form and in no shorter one
(`head?_fromUTF8?`). So a reader that keeps the bytes and looks at them in the end
comes to the same as one that adds up the bits.
-/

namespace Teletype.Text.Utf8

/-- The way of writing that a first byte belongs to. -/
def formOf (lead : UInt8) : Form :=
  if lead.toNat < 0xE0 then .two else if lead.toNat < 0xF0 then .three else .four

/-- The bits of continuation bytes, behind those that there are. -/
def joined (bits : Nat) (rest : List UInt8) : Nat :=
  rest.foldl (fun bits byte => bits * 64 + (byte.toNat - 0x80)) bits

/-- The bits that bytes of a character bring. -/
def bitsOf (lead : UInt8) (rest : List UInt8) : Nat :=
  joined (lead.toNat - (formOf lead).mark) rest

variable {lead b : UInt8} {rest : List UInt8} {c : Char} {f : Form} {n : Nat}

@[simp] theorem joined_cons (bits : Nat) :
    joined bits (b :: rest) = joined (bits * 64 + (b.toNat - 0x80)) rest :=
  List.foldl_cons ..

theorem bitsOf_concat (lead : UInt8) (rest : List UInt8) (b : UInt8) :
    bitsOf lead (rest ++ [b]) = bitsOf lead rest * 64 + (b.toNat - 0x80) := by
  simp [bitsOf, joined]

theorem joined_continuations (k n : Nat) : joined (above k n) (continuations k n) = n := by
  induction k with
  | zero => rfl
  | succ k ih =>
    have hbits : above (k + 1) n * 64 + (0x80 + above k n % 64 - 0x80) = above k n := by
      rw [Nat.add_sub_cancel_left, above_continuation]
    rw [continuations, joined_cons, toNat_continuation, hbits, ih]

/-- Continuation bytes are those of the number they bring. -/
theorem continuations_joined (bits : Nat) (h : ∀ b ∈ rest, isContinuation b = true) :
    above rest.length (joined bits rest) = bits ∧
      continuations rest.length (joined bits rest) = rest := by
  induction rest generalizing bits with
  | nil => exact ⟨rfl, rfl⟩
  | cons b rest ih =>
    obtain ⟨hb, hrest⟩ := List.forall_mem_cons.mp h
    have hrange := isContinuation_iff.mp hb
    obtain ⟨habove, hbytes⟩ := ih (bits * 64 + (b.toNat - 0x80)) hrest
    have hbyte : 0x80 + (bits * 64 + (b.toNat - 0x80)) % 64 = b.toNat := by omega
    rw [joined_cons, List.length_cons, continuations, above, hbytes, habove, hbyte, UInt8.ofNat_toNat]
    exact ⟨by omega, rfl⟩

/-! ## The form of a character -/

theorem Form.count_pos (f : Form) : 0 < f.count := by
  cases f <;> decide

theorem continuationCount_le (b : UInt8) : continuationCount b ≤ 3 := by
  unfold continuationCount
  repeat' split
  all_goals decide

theorem count_formOf (h : 0 < continuationCount lead) :
    (formOf lead).count = continuationCount lead ∧ (formOf lead).mark ≤ lead.toNat := by
  revert h
  simp only [continuationCount, formOf, Bool.and_eq_true, decide_eq_true_eq]
  split <;> rename_i htwo
  · rw [if_pos (by omega)]
    exact fun _ => ⟨rfl, by show 0xC0 ≤ _; omega⟩
  · split <;> rename_i hthree
    · rw [if_neg (by omega), if_pos (by omega)]
      exact fun _ => ⟨rfl, hthree.1⟩
    · split <;> rename_i hfour
      · rw [if_neg (by omega), if_neg (by omega)]
        exact fun _ => ⟨rfl, hfour.1⟩
      · exact fun h => absurd h (Nat.lt_irrefl 0)

/-- The bytes of a character are those of the number that they bring. -/
theorem bytes_bitsOf (hcount : rest.length = continuationCount lead) (hpos : 0 < rest.length)
    (hrest : ∀ b ∈ rest, isContinuation b = true) :
    (formOf lead).bytes (bitsOf lead rest) = lead :: rest := by
  obtain ⟨hform, hmark⟩ := count_formOf (hcount ▸ hpos)
  obtain ⟨habove, hbytes⟩ := continuations_joined (lead.toNat - (formOf lead).mark) hrest
  rw [Form.bytes, Form.lead, hform, ← hcount, bitsOf, habove, hbytes, Nat.add_sub_cancel' hmark,
    UInt8.ofNat_toNat]

/-- The first byte of a character tells its form. -/
theorem formOf_lead (hleast : f.least ≤ n) (hlimit : n < f.limit) : formOf (f.lead n) = f := by
  have hlead := toNat_lead hlimit
  unfold formOf
  cases f with
  | two =>
    change n < 0x800 at hlimit
    change (Form.two.lead n).toNat = 0xC0 + above 1 n at hlead
    rw [above_one] at hlead
    rw [if_pos (by omega)]
  | three =>
    change n < 0x10000 at hlimit
    change (Form.three.lead n).toNat = 0xE0 + above 2 n at hlead
    rw [above_two] at hlead
    rw [if_neg (by omega), if_pos (by omega)]
  | four =>
    change (Form.four.lead n).toNat = 0xF0 + above 3 n at hlead
    rw [if_neg (by omega), if_neg (by omega)]

/-- A character is written in the form that its number belongs to. -/
theorem encodeChar_of_form (hleast : f.least ≤ c.toNat) (hlimit : c.toNat < f.limit) :
    String.utf8EncodeChar c = f.bytes c.toNat := by
  have hbeyond : 0x80 ≤ c.toNat := by
    refine Nat.le_trans ?_ hleast
    cases f <;> decide
  obtain ⟨g, hleast', hlimit', hbytes⟩ := exists_form hbeyond
  have hsame : g = f := by
    cases f <;> cases g <;> first | rfl | (simp only [Form.least, Form.limit] at *; omega)
  rw [hbytes, hsame]

/-- No more bits fit into the bytes of a form than it is for. -/
theorem bitsOf_lt_limit (hcount : rest.length = continuationCount lead) (hpos : 0 < rest.length)
    (hrest : ∀ b ∈ rest, isContinuation b = true) (hvalid : (bitsOf lead rest).isValidChar) :
    bitsOf lead rest < (formOf lead).limit := by
  obtain ⟨hform, -⟩ := count_formOf (hcount ▸ hpos)
  obtain ⟨habove, -⟩ := continuations_joined (lead.toNat - (formOf lead).mark) hrest
  have hlast : bitsOf lead rest < 0x110000 := by
    rcases hvalid with hlow | ⟨-, hhigh⟩
    · omega
    · exact hhigh
  rw [hcount, ← hform] at habove
  change above _ (bitsOf lead rest) = _ at habove
  generalize bitsOf lead rest = n at habove hlast ⊢
  unfold formOf at habove ⊢
  split at habove
  next htwo =>
    change above 1 n = lead.toNat - 0xC0 at habove
    rw [above_one] at habove
    rw [if_pos htwo]
    show n < 0x800
    omega
  next htwo =>
    split at habove
    next hthree =>
      change above 2 n = lead.toNat - 0xE0 at habove
      rw [above_two] at habove
      rw [if_neg htwo, if_pos hthree]
      show n < 0x10000
      omega
    next hthree =>
      rw [if_neg htwo, if_neg hthree]
      exact hlast

/-! ## Bytes that are text -/

theorem length_continuations (k n : Nat) : (continuations k n).length = k := by
  induction k with
  | zero => rfl
  | succ k ih => rw [continuations, List.length_cons, ih]

/-- A character that begins with such a first byte takes all the bytes that it asks
for, and is the one of their number. -/
theorem bitsOf_of_encodeChar {more : List UInt8} (hcount : rest.length = continuationCount lead)
    (hpos : 0 < rest.length) (h : lead :: rest = String.utf8EncodeChar c ++ more) :
    (formOf lead).least ≤ c.toNat ∧ bitsOf lead rest = c.toNat := by
  rcases Nat.lt_or_ge c.toNat 0x80 with hascii | hbeyond
  · rw [encodeChar_ascii hascii, List.singleton_append] at h
    obtain ⟨rfl, rfl⟩ := List.cons.inj h
    have hnone : continuationCount (UInt8.ofNat c.toNat) = 0 := by
      refine continuationCount_of_lt ?_
      rw [toNat_ofNat_of_lt (by omega)]
      omega
    omega
  · obtain ⟨f, hleast, hlimit, hbytes⟩ := exists_form hbeyond
    rw [hbytes, Form.bytes, List.cons_append] at h
    obtain ⟨rfl, rfl⟩ := List.cons.inj h
    have hform := formOf_lead hleast hlimit
    have hall : f.count = continuationCount (f.lead c.toNat) := by
      rw [← (count_formOf (hcount ▸ hpos)).1, hform]
    have hmore : more = [] := by
      rw [List.length_append, length_continuations] at hcount
      exact List.eq_nil_of_length_eq_zero (by omega)
    refine ⟨by rwa [hform], ?_⟩
    rw [bitsOf, hform, toNat_lead hlimit, Nat.add_sub_cancel_left, hmore, List.append_nil,
      joined_continuations]

/-- **Bytes of a character are text exactly if their number is a code point that needs
so many bytes**, and then they are that character. -/
theorem head?_fromUTF8? (hcount : rest.length = continuationCount lead) (hpos : 0 < rest.length)
    (hrest : ∀ b ∈ rest, isContinuation b = true) :
    (String.fromUTF8? (lead :: rest).toByteArray).bind (·.toList.head?) =
      if (formOf lead).least ≤ bitsOf lead rest then scalar? (bitsOf lead rest) else none := by
  by_cases htext : (lead :: rest).toByteArray.IsValidUTF8
  · obtain ⟨chars, hchars⟩ := htext
    have hbytes : lead :: rest = chars.flatMap String.utf8EncodeChar :=
      List.toByteArray_inj.mp hchars
    have hread : String.fromUTF8? (lead :: rest).toByteArray = some (String.ofList chars) := by
      rw [String.fromUTF8?, dif_pos ⟨chars, hchars⟩]
      exact congrArg some (String.toByteArray_inj.mp hchars)
    rw [hread, Option.bind_some, String.toList_ofList]
    cases chars with
    | nil => cases hbytes
    | cons c more =>
      obtain ⟨hleast, hnumber⟩ := bitsOf_of_encodeChar hcount hpos (hbytes.trans List.flatMap_cons)
      rw [hnumber, if_pos hleast, scalar?_toNat, List.head?_cons]
  · rw [String.fromUTF8?, dif_neg htext, Option.bind_none]
    split
    next hleast =>
      -- were there such a code point, the bytes would be its character
      refine (scalar?_eq_none_iff.mpr fun hvalid => htext ?_).symm
      obtain ⟨c, hc⟩ : ∃ c, scalar? (bitsOf lead rest) = some c := ⟨_, if_pos hvalid⟩
      have hnumber := toNat_of_scalar? hc
      have hlimit := bitsOf_lt_limit hcount hpos hrest hvalid
      have hbytes := bytes_bitsOf hcount hpos hrest
      rw [← hnumber] at hleast hlimit hbytes
      refine ⟨[c], ?_⟩
      rw [← hbytes, ← encodeChar_of_form hleast hlimit, List.utf8Encode, List.flatMap_singleton]
    next => rfl

end Teletype.Text.Utf8

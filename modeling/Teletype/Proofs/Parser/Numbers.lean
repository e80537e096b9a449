import Teletype.Proofs.Parser.Grammar
import Teletype.Proofs.Parser.Plain

/-!
# Numbers as parameters

Numbers are sent in decimal, with semicolons between them
(`CsiText.numbered`). What is read of them is what was sent, as long as there are
no more of them than are kept and none is beyond the largest value
(`params_spelled_numbered`).
-/

namespace Teletype

open Csi

/-- The digits of a number. -/
def decimalBytes (n : Nat) : List UInt8 :=
  plainBytes (Nat.toDigits 10 n)

variable {b : UInt8} {n : Nat} {numbers : List Nat}

/-! ## One number -/

theorem isDigit_of_mem_toDigits {c : Char} (h : c ∈ Nat.toDigits 10 n) : c.isDigit = true :=
  Nat.isDigit_of_mem_toDigits (by decide) (by decide) h

/-- Digits have the value that core gives them, also as bytes. -/
theorem foldl_plainBytes {digits : List Char} (h : ∀ c ∈ digits, c.isDigit = true) (value : Nat) :
    (plainBytes digits).foldl (fun n b => n * 10 + (b.toNat - 0x30)) value =
      Nat.ofDigitChars 10 digits value := by
  induction digits generalizing value with
  | nil => rfl
  | cons c rest ih =>
    obtain ⟨hc, hrest⟩ := List.forall_mem_cons.mp h
    have hhigh : c.toNat ≤ 0x39 := (Char.isDigit_iff_toNat.mp hc).2
    have hbyte : (UInt8.ofNat c.toNat).toNat = c.toNat :=
      Text.Utf8.toNat_ofNat_of_lt (by omega)
    show (plainBytes rest).foldl _ (value * 10 + ((UInt8.ofNat c.toNat).toNat - 0x30)) = _
    rw [ih hrest, hbyte, Nat.ofDigitChars_cons, Nat.mul_comm]
    rfl

theorem decimal_decimalBytes (n : Nat) : decimal (decimalBytes n) = n :=
  (foldl_plainBytes (fun _ => isDigit_of_mem_toDigits) 0).trans Nat.ofDigitChars_ten_toDigits

theorem toNat_of_mem_decimalBytes (h : b ∈ decimalBytes n) : 0x30 ≤ b.toNat ∧ b.toNat ≤ 0x39 := by
  obtain ⟨c, hc, rfl⟩ := List.mem_map.mp h
  obtain ⟨hlow, hhigh⟩ := Char.isDigit_iff_toNat.mp (isDigit_of_mem_toDigits hc)
  have hbyte : (UInt8.ofNat c.toNat).toNat = c.toNat :=
    Text.Utf8.toNat_ofNat_of_lt (Nat.lt_of_le_of_lt hhigh (by decide))
  rw [hbyte]
  exact ⟨hlow, hhigh⟩

theorem isSeparator_of_mem_decimalBytes (h : b ∈ decimalBytes n) : isSeparator b = false := by
  obtain ⟨-, hhigh⟩ := toNat_of_mem_decimalBytes h
  rw [Bool.eq_false_iff, Ne, isSeparator_iff]
  omega

theorem encode_toString (n : Nat) : Text.Utf8.encode (toString n) = decimalBytes n := by
  rw [encode_plain fun _ => isPlain_of_mem_toString, Nat.toString_eq_repr, Nat.toList_repr]
  rfl

theorem decimalBytes_ne_nil (n : Nat) : decimalBytes n ≠ [] :=
  fun h => Nat.toDigits_ne_nil (List.map_eq_nil_iff.mp h)

/-! ## Several numbers -/

/-- Fields with semicolons between them are found again. -/
theorem splitOnP_intercalate {fields : List (List UInt8)} (hne : fields ≠ [])
    (h : ∀ field ∈ fields, ∀ b ∈ field, isSeparator b = false) :
    ([0x3B].intercalate fields).splitOnP isSeparator = fields := by
  induction fields with
  | nil => exact absurd rfl hne
  | cons field rest ih =>
    obtain ⟨hfield, hrest⟩ := List.forall_mem_cons.mp h
    cases rest with
    | nil => rw [List.intercalate_singleton, List.splitOnP_eq_singleton hfield]
    | cons next rest =>
      rw [List.intercalate_cons_cons, List.append_assoc, List.singleton_append,
        List.splitOnP_append_cons_of_forall_mem hfield 0x3B rfl,
        ih (List.cons_ne_nil _ _) hrest]

/-- Nothing but digits and semicolons stands in it. -/
theorem mem_intercalate {fields : List (List UInt8)} (h : b ∈ [0x3B].intercalate fields) :
    b = 0x3B ∨ ∃ field ∈ fields, b ∈ field := by
  induction fields with
  | nil => cases h
  | cons field rest ih =>
    cases rest with
    | nil =>
      rw [List.intercalate_singleton] at h
      exact .inr ⟨field, List.mem_cons_self, h⟩
    | cons next rest =>
      rw [List.intercalate_cons_cons, List.append_assoc] at h
      rcases List.mem_append.mp h with h | h
      · exact .inr ⟨field, List.mem_cons_self, h⟩
      · rcases List.mem_cons.mp h with h | h
        · exact .inl h
        · exact (ih h).imp_right fun ⟨field, hfield, hb⟩ =>
            ⟨field, List.mem_cons_of_mem _ hfield, hb⟩

namespace CsiText

/-- Numbers, and nothing else. -/
def numbered (numbers : List Nat) : CsiText where
  marker := none
  parameters := [0x3B].intercalate (numbers.map decimalBytes)
  intermediates := []
  isMarker_of_mem := nofun
  isParameterByte_of_mem := by
    intro b hb
    rw [isParameterByte_iff]
    rcases mem_intercalate hb with rfl | ⟨field, hfield, hb⟩
    · decide
    · obtain ⟨n, -, rfl⟩ := List.mem_map.mp hfield
      obtain ⟨hlow, hhigh⟩ := toNat_of_mem_decimalBytes hb
      omega
  isIntermediate_of_mem := nofun

theorem body_numbered (numbers : List Nat) :
    (numbered numbers).body = [0x3B].intercalate (numbers.map decimalBytes) :=
  List.append_nil _

/-- A number beyond the largest value is read as that. -/
theorem values_numbered (hne : numbers ≠ []) :
    (numbered numbers).values = numbers.map fun n => UInt16.ofNat (min n 65535) := by
  have hfields : numbers.map decimalBytes ≠ [] := fun h => hne (List.map_eq_nil_iff.mp h)
  have hsplit : (numbered numbers).parameters.splitOnP isSeparator = numbers.map decimalBytes :=
    splitOnP_intercalate hfields fun field hfield b hb => by
      obtain ⟨n, -, rfl⟩ := List.mem_map.mp hfield
      exact isSeparator_of_mem_decimalBytes hb
  have hparameters : (numbered numbers).parameters ≠ [] := by
    intro hnil
    rw [hnil] at hsplit
    obtain ⟨n, rest, rfl⟩ := List.exists_cons_of_ne_nil hne
    exact decimalBytes_ne_nil n (List.cons.inj hsplit).1.symm
  rw [values, if_neg hparameters, hsplit, List.map_map]
  refine List.map_congr_left fun n _ => ?_
  rw [Function.comp_apply, fieldValue, decimal_decimalBytes]

/-- **Numbers are read as they were sent.** -/
theorem params_spelled_numbered (hne : numbers ≠ []) (hlength : numbers.length ≤ maxParameters)
    (h : ∀ n ∈ numbers, n ≤ 65535) (final : UInt8) :
    ((numbered numbers).spelled final).params = numbers.map UInt16.ofNat := by
  have hvalues : (numbered numbers).values = numbers.map UInt16.ofNat := by
    rw [values_numbered hne]
    refine List.map_congr_left fun n hn => ?_
    rw [Nat.min_eq_left (h n hn)]
  show (numbered numbers).values.take 32 = _
  rw [hvalues, List.take_of_length_le (by rwa [List.length_map])]

end CsiText

end Teletype

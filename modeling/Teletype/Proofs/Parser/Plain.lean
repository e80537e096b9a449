import Teletype.Proofs.Emulator.Operations
import Teletype.Proofs.Emulator.Chunks
import Teletype.Proofs.Parser.Characters

/-!
# Plain text

ASCII text with returns and line feeds, as a terminal's own messages are. Where
nothing is half read, each of its characters is one byte and one action
(`feed_plain`), so that on the screen the text is typed out (`typeOut`).
-/

namespace Teletype

/-- Whether a character is printed as it is, or is a return or a line feed. -/
def Text.isPlain (c : Char) : Bool :=
  c = '\r' || c = '\n' || (0x20 ≤ c.toNat && c.toNat < 0x7F)

/-- The bytes of plain text, one for each character. -/
def plainBytes (text : List Char) : List UInt8 :=
  text.map fun c => UInt8.ofNat c.toNat

/-- What a plain character comes to. -/
def typedAction (c : Char) : Action :=
  if c = '\r' || c = '\n' then .execute (UInt8.ofNat c.toNat) else .print c

namespace Screen

/-- Carries out a return or a line feed, and prints any other character. -/
def typeChar (s : Screen) (c : Char) : Screen :=
  if c = '\r' then s.carriageReturn else if c = '\n' then s.linefeed else s.print c

/-- Carries out and prints the characters of a text, one by one. -/
def typeOut (s : Screen) (text : List Char) : Screen :=
  text.foldl typeChar s

end Screen

variable {c : Char} {text : List Char}

theorem Text.isPlain_iff : Text.isPlain c = true ↔
    c = '\r' ∨ c = '\n' ∨ (0x20 ≤ c.toNat ∧ c.toNat < 0x7F) := by
  simp [Text.isPlain, or_assoc]

theorem Text.isPlain_of_isDigit (h : c.isDigit = true) : Text.isPlain c = true := by
  have hrange := Char.isDigit_iff_toNat.mp h
  have hzero : '0'.toNat = 48 := rfl
  have hnine : '9'.toNat = 57 := rfl
  exact Text.isPlain_iff.mpr (.inr (.inr ⟨by omega, by omega⟩))

theorem isPlain_of_mem_toString {n : Nat} {c : Char} (h : c ∈ (toString n).toList) :
    Text.isPlain c = true := by
  rw [Nat.toString_eq_repr, Nat.toList_repr] at h
  exact Text.isPlain_of_isDigit (Nat.isDigit_of_mem_toDigits (by decide) (by decide) h)

theorem toNat_lt_of_isPlain (h : Text.isPlain c = true) : c.toNat < 0x7F := by
  rcases Text.isPlain_iff.mp h with rfl | rfl | ⟨-, hlt⟩
  · decide
  · decide
  · exact hlt

/-- Plain text is encoded byte for byte. -/
theorem encode_plain {s : String} (h : ∀ c ∈ s.toList, Text.isPlain c = true) :
    Text.Utf8.encode s = plainBytes s.toList := by
  unfold Text.Utf8.encode plainBytes
  generalize s.toList = text at h
  induction text with
  | nil => rfl
  | cons c rest ih =>
    obtain ⟨hc, hrest⟩ := List.forall_mem_cons.mp h
    have hascii : c.toNat < 0x80 := Nat.lt_succ_of_lt (toNat_lt_of_isPlain hc)
    rw [List.flatMap_cons, List.map_cons, Text.Utf8.encodeChar_ascii hascii, ih hrest]
    rfl

/-- A plain character is read at once. -/
theorem step_plain (h : Text.isPlain c = true) :
    Parser.ground.step (UInt8.ofNat c.toNat) = (.ground, [typedAction c]) := by
  rcases Text.isPlain_iff.mp h with rfl | rfl | ⟨hlow, hhigh⟩
  · rfl
  · rfl
  · have hvisible : 0x20 ≤ (UInt8.ofNat c.toNat).toNat := by
      rw [Text.Utf8.toNat_ofNat_of_lt (by omega)]
      exact hlow
    have hprint : typedAction c = .print c := by
      refine if_neg ?_
      rw [Bool.or_eq_true, decide_eq_true_eq, decide_eq_true_eq]
      rintro (rfl | rfl)
      · exact absurd hlow (by decide)
      · exact absurd hlow (by decide)
    rw [hprint]
    exact (Parser.plainByte_visible hvisible .ground).trans (Parser.groundByte_ascii hhigh)

/-- **Where nothing is half read, plain text is read character by character.** -/
theorem feed_plain (h : ∀ c ∈ text, Text.isPlain c = true) :
    Parser.ground.feed (plainBytes text) = (.ground, text.map typedAction) := by
  induction text with
  | nil => rfl
  | cons c rest ih =>
    obtain ⟨hc, hrest⟩ := List.forall_mem_cons.mp h
    show Parser.ground.feed (UInt8.ofNat c.toNat :: plainBytes rest) = _
    rw [Parser.feed_cons, step_plain hc, ih hrest]
    rfl

/-- **Actions of plain text type it out.** -/
theorem screen_applyAll_typed (e : Emulator) (text : List Char) :
    (e.applyAll (text.map typedAction)).screen = e.screen.typeOut text := by
  induction text generalizing e with
  | nil => rfl
  | cons c rest ih =>
    have hstep : (e.apply (typedAction c)).screen = e.screen.typeChar c := by
      unfold typedAction Screen.typeChar
      by_cases hreturn : c = '\r'
      · subst hreturn
        rfl
      · by_cases hfeed : c = '\n'
        · subst hfeed
          rfl
        · simp only [hreturn, hfeed, decide_false, Bool.or_false, Bool.false_eq_true, if_false,
            Emulator.apply]
    show ((e.apply (typedAction c)).applyAll (rest.map typedAction)).screen = _
    rw [ih, hstep]
    rfl

end Teletype

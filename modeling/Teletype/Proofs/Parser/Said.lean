import Teletype.Proofs.Parser.Characters

/-!
# The characters that bytes say

Bytes come to characters, and to nothing else that is printed. None of these characters
is below space, or the one above the tilde: such bytes are carried out or dropped, and
a longer encoding of such a character is replaced (`Parser.says_feed`). The control
characters behind it are encoded like any other and are said.
-/

namespace Teletype

/-- The character that an action says. -/
def Action.said : Action → Option Char
  | .print c => some c
  | _ => none

namespace Parser

/-- Whether a character is neither below space nor the one above the tilde. -/
def isSayable (c : Char) : Bool :=
  0x20 ≤ c.toNat && c.toNat != 0x7F

/-- Inside a character, only code points that take more than one byte are awaited. -/
def AwaitsLong : Parser → Prop
  | .character _ _ least => 0x80 ≤ least
  | _ => True

/-- What a step leaves awaits long characters only, and what it says is sayable. -/
structure Says (step : Step) : Prop where
  awaits : step.1.AwaitsLong
  said : ∀ a ∈ step.2, ∀ c ∈ a.said, isSayable c = true

variable {p : Parser} {b : UInt8}

theorem isSayable_of_le {c : Char} (h : 0x80 ≤ c.toNat) : isSayable c = true := by
  simp only [isSayable, Bool.and_eq_true, decide_eq_true_eq, bne_iff_ne]
  omega

/-- A step that says nothing. -/
theorem Says.silent {step : Step} (hp : step.1.AwaitsLong) (h : ∀ a ∈ step.2, a.said = none) :
    Says step where
  awaits := hp
  said a ha c hc := by
    rw [h a ha] at hc
    cases hc

theorem Says.nothing (h : p.AwaitsLong) : Says (p, []) :=
  .silent h fun a ha => by cases ha

/-- A step that comes to something else than a character. -/
theorem Says.other {a : Action} (h : p.AwaitsLong) (ha : a.said = none) : Says (p, [a]) :=
  .silent h (List.forall_mem_singleton.mpr ha)

theorem Says.print {c : Char} (h : isSayable c = true) : Says (.ground, [.print c]) where
  awaits := trivial
  said a ha d hd := by
    rw [List.mem_singleton.mp ha] at hd
    obtain rfl := Option.some.inj hd
    exact h

theorem Says.replacement : Says (.ground, [.print Text.replacement]) :=
  .print (by decide)

theorem says_groundByte (h : 0x20 ≤ b.toNat) : Says (groundByte b) := by
  simp only [groundByte]
  split
  · next hascii =>
    have hvalid : b.toNat.isValidChar := .inl (by omega)
    have hchar : (Char.ofNat b.toNat).toNat = b.toNat := Text.toNat_of_scalar? (if_pos hvalid)
    refine .print ?_
    rw [isSayable, hchar, Bool.and_eq_true, decide_eq_true_eq, bne_iff_ne]
    omega
  · split
    · exact .nothing trivial
    · split
      · exact .nothing (show 0x80 ≤ 0x80 by omega)
      · split
        · exact .nothing (show 0x80 ≤ 0x800 by omega)
        · split
          · exact .nothing (show 0x80 ≤ 0x10000 by omega)
          · exact .replacement

theorem says_continuation {bits left least : Nat} (h : 0x80 ≤ least) :
    Says (continuation bits left least b) := by
  simp only [continuation]
  split
  · refine .print ?_
    unfold completed
    split
    · decide
    · next hlong =>
      cases hscalar : Text.scalar? (bits * 64 + (b.toNat - 0x80)) with
      | none => decide
      | some c =>
        refine isSayable_of_le ?_
        rw [Option.getD_some, Text.toNat_of_scalar? hscalar]
        omega
  · exact .nothing h

theorem said_closeCommand (payload : Array UInt8) (overlong : Bool) :
    ∀ a ∈ closeCommand payload overlong, a.said = none := by
  intro a ha
  unfold closeCommand at ha
  split at ha
  · cases ha
  · split at ha
    · rw [List.mem_singleton.mp ha]
      rfl
    · cases ha

theorem says_control (h : p.AwaitsLong) (b : UInt8) : Says (p.control b) := by
  unfold control
  split
  · exact .nothing trivial
  · split
    · cases p with
      | command payload overlong => exact .silent trivial (said_closeCommand payload overlong)
      | _ => exact .nothing trivial
    · split
      · split
        · exact .silent trivial (said_closeCommand _ _)
        · exact .nothing trivial
      · exact .nothing trivial
      · exact .other h rfl

theorem says_parameterByte (d : CsiDraft) (b : UInt8) : Says (parameterByte d b) := by
  simp only [parameterByte]
  repeat' split
  all_goals first | exact .nothing trivial | exact .other trivial rfl

/-- Sequences and strings say nothing. -/
theorem says_visible (h : 0x20 ≤ b.toNat) (p : Parser) : Says (visible b p) := by
  have hground := says_groundByte h
  cases p with
  | ground => exact hground
  | character => exact hground
  | escape endsString =>
    simp only [visible, behindEscape]
    repeat' split
    all_goals first | exact .nothing trivial | exact .other trivial rfl
  | escapeIntermediate intermediates =>
    simp only [visible, behindIntermediates]
    repeat' split
    all_goals first | exact .nothing trivial | exact .other trivial rfl
  | csiEntry =>
    simp only [visible, entryByte]
    split
    · exact .nothing trivial
    · exact says_parameterByte {} b
  | csiParameters d => exact says_parameterByte d b
  | csiIntermediates d =>
    simp only [visible, intermediateByte]
    repeat' split
    all_goals first | exact .nothing trivial | exact .other trivial rfl
  | csiIgnored =>
    simp only [visible, ignoredByte]
    split <;> exact .nothing trivial
  | command payload overlong =>
    simp only [visible, commandByte]
    split <;> exact .nothing trivial
  | skippedString => exact .nothing trivial

theorem says_plainByte (h : p.AwaitsLong) (b : UInt8) : Says (p.plainByte b) := by
  rcases Nat.lt_or_ge b.toNat 0x20 with hlow | hvisible
  · rw [plainByte, if_pos (UInt8.lt_iff_toNat_lt.mpr hlow)]
    exact says_control h b
  · rw [plainByte_visible hvisible]
    exact says_visible hvisible p

theorem says_step (h : p.AwaitsLong) (b : UInt8) : Says (p.step b) := by
  cases p with
  | character bits left least =>
    by_cases hcont : Text.Utf8.isContinuation b = true
    · rw [step_continuation hcont]
      exact says_continuation h
    · rw [step_breaks hcont]
      have hplain := says_plainByte (p := .ground) trivial b
      have hreplaced := Says.replacement.said _ List.mem_cons_self
      exact ⟨hplain.awaits, List.forall_mem_cons.mpr ⟨hreplaced, hplain.said⟩⟩
  | _ => exact says_plainByte h b

theorem says_feed (h : p.AwaitsLong) (bytes : List UInt8) : Says (p.feed bytes) := by
  induction bytes generalizing p with
  | nil => exact ⟨h, fun a ha => by cases ha⟩
  | cons b rest ih =>
    have hstep := says_step h b
    have hrest := ih hstep.awaits
    rw [feed_cons]
    exact ⟨hrest.awaits, fun a ha => (List.mem_append.mp ha).elim (hstep.said a) (hrest.said a)⟩

end Parser

end Teletype

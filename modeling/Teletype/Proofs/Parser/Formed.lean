import Teletype.Proofs.Parser.Grammar
import Teletype.Proofs.Parser.Said

/-!
# The form of what a parser hands out

Whatever bytes are read, what they come to has the form that whoever carries it out
relies on (`Action.WellFormed`). A sequence is put together over many bytes, so its
form is that of the draft it is handed out from: a draft keeps its own form from the
first byte to the last (`CsiDraft.Formed`), and so does a parser that holds one
(`forms_feed`).
-/

namespace Teletype

open Csi

/-! ## Forms -/

/-- A byte that ends a short sequence. -/
def Escape.isFinal (b : UInt8) : Bool :=
  0x30 ≤ b.toNat && b.toNat ≤ 0x7E

/-- A sequence as it may be handed out. -/
structure Csi.WellFormed (c : Csi) : Prop where
  length_params : c.params.length ≤ maxParameters
  length_subparams : c.subparams.length = c.params.length
  /-- No parameter stands in front of the first one. -/
  first : ∀ isSub ∈ c.subparams.head?, isSub = false
  intermediates : ∀ b ∈ c.intermediates, isIntermediate b = true
  marker : ∀ b ∈ c.marker, isMarker b = true
  final : isFinal c.final = true

/-- A short sequence as it may be handed out. -/
def Escape.WellFormed : Escape → Prop
  | .unknown bytes => ∃ intermediates final, bytes = intermediates ++ [final] ∧
      (∀ b ∈ intermediates, isIntermediate b = true) ∧ Escape.isFinal final = true
  | .designateCharset slot charset =>
      0x28 ≤ slot.toNat ∧ slot.toNat ≤ 0x2B ∧ Escape.isFinal charset = true
  | _ => True

/-- A command as it may be handed out. -/
def Osc.WellFormed : Osc → Prop
  | .setColor entries => entries ≠ []
  | _ => True

/-- What bytes come to, as it may be handed out. -/
def Action.WellFormed : Action → Prop
  | .print c => Parser.isSayable c = true
  | .execute b => b.toNat < 0x20 ∧ b ≠ 0x18 ∧ b ≠ 0x1A ∧ b ≠ 0x1B
  | .csi sequence => sequence.WellFormed
  | .escape sequence => sequence.WellFormed
  | .osc command => command.WellFormed

/-- What was read of a control sequence so far. -/
structure CsiDraft.Formed (d : CsiDraft) : Prop where
  length_done : d.done.length ≤ maxParameters
  first : ∀ entry ∈ d.done.head?, entry.2 = false
  /-- What is read before any other parameter does not follow a colon. -/
  isSub : d.done = [] → d.isSub = false
  intermediates : ∀ b ∈ d.intermediates, isIntermediate b = true
  marker : ∀ b ∈ d.marker, isMarker b = true

namespace CsiDraft

variable {d : CsiDraft} {b : UInt8}

theorem formed_empty : ({} : CsiDraft).Formed where
  length_done := Nat.zero_le _
  first := nofun
  isSub := fun _ => rfl
  intermediates := nofun
  marker := nofun

namespace Formed

theorem digit (h : d.Formed) (n : Nat) : (d.digit n).Formed :=
  { h with }

/-- Behind a complete parameter any other one may follow a colon. -/
theorem finish (h : d.Formed) : d.finish.Formed ∧ d.finish.done ≠ [] := by
  have hdone : d.finish.done = (d.done ++ [(UInt16.ofNat d.value, d.isSub)]).take 32 :=
    done_finish h.length_done
  have hne : d.finish.done ≠ [] := by simp [hdone]
  refine ⟨⟨?_, ?_, fun hnil => absurd hnil hne, h.intermediates, h.marker⟩, hne⟩
  · rw [hdone, List.length_take]
    exact Nat.min_le_left _ _
  · intro entry hentry
    rw [hdone, List.head?_take, if_neg (by decide)] at hentry
    cases hcase : d.done with
    | nil =>
      rw [hcase] at hentry
      cases hentry
      exact h.isSub hcase
    | cons first rest =>
      rw [hcase] at hentry
      refine h.first entry ?_
      rw [hcase]
      exact hentry

theorem separate (h : d.Formed) (isSub : Bool) : (d.separate isSub).Formed :=
  { h.finish.1 with isSub := fun hnil => absurd hnil h.finish.2 }

theorem close (h : d.Formed) : d.close.Formed := by
  unfold CsiDraft.close
  split
  · exact h.finish.1
  · exact h

theorem addIntermediate (h : d.Formed) (hb : isIntermediate b = true) :
    Formed { d with intermediates := d.intermediates ++ [b] } :=
  { h with
    intermediates := List.forall_mem_append.mpr
      ⟨h.intermediates, List.forall_mem_singleton.mpr hb⟩ }

/-- **A sequence has the form of its draft.** -/
theorem sequence (h : d.Formed) (hb : isFinal b = true) : (d.sequence b).WellFormed where
  length_params := by
    rw [CsiDraft.sequence, List.length_map]
    exact h.length_done
  length_subparams := by simp only [CsiDraft.sequence, List.length_map]
  first := by
    intro isSub hfirst
    rw [CsiDraft.sequence, List.head?_map] at hfirst
    obtain ⟨entry, hentry, rfl⟩ := Option.map_eq_some_iff.mp hfirst
    exact h.first entry hentry
  intermediates := h.intermediates
  marker := h.marker
  final := hb

end Formed

end CsiDraft

namespace Parser

/-- What a parser holds of a sequence has its form. -/
def Formed : Parser → Prop
  | .escapeIntermediate intermediates => ∀ b ∈ intermediates, isIntermediate b = true
  | .csiParameters d | .csiIntermediates d => d.Formed
  | _ => True

/-- What a step leaves keeps its form, and so does what it comes to. For characters that
is `Says`. -/
structure Forms (step : Step) : Prop where
  formed : step.1.Formed
  actions : ∀ a ∈ step.2, a.said = none → a.WellFormed

variable {p : Parser} {b : UInt8} {d : CsiDraft}

theorem Forms.nothing (h : p.Formed) : Forms (p, []) :=
  ⟨h, nofun⟩

theorem Forms.action {a : Action} (h : p.Formed) (ha : a.said = none → a.WellFormed) :
    Forms (p, [a]) :=
  ⟨h, List.forall_mem_singleton.mpr ha⟩

theorem Forms.printed {c : Char} : Forms (.ground, [.print c]) :=
  .action trivial nofun

theorem isIntermediate_of_lt (hlow : 0x20 ≤ b.toNat) (h : b.toNat < 0x30) :
    isIntermediate b = true :=
  isIntermediate_iff.mpr ⟨hlow, by omega⟩

theorem isFinal_of_lt (h : (0x40 ≤ b.toNat && b.toNat < 0x7F) = true) : isFinal b = true := by
  rw [Bool.and_eq_true, decide_eq_true_eq, decide_eq_true_eq] at h
  exact isFinal_iff.mpr (by omega)

/-! ## Commands and short sequences -/

/-- Of a new color at least one entry is sent. -/
theorem wellFormed_ofPayload (command : UInt32) (payload : List Char) :
    (Osc.ofPayload command payload).WellFormed := by
  unfold Osc.ofPayload
  dsimp only
  split
  case h_4 =>
    split
    next => trivial
    next hne => exact hne
  case h_8 => split <;> trivial
  all_goals trivial

theorem wellFormed_closeCommand (payload : Array UInt8) (overlong : Bool) :
    ∀ a ∈ closeCommand payload overlong, a.WellFormed := by
  intro a ha
  unfold closeCommand at ha
  split at ha
  · cases ha
  · split at ha
    next osc hosc =>
      obtain ⟨n, -, rfl⟩ := Option.map_eq_some_iff.mp hosc
      rw [List.mem_singleton.mp ha]
      exact wellFormed_ofPayload _ _
    next => cases ha

/-- Whether a sequence is known by its bytes alone. -/
def isFixed : Escape → Bool
  | .unknown _ | .designateCharset _ _ => false
  | _ => true

theorem wellFormed_of_isFixed {sequence : Escape} (h : isFixed sequence = true) :
    sequence.WellFormed := by
  cases sequence with
  | unknown | designateCharset => cases h
  | _ => exact True.intro

theorem shortSequence_nil (b : UInt8) :
    isFixed (shortSequence [] b) = true ∨ shortSequence [] b = .unknown [b] := by
  have hall : ∀ n : Fin 256, isFixed (shortSequence [] (UInt8.ofNat n)) = true ∨
      shortSequence [] (UInt8.ofNat n) = .unknown [UInt8.ofNat n] := by
    decide +kernel
  have hb := hall ⟨b.toNat, b.toNat_lt⟩
  rwa [UInt8.ofNat_toNat] at hb

theorem wellFormed_shortSequence {intermediates : List UInt8}
    (h : ∀ b ∈ intermediates, isIntermediate b = true) (hb : Escape.isFinal b = true) :
    (shortSequence intermediates b).WellFormed := by
  have hunknown : (Escape.unknown (intermediates ++ [b])).WellFormed :=
    ⟨intermediates, b, rfl, h, hb⟩
  rcases intermediates with _ | ⟨slot, _ | ⟨next, rest⟩⟩
  · obtain hfixed | hnone := shortSequence_nil b
    · exact wellFormed_of_isFixed hfixed
    · exact hnone ▸ hunknown
  · unfold shortSequence
    dsimp only
    split
    · exact True.intro
    · split
      next hslot =>
        rw [Bool.and_eq_true, decide_eq_true_eq, decide_eq_true_eq, UInt8.le_iff_toNat_le,
          UInt8.le_iff_toNat_le] at hslot
        exact ⟨hslot.1, hslot.2, hb⟩
      next => exact hunknown
  · exact hunknown

/-- A byte that ends a short sequence hands it out. -/
theorem forms_short {intermediates : List UInt8} (h : ∀ b ∈ intermediates, isIntermediate b = true)
    (hlow : ¬ b.toNat < 0x30) (hhigh : b.toNat < 0x7F) :
    Forms (.ground, [.escape (shortSequence intermediates b)]) := by
  have hfinal : Escape.isFinal b = true := by
    simp only [Escape.isFinal, Bool.and_eq_true, decide_eq_true_eq]
    omega
  exact .action trivial fun _ => wellFormed_shortSequence h hfinal

/-! ## The machine -/

theorem forms_control (h : p.Formed) (hb : b.toNat < 0x20) : Forms (p.control b) := by
  unfold control
  split
  · exact .nothing trivial
  next hcancel =>
    rw [Bool.or_eq_true, not_or, decide_eq_true_eq, decide_eq_true_eq] at hcancel
    split
    · cases p with
      | command payload overlong =>
        exact ⟨trivial, fun a ha _ => wellFormed_closeCommand payload overlong a ha⟩
      | _ => exact .nothing trivial
    next hescape =>
      split
      next payload overlong =>
        split
        · exact ⟨trivial, fun a ha _ => wellFormed_closeCommand payload overlong a ha⟩
        · exact .nothing trivial
      · exact .nothing trivial
      · exact .action h fun _ => ⟨hb, hcancel.1, hcancel.2, hescape⟩

theorem forms_groundByte (b : UInt8) : Forms (groundByte b) := by
  unfold groundByte
  dsimp only
  repeat' split
  all_goals first | exact .nothing trivial | exact .printed

theorem forms_behindEscape (endsString : Bool) (hb : 0x20 ≤ b.toNat) :
    Forms (behindEscape endsString b) := by
  unfold behindEscape
  dsimp only
  split
  next hlt => exact .nothing (List.forall_mem_singleton.mpr (isIntermediate_of_lt hb hlt))
  next hlow =>
    split
    · exact .nothing trivial
    · split
      · exact .nothing trivial
      · split
        · exact .nothing trivial
        · split
          · exact .nothing trivial
          · split
            next hhigh => exact forms_short nofun hlow hhigh
            next => exact .nothing trivial

theorem forms_behindIntermediates {intermediates : List UInt8}
    (h : ∀ b ∈ intermediates, isIntermediate b = true) (hb : 0x20 ≤ b.toNat) :
    Forms (behindIntermediates intermediates b) := by
  unfold behindIntermediates
  dsimp only
  split
  next hlt =>
    exact .nothing (List.forall_mem_append.mpr
      ⟨h, List.forall_mem_singleton.mpr (isIntermediate_of_lt hb hlt)⟩)
  next hlow =>
    split
    next hhigh => exact forms_short h hlow hhigh
    next => exact .nothing trivial

theorem forms_parameterByte (h : d.Formed) (hb : 0x20 ≤ b.toNat) : Forms (parameterByte d b) := by
  unfold parameterByte
  dsimp only
  split
  next hlt =>
    have hintermediate := isIntermediate_of_lt hb hlt
    have hclose : d.close.intermediates = d.intermediates := (CsiDraft.marker_close d).2
    rw [← hclose]
    exact .nothing (h.close.addIntermediate hintermediate)
  · split
    · exact .nothing (h.digit _)
    · split
      · exact .nothing (h.separate true)
      · split
        · exact .nothing (h.separate false)
        · split
          next hfinal => exact .action trivial fun _ => h.close.sequence (isFinal_of_lt hfinal)
          next => exact .nothing trivial

theorem forms_entryByte (hb : 0x20 ≤ b.toNat) : Forms (entryByte b) := by
  unfold entryByte
  split
  next hmarker =>
    rw [Bool.and_eq_true, decide_eq_true_eq, decide_eq_true_eq, UInt8.le_iff_toNat_le,
      UInt8.le_iff_toNat_le] at hmarker
    refine .nothing { CsiDraft.formed_empty with marker := fun c hc => ?_ }
    obtain rfl := Option.some.inj hc
    exact isMarker_iff.mpr hmarker
  next => exact forms_parameterByte CsiDraft.formed_empty hb

theorem forms_intermediateByte (h : d.Formed) (hb : 0x20 ≤ b.toNat) :
    Forms (intermediateByte d b) := by
  unfold intermediateByte
  dsimp only
  split
  next hlt => exact .nothing (h.addIntermediate (isIntermediate_of_lt hb hlt))
  · split
    next hfinal => exact .action trivial fun _ => h.sequence (isFinal_of_lt hfinal)
    next => exact .nothing trivial

theorem forms_visible (h : p.Formed) (hb : 0x20 ≤ b.toNat) : Forms (visible b p) := by
  cases p with
  | ground | character => exact forms_groundByte b
  | escape endsString => exact forms_behindEscape endsString hb
  | escapeIntermediate intermediates => exact forms_behindIntermediates h hb
  | csiEntry => exact forms_entryByte hb
  | csiParameters d => exact forms_parameterByte h hb
  | csiIntermediates d => exact forms_intermediateByte h hb
  | csiIgnored =>
    simp only [visible, ignoredByte]
    split <;> exact .nothing trivial
  | command payload overlong =>
    simp only [visible, commandByte]
    split <;> exact .nothing trivial
  | skippedString => exact .nothing trivial

theorem forms_plainByte (h : p.Formed) (b : UInt8) : Forms (p.plainByte b) := by
  rcases Nat.lt_or_ge b.toNat 0x20 with hlow | hvisible
  · rw [plainByte, if_pos (UInt8.lt_iff_toNat_lt.mpr hlow)]
    exact forms_control h hlow
  · rw [plainByte_visible hvisible]
    exact forms_visible h hvisible

/-- **A step keeps the form.** -/
theorem forms_step (h : p.Formed) (b : UInt8) : Forms (p.step b) := by
  cases p with
  | character bits left least =>
    by_cases hcont : Text.Utf8.isContinuation b = true
    · rw [step_continuation hcont]
      unfold continuation
      dsimp only
      split
      · exact .printed
      · exact .nothing trivial
    · rw [step_breaks hcont]
      have hplain := forms_plainByte (p := .ground) trivial b
      exact ⟨hplain.formed, List.forall_mem_cons.mpr ⟨nofun, hplain.actions⟩⟩
  | _ => exact forms_plainByte h b

theorem forms_feed (h : p.Formed) (bytes : List UInt8) : Forms (p.feed bytes) := by
  induction bytes generalizing p with
  | nil => exact .nothing h
  | cons b rest ih =>
    have hstep := forms_step h b
    have hrest := ih hstep.formed
    rw [feed_cons]
    exact ⟨hrest.formed, List.forall_mem_append.mpr ⟨hstep.actions, hrest.actions⟩⟩

/-- What says a character and what does not, together. -/
theorem wellFormed_of_said {a : Action} (hsaid : ∀ c ∈ a.said, isSayable c = true)
    (hother : a.said = none → a.WellFormed) : a.WellFormed := by
  cases a with
  | print c => exact hsaid c rfl
  | _ => exact hother rfl

/-- **Whatever bytes come to is well formed.** -/
theorem wellFormed_feed (h : p.Formed) (hawaits : p.AwaitsLong) (bytes : List UInt8) :
    ∀ a ∈ (p.feed bytes).2, a.WellFormed := fun a ha =>
  wellFormed_of_said ((says_feed hawaits bytes).said a ha) ((forms_feed h bytes).actions a ha)

end Parser

end Teletype

import Teletype.Parser

/-!
# The grammar of control sequences

Between the introducer `ESC [` and its final byte a control sequence holds a
marker or none, then the parameters with their separators, then intermediates
(`CsiText`). What it spells can be read off these three parts: the parameters are
the fields between the separators, and a colon in front of a field makes it a
sub-parameter.

The parser finds the parts byte by byte and keeps a draft of what they spell. A
body of this form comes to the sequence it spells, and any other body to nothing:
the first byte that is out of place sends the parser to where the rest is
swallowed, up to the final byte (`feed_body`).
-/

namespace Teletype

/-! ## Texts of the grammar -/

namespace Csi

/-- A byte between the introducer and the final byte. -/
def isBodyByte (b : UInt8) : Bool :=
  0x20 ≤ b.toNat && b.toNat ≤ 0x3F

/-- A byte that ends a sequence. -/
def isFinal (b : UInt8) : Bool :=
  0x40 ≤ b.toNat && b.toNat ≤ 0x7E

/-- One of `<`, `=`, `>` and `?`. -/
def isMarker (b : UInt8) : Bool :=
  0x3C ≤ b.toNat && b.toNat ≤ 0x3F

/-- One of `:` and `;`. -/
def isSeparator (b : UInt8) : Bool :=
  b = 0x3A || b = 0x3B

/-- A digit or a separator. -/
def isParameterByte (b : UInt8) : Bool :=
  (0x30 ≤ b.toNat && b.toNat ≤ 0x39) || isSeparator b

/-- A byte from space to `/`. -/
def isIntermediate (b : UInt8) : Bool :=
  0x20 ≤ b.toNat && b.toNat ≤ 0x2F

/-- The number that digits spell. -/
def decimal (digits : List UInt8) : Nat :=
  digits.foldl (fun n b => n * 10 + (b.toNat - 0x30)) 0

/-- The value of a field: no field is 0, and no value is beyond 65535. -/
def fieldValue (field : List UInt8) : UInt16 :=
  UInt16.ofNat (min (decimal field) 65535)

end Csi

open Csi

/-- What stands between the introducer of a control sequence and its final byte,
in its parts. -/
structure CsiText where
  marker : Option UInt8
  parameters : List UInt8
  intermediates : List UInt8
  isMarker_of_mem : ∀ b ∈ marker, Csi.isMarker b = true
  isParameterByte_of_mem : ∀ b ∈ parameters, isParameterByte b = true
  isIntermediate_of_mem : ∀ b ∈ intermediates, isIntermediate b = true

namespace CsiText

/-- The parts, one behind the other. -/
def body (t : CsiText) : List UInt8 :=
  t.marker.toList ++ t.parameters ++ t.intermediates

/-- The values of the fields between the separators. -/
def values (t : CsiText) : List UInt16 :=
  if t.parameters = [] then [] else (t.parameters.splitOnP isSeparator).map fieldValue

/-- For each field, whether it follows a colon. -/
def subs (t : CsiText) : List Bool :=
  if t.parameters = [] then []
  else false :: (t.parameters.filter isSeparator).map (· = 0x3A)

/-- The sequence that a text spells together with its final byte. Of the
parameters it has the first 32. -/
def spelled (t : CsiText) (final : UInt8) : Csi :=
  { params := t.values.take 32
    subparams := t.subs.take 32
    intermediates := t.intermediates
    marker := t.marker
    final }

end CsiText

variable {b : UInt8} {bs ps : List UInt8} {d : CsiDraft}

/-! ## Kinds of bytes -/

namespace Csi

theorem isSeparator_iff : isSeparator b = true ↔ b.toNat = 0x3A ∨ b.toNat = 0x3B := by
  simp only [isSeparator, Bool.or_eq_true, decide_eq_true_eq, ← UInt8.toNat_inj]
  rfl

theorem isParameterByte_iff : isParameterByte b = true ↔ 0x30 ≤ b.toNat ∧ b.toNat ≤ 0x3B := by
  simp only [isParameterByte, Bool.or_eq_true, Bool.and_eq_true, decide_eq_true_eq,
    isSeparator_iff]
  omega

theorem isIntermediate_iff : isIntermediate b = true ↔ 0x20 ≤ b.toNat ∧ b.toNat ≤ 0x2F := by
  simp [isIntermediate]

theorem isMarker_iff : isMarker b = true ↔ 0x3C ≤ b.toNat ∧ b.toNat ≤ 0x3F := by
  simp [isMarker]

theorem isFinal_iff : isFinal b = true ↔ 0x40 ≤ b.toNat ∧ b.toNat ≤ 0x7E := by
  simp [isFinal]

theorem isBodyByte_iff : isBodyByte b = true ↔ 0x20 ≤ b.toNat ∧ b.toNat ≤ 0x3F := by
  simp [isBodyByte]

theorem decimal_concat (digits : List UInt8) (b : UInt8) :
    decimal (digits ++ [b]) = decimal digits * 10 + (b.toNat - 0x30) := by
  simp [decimal]

end Csi

/-! ## The draft -/

namespace CsiDraft

/-- Reads a digit or a separator. -/
def read (d : CsiDraft) (b : UInt8) : CsiDraft :=
  if isSeparator b then d.separate (b = 0x3A) else d.digit (b.toNat - 0x30)

/-- The parameters that a text comes to behind a parameter of which `value` was
read. -/
def entries (value : Nat) (isSub : Bool) : List UInt8 → List (UInt16 × Bool)
  | [] => [(UInt16.ofNat value, isSub)]
  | b :: rest =>
    if isSeparator b then (UInt16.ofNat value, isSub) :: entries 0 (b = 0x3A) rest
    else entries (min (value * 10 + (b.toNat - 0x30)) 65535) isSub rest

theorem marker_read (d : CsiDraft) (b : UInt8) :
    (d.read b).marker = d.marker ∧ (d.read b).intermediates = d.intermediates := by
  unfold read
  split
  · exact ⟨rfl, rfl⟩
  · exact ⟨rfl, rfl⟩

theorem marker_foldl_read (d : CsiDraft) (ps : List UInt8) :
    (ps.foldl read d).marker = d.marker ∧ (ps.foldl read d).intermediates = d.intermediates := by
  induction ps generalizing d with
  | nil => exact ⟨rfl, rfl⟩
  | cons b rest ih =>
    obtain ⟨hmarker, hintermediates⟩ := ih (d.read b)
    exact ⟨hmarker.trans (marker_read d b).1, hintermediates.trans (marker_read d b).2⟩

theorem marker_close (d : CsiDraft) :
    d.close.marker = d.marker ∧ d.close.intermediates = d.intermediates := by
  unfold close
  split
  · exact ⟨rfl, rfl⟩
  · exact ⟨rfl, rfl⟩

/-- Past the bound a parameter is dropped. -/
theorem done_finish (h : d.done.length ≤ 32) :
    d.finish.done = (d.done ++ [(UInt16.ofNat d.value, d.isSub)]).take 32 := by
  show (if d.done.length < 32 then _ else _) = _
  split
  next hlt => rw [List.take_of_length_le (by rw [List.length_append]; exact hlt)]
  next hfull => rw [List.take_append_of_le_length (by omega), List.take_of_length_le h]

/-- **The parameters of the draft are those of the text**, as many as are kept. -/
theorem done_close_read (hstarted : d.started = true ∨ ps ≠ []) (h : d.done.length ≤ 32) :
    (ps.foldl read d).close.done = (d.done ++ entries d.value d.isSub ps).take 32 := by
  induction ps generalizing d with
  | nil =>
    have hclose : d.close = d.finish := if_pos (hstarted.resolve_right fun hne => hne rfl)
    rw [List.foldl_nil, hclose, done_finish h, entries]
  | cons b rest ih =>
    rw [List.foldl_cons, entries]
    by_cases hb : isSeparator b = true
    · have hread : d.read b = d.separate (b = 0x3A) := if_pos hb
      have hlength : d.finish.done.length ≤ 32 := by
        rw [done_finish h, List.length_take]
        exact Nat.min_le_left _ _
      have hrest := ih (d := d.separate (b = 0x3A)) (.inl rfl) hlength
      rw [hread, hrest, if_pos hb]
      show (d.finish.done ++ entries 0 _ rest).take 32 = _
      have hcut : ∀ l m : List (UInt16 × Bool), (l.take 32 ++ m).take 32 = (l ++ m).take 32 := by
        intro l m
        simp only [List.take_append, List.take_take, List.length_take, Nat.min_self]
        congr 2
        omega
      rw [done_finish h, hcut, List.append_assoc]
      rfl
    · have hread : d.read b = d.digit (b.toNat - 0x30) := if_neg hb
      rw [hread, ih (d := d.digit (b.toNat - 0x30)) (.inl rfl) h, if_neg hb]
      rfl

theorem no_separator_nil : ∀ b ∈ ([] : List UInt8), isSeparator b = false :=
  List.forall_mem_nil _

/-- The values among them are those of the fields. -/
theorem map_fst_entries {field : List UInt8} (hfield : ∀ b ∈ field, isSeparator b = false)
    (isSub : Bool) :
    (entries (min (decimal field) 65535) isSub ps).map (·.1) =
      ((field ++ ps).splitOnP isSeparator).map fieldValue := by
  induction ps generalizing field isSub with
  | nil => rw [List.append_nil, List.splitOnP_eq_singleton hfield]; rfl
  | cons b rest ih =>
    rw [entries]
    by_cases hb : isSeparator b = true
    · rw [if_pos hb, List.splitOnP_append_cons_of_forall_mem hfield b hb, List.map_cons,
        List.map_cons]
      exact congrArg _ (ih no_separator_nil _)
    · have hconcat : ∀ c ∈ field ++ [b], isSeparator c = false := by
        intro c hc
        rcases List.mem_append.mp hc with hc | hc
        · exact hfield c hc
        · rw [List.mem_singleton.mp hc]
          exact Bool.eq_false_iff.mpr hb
      have hvalue : min (min (decimal field) 65535 * 10 + (b.toNat - 0x30)) 65535 =
          min (decimal (field ++ [b])) 65535 := by
        rw [decimal_concat]
        omega
      rw [if_neg hb, hvalue, ih hconcat, List.append_assoc, List.singleton_append]

/-- And the marks are those of the separators. -/
theorem map_snd_entries (value : Nat) (isSub : Bool) (ps : List UInt8) :
    (entries value isSub ps).map (·.2) = isSub :: (ps.filter isSeparator).map (· = 0x3A) := by
  induction ps generalizing value isSub with
  | nil => rfl
  | cons b rest ih =>
    rw [entries]
    by_cases hb : isSeparator b = true
    · rw [if_pos hb, List.map_cons, ih, List.filter_cons_of_pos hb, List.map_cons]
    · rw [if_neg hb, ih, List.filter_cons_of_neg hb]

end CsiDraft

namespace CsiText

/-- The parameters of a draft that has read those of a text. -/
theorem done_draft (t : CsiText) :
    (t.parameters.foldl CsiDraft.read { marker := t.marker }).close.done =
      if t.parameters = [] then [] else (CsiDraft.entries 0 false t.parameters).take 32 := by
  split
  next hnone => rw [hnone]; rfl
  next hsome => exact CsiDraft.done_close_read (.inr hsome) (Nat.zero_le _)

/-- **A draft that has read the parts of a text spells what the text spells.** -/
theorem sequence_draft (t : CsiText) (final : UInt8) :
    let d := t.parameters.foldl CsiDraft.read { marker := t.marker }
    { d.close with intermediates := d.intermediates ++ t.intermediates }.sequence final =
      t.spelled final := by
  intro d
  have hmarker : d.close.marker = t.marker :=
    (CsiDraft.marker_close d).1.trans (CsiDraft.marker_foldl_read _ _).1
  have hintermediates : d.intermediates = [] := (CsiDraft.marker_foldl_read _ _).2
  have hvalues : d.close.done.map (·.1) = t.values.take 32 := by
    rw [t.done_draft, values]
    split
    · rfl
    · rw [List.map_take]
      exact congrArg _ (CsiDraft.map_fst_entries CsiDraft.no_separator_nil false)
  have hsubs : d.close.done.map (·.2) = t.subs.take 32 := by
    rw [t.done_draft, subs]
    split
    · rfl
    · rw [List.map_take, CsiDraft.map_snd_entries]
  simp only [CsiDraft.sequence, spelled, hvalues, hsubs, hmarker, hintermediates, List.nil_append]

/-- No byte behind the marker could be one. -/
theorem not_isMarker_of_mem (t : CsiText) {final : UInt8} (hfinal : isFinal final = true)
    (h : b ∈ t.parameters ++ (t.intermediates ++ [final])) :
    isMarker b = false ∧ 0x20 ≤ b.toNat := by
  have hplace : isParameterByte b = true ∨ isIntermediate b = true ∨ isFinal b = true := by
    rcases List.mem_append.mp h with h | h
    · exact .inl (t.isParameterByte_of_mem b h)
    · rcases List.mem_append.mp h with h | h
      · exact .inr (.inl (t.isIntermediate_of_mem b h))
      · exact .inr (.inr (List.mem_singleton.mp h ▸ hfinal))
  rw [isParameterByte_iff, isIntermediate_iff, isFinal_iff] at hplace
  rw [Bool.eq_false_iff, Ne, isMarker_iff]
  omega

end CsiText

namespace Parser

/-! ## Bytes in their place -/

theorem step_parameter (h : isParameterByte b = true) :
    (csiParameters d).step b = (csiParameters (d.read b), []) := by
  obtain ⟨hlow, hhigh⟩ := isParameterByte_iff.mp h
  refine (plainByte_visible (by omega) _).trans ?_
  show parameterByte d b = _
  unfold parameterByte CsiDraft.read
  dsimp only
  rw [if_neg (by omega)]
  by_cases hb : isSeparator b = true
  · rw [if_pos hb, if_neg (by rw [isSeparator_iff] at hb; omega)]
    by_cases hcolon : b.toNat = 0x3A
    · have hb' : b = 0x3A := UInt8.toNat_inj.mp hcolon
      rw [if_pos hcolon, hb']
      rfl
    · have hb' : b = 0x3B := UInt8.toNat_inj.mp ((isSeparator_iff.mp hb).resolve_left hcolon)
      rw [if_neg hcolon, hb']
      rfl
  · rw [if_neg hb, if_pos (by rw [isSeparator_iff] at hb; omega)]

theorem feed_parameters (h : ∀ b ∈ ps, isParameterByte b = true) :
    (csiParameters d).feed ps = (csiParameters (ps.foldl CsiDraft.read d), []) := by
  induction ps generalizing d with
  | nil => rfl
  | cons b rest ih =>
    obtain ⟨hb, hrest⟩ := List.forall_mem_cons.mp h
    rw [feed_cons, step_parameter hb, ih hrest]
    rfl

/-- The first intermediate ends the parameters. -/
theorem step_firstIntermediate (h : isIntermediate b = true) :
    (csiParameters d).step b =
      (csiIntermediates { d.close with intermediates := d.intermediates ++ [b] }, []) := by
  obtain ⟨hlow, hhigh⟩ := isIntermediate_iff.mp h
  refine (plainByte_visible hlow _).trans ?_
  exact if_pos (by omega)

theorem step_intermediate (h : isIntermediate b = true) :
    (csiIntermediates d).step b =
      (csiIntermediates { d with intermediates := d.intermediates ++ [b] }, []) := by
  obtain ⟨hlow, hhigh⟩ := isIntermediate_iff.mp h
  refine (plainByte_visible hlow _).trans ?_
  exact if_pos (by omega)

theorem feed_intermediates (h : ∀ b ∈ bs, isIntermediate b = true) :
    (csiIntermediates d).feed bs =
      (csiIntermediates { d with intermediates := d.intermediates ++ bs }, []) := by
  induction bs generalizing d with
  | nil => rw [feed_nil, List.append_nil]
  | cons b rest ih =>
    obtain ⟨hb, hrest⟩ := List.forall_mem_cons.mp h
    rw [feed_cons, step_intermediate hb, ih hrest, List.append_assoc]
    rfl

/-- The final byte sends the draft off, wherever the parts of the text end. -/
theorem step_final (h : isFinal b = true) :
    (csiParameters d).step b = (.ground, [.csi (d.close.sequence b)]) ∧
      (csiIntermediates d).step b = (.ground, [.csi (d.sequence b)]) := by
  obtain ⟨hlow, hhigh⟩ := isFinal_iff.mp h
  have hfinal : (0x40 ≤ b.toNat && b.toNat < 0x7F) = true := by
    rw [Bool.and_eq_true, decide_eq_true_eq, decide_eq_true_eq]
    omega
  constructor
  · refine (plainByte_visible (by omega) _).trans ?_
    show parameterByte d b = _
    unfold parameterByte
    dsimp only
    rw [if_neg (by omega), if_neg (by omega), if_neg (by omega), if_neg (by omega), if_pos hfinal]
  · refine (plainByte_visible (by omega) _).trans ?_
    show intermediateByte d b = _
    unfold intermediateByte
    dsimp only
    rw [if_neg (by omega), if_pos hfinal]

/-- Behind the parameters: the intermediates and the final byte. -/
theorem feed_behindParameters (h : ∀ b ∈ bs, isIntermediate b = true) {final : UInt8}
    (hfinal : isFinal final = true) :
    (csiParameters d).feed (bs ++ [final]) =
      (.ground,
        [.csi ({ d.close with intermediates := d.intermediates ++ bs }.sequence final)]) := by
  cases bs with
  | nil =>
    rw [List.nil_append, feed_cons, (step_final hfinal).1, List.append_nil,
      ← (CsiDraft.marker_close d).2]
    rfl
  | cons b rest =>
    obtain ⟨hb, hrest⟩ := List.forall_mem_cons.mp h
    rw [List.cons_append, feed_cons, step_firstIntermediate hb, feed_append,
      feed_intermediates hrest, feed_cons, (step_final hfinal).2, List.append_assoc]
    rfl

/-- A marker is read where the introducer ends, and only there. -/
theorem step_marker (h : isMarker b = true) :
    csiEntry.step b = (csiParameters { marker := some b }, []) := by
  obtain ⟨hlow, hhigh⟩ := isMarker_iff.mp h
  refine (plainByte_visible (by omega) _).trans ?_
  refine if_pos ?_
  rw [Bool.and_eq_true, decide_eq_true_eq, decide_eq_true_eq, UInt8.le_iff_toNat_le,
    UInt8.le_iff_toNat_le]
  exact ⟨hlow, hhigh⟩

/-- Without a marker the parameters begin at once. -/
theorem step_csiEntry (h : isMarker b = false) (hb : 0x20 ≤ b.toNat) :
    csiEntry.step b = (csiParameters {}).step b := by
  refine (plainByte_visible hb _).trans (Eq.trans ?_ (plainByte_visible hb _).symm)
  refine if_neg ?_
  rw [Bool.and_eq_true, decide_eq_true_eq, decide_eq_true_eq, UInt8.le_iff_toNat_le,
    UInt8.le_iff_toNat_le]
  intro hmarker
  rw [isMarker_iff.mpr hmarker] at h
  cases h

theorem feed_csiEntry (h : ∀ b ∈ bs.head?, isMarker b = false ∧ 0x20 ≤ b.toNat)
    (hne : bs ≠ []) : csiEntry.feed bs = (csiParameters {}).feed bs := by
  cases bs with
  | nil => exact absurd rfl hne
  | cons b rest =>
    obtain ⟨hmarker, hvisible⟩ := h b rfl
    rw [feed_cons, feed_cons, step_csiEntry hmarker hvisible]

/-! ## Texts of the grammar are read -/

/-- **A text of the grammar comes to the sequence it spells.** -/
theorem feed_text (t : CsiText) {final : UInt8} (hfinal : isFinal final = true) :
    csiEntry.feed (t.body ++ [final]) = (.ground, [.csi (t.spelled final)]) := by
  -- behind the marker the draft holds nothing else
  have hdraft : (csiParameters { marker := t.marker }).feed
      (t.parameters ++ (t.intermediates ++ [final])) = (.ground, [.csi (t.spelled final)]) := by
    rw [feed_append, feed_parameters t.isParameterByte_of_mem,
      feed_behindParameters t.isIntermediate_of_mem hfinal, t.sequence_draft final]
    rfl
  cases hmarker : t.marker with
  | some m =>
    rw [hmarker] at hdraft
    rw [CsiText.body, hmarker, Option.toList_some, List.append_assoc, List.append_assoc,
      List.singleton_append, feed_cons, step_marker (t.isMarker_of_mem m hmarker), hdraft]
    rfl
  | none =>
    rw [hmarker] at hdraft
    rw [CsiText.body, hmarker, Option.toList_none, List.nil_append, List.append_assoc,
      feed_csiEntry (fun b hb => t.not_isMarker_of_mem hfinal (List.mem_of_mem_head? hb)) (by simp),
      hdraft]

/-! ## All others are swallowed -/

theorem step_ignored (h : isBodyByte b = true) : csiIgnored.step b = (csiIgnored, []) := by
  obtain ⟨hlow, hhigh⟩ := isBodyByte_iff.mp h
  refine (plainByte_visible hlow _).trans ?_
  refine if_neg ?_
  rw [Bool.and_eq_true, decide_eq_true_eq, UInt8.le_iff_toNat_le]
  intro hfinal
  exact absurd hfinal.1 (Nat.not_le.mpr (Nat.lt_succ_of_le hhigh))

theorem feed_ignored (h : ∀ b ∈ bs, isBodyByte b = true) :
    csiIgnored.feed bs = (csiIgnored, []) := by
  induction bs with
  | nil => rfl
  | cons b rest ih =>
    obtain ⟨hb, hrest⟩ := List.forall_mem_cons.mp h
    rw [feed_cons, step_ignored hb, ih hrest]
    rfl

theorem step_ignored_final (h : isFinal b = true) : csiIgnored.step b = (.ground, []) := by
  obtain ⟨hlow, hhigh⟩ := isFinal_iff.mp h
  refine (plainByte_visible (by omega) _).trans ?_
  refine if_pos ?_
  rw [Bool.and_eq_true, decide_eq_true_eq, decide_eq_true_eq, UInt8.le_iff_toNat_le,
    UInt8.lt_iff_toNat_lt]
  exact ⟨hlow, Nat.lt_succ_of_le hhigh⟩

/-- Behind an intermediate nothing but intermediates is in its place. -/
theorem intermediates_or_ignored (h : ∀ b ∈ bs, isBodyByte b = true) :
    (∀ b ∈ bs, isIntermediate b = true) ∨
      (csiIntermediates d).feed bs = (csiIgnored, []) := by
  induction bs generalizing d with
  | nil => exact .inl (List.forall_mem_nil _)
  | cons b rest ih =>
    obtain ⟨hb, hrest⟩ := List.forall_mem_cons.mp h
    by_cases hplace : isIntermediate b = true
    · rcases ih (d := { d with intermediates := d.intermediates ++ [b] }) hrest with
        hall | hignored
      · exact .inl (List.forall_mem_cons.mpr ⟨hplace, hall⟩)
      · right
        rw [feed_cons, step_intermediate hplace, hignored]
        rfl
    · right
      obtain ⟨hlow, hhigh⟩ := isBodyByte_iff.mp hb
      rw [isIntermediate_iff] at hplace
      have hstep : (csiIntermediates d).step b = (csiIgnored, []) := by
        refine (plainByte_visible hlow _).trans ?_
        show intermediateByte d b = _
        unfold intermediateByte
        dsimp only
        rw [if_neg (by omega), if_neg]
        rw [Bool.and_eq_true, decide_eq_true_eq]
        omega
      rw [feed_cons, hstep, feed_ignored hrest]
      rfl

/-- Behind the marker the parameters come first, and intermediates behind them. -/
theorem parts_or_ignored (h : ∀ b ∈ bs, isBodyByte b = true) :
    (∃ ps is, bs = ps ++ is ∧ (∀ b ∈ ps, isParameterByte b = true) ∧
        ∀ b ∈ is, isIntermediate b = true) ∨
      (csiParameters d).feed bs = (csiIgnored, []) := by
  induction bs generalizing d with
  | nil => exact .inl ⟨[], [], rfl, List.forall_mem_nil _, List.forall_mem_nil _⟩
  | cons b rest ih =>
    obtain ⟨hb, hrest⟩ := List.forall_mem_cons.mp h
    by_cases hparameter : isParameterByte b = true
    · rcases ih (d := d.read b) hrest with ⟨ps, is, rfl, hps, his⟩ | hignored
      · exact .inl ⟨b :: ps, is, rfl, List.forall_mem_cons.mpr ⟨hparameter, hps⟩, his⟩
      · right
        rw [feed_cons, step_parameter hparameter, hignored]
        rfl
    · by_cases hplace : isIntermediate b = true
      · rcases intermediates_or_ignored hrest with hall | hignored
        · left
          exact ⟨[], b :: rest, rfl, List.forall_mem_nil _,
            List.forall_mem_cons.mpr ⟨hplace, hall⟩⟩
        · right
          rw [feed_cons, step_firstIntermediate hplace, hignored]
          rfl
      · right
        obtain ⟨hlow, hhigh⟩ := isBodyByte_iff.mp hb
        rw [isParameterByte_iff] at hparameter
        rw [isIntermediate_iff] at hplace
        have hstep : (csiParameters d).step b = (csiIgnored, []) := by
          refine (plainByte_visible hlow _).trans ?_
          show parameterByte d b = _
          unfold parameterByte
          dsimp only
          rw [if_neg (by omega), if_neg (by omega), if_neg (by omega), if_neg (by omega), if_neg]
          rw [Bool.and_eq_true, decide_eq_true_eq]
          omega
        rw [feed_cons, hstep, feed_ignored hrest]
        rfl

/-- **A body is a text of the grammar, or it is ignored.** -/
theorem text_or_ignored (h : ∀ b ∈ bs, isBodyByte b = true) :
    (∃ t : CsiText, t.body = bs) ∨ csiEntry.feed bs = (csiIgnored, []) := by
  cases bs with
  | nil => exact .inl ⟨⟨none, [], [], nofun, nofun, nofun⟩, rfl⟩
  | cons b rest =>
    obtain ⟨hb, hrest⟩ := List.forall_mem_cons.mp h
    obtain ⟨hlow, hhigh⟩ := isBodyByte_iff.mp hb
    cases hmarker : isMarker b with
    | true =>
      rcases parts_or_ignored hrest with ⟨ps, is, rfl, hps, his⟩ | hignored
      · have hm : ∀ m ∈ some b, isMarker m = true := by
          rintro m ⟨⟩
          exact hmarker
        exact .inl ⟨⟨some b, ps, is, hm, hps, his⟩, rfl⟩
      · right
        rw [feed_cons, step_marker hmarker, hignored]
        rfl
    | false =>
      rcases parts_or_ignored h with ⟨ps, is, hsplit, hps, his⟩ | hignored
      · exact .inl ⟨⟨none, ps, is, nofun, hps, his⟩, hsplit.symm⟩
      · right
        rw [feed_cons, step_csiEntry hmarker hlow, ← feed_cons, hignored]

/-- **The parser reads exactly the texts of the grammar.** Behind `ESC [` a body
with its final byte comes to the sequence that the body spells, if the body is a
text of the grammar, and to nothing if it is none. Either way nothing is half read
behind it. -/
theorem feed_body {body : List UInt8} {final : UInt8} (hbody : ∀ b ∈ body, isBodyByte b = true)
    (hfinal : isFinal final = true) :
    (∀ t : CsiText, t.body = body →
      ground.feed ([0x1B, 0x5B] ++ body ++ [final]) = (.ground, [.csi (t.spelled final)])) ∧
    ((¬ ∃ t : CsiText, t.body = body) →
      ground.feed ([0x1B, 0x5B] ++ body ++ [final]) = (.ground, [])) := by
  have hentry : ground.feed ([0x1B, 0x5B] ++ body ++ [final]) =
      csiEntry.feed (body ++ [final]) := rfl
  rw [hentry]
  constructor
  · rintro t rfl
    exact feed_text t hfinal
  · intro hnone
    rw [feed_append, (text_or_ignored hbody).resolve_left hnone, feed_cons,
      step_ignored_final hfinal]
    rfl

/-- `? ; 70000 : 5` with a space is a text of the grammar, and `1 ? 2` is none. -/
theorem feed_body_marker_in_place :
    ((∀ b ∈ [0x3F, 0x3B, 0x37, 0x30, 0x30, 0x30, 0x30, 0x3A, 0x35, 0x20], isBodyByte b = true) ∧
      isFinal 0x71 = true ∧
      ground.feed ([0x1B, 0x5B] ++
          [0x3F, 0x3B, 0x37, 0x30, 0x30, 0x30, 0x30, 0x3A, 0x35, 0x20] ++ [0x71]) =
        (.ground, [.csi
          { params := [0, 65535, 5], subparams := [false, false, true], intermediates := [0x20],
            marker := some 0x3F, final := 0x71 }])) ∧
    (∀ b ∈ [0x31, 0x3F, 0x32], isBodyByte b = true) ∧ isFinal 0x68 = true ∧
      ground.feed ([0x1B, 0x5B] ++ [0x31, 0x3F, 0x32] ++ [0x68]) = (.ground, []) := by
  constructor
  · have hbody : ∀ b ∈ [0x3F, 0x3B, 0x37, 0x30, 0x30, 0x30, 0x30, 0x3A, 0x35, 0x20],
        isBodyByte b = true := List.all_eq_true.mp (by decide)
    have hmarker : ∀ b ∈ some 0x3F, Csi.isMarker b = true := by
      rintro b ⟨⟩
      decide
    exact ⟨hbody, by decide, (feed_body hbody (by decide)).1
      ⟨some 0x3F, [0x3B, 0x37, 0x30, 0x30, 0x30, 0x30, 0x3A, 0x35], [0x20], hmarker,
        List.all_eq_true.mp (by decide), List.all_eq_true.mp (by decide)⟩ rfl⟩
  · have hbody : ∀ b ∈ [0x31, 0x3F, 0x32], isBodyByte b = true := List.all_eq_true.mp (by decide)
    refine ⟨hbody, by decide, (feed_body hbody (by decide)).2 ?_⟩
    rintro ⟨⟨marker, ps, is, hmarker, hps, his⟩, hparts⟩
    cases marker with
    | some m =>
      obtain ⟨rfl, -⟩ := List.cons.inj hparts
      exact absurd (hmarker _ rfl) (by decide)
    | none =>
      have hmem : 0x3F ∈ ps ++ is := by
        rw [show ps ++ is = [0x31, 0x3F, 0x32] from hparts]
        decide
      rcases List.mem_append.mp hmem with h | h
      · exact absurd (hps _ h) (by decide)
      · exact absurd (his _ h) (by decide)

end Parser

end Teletype

import Teletype.Proofs.Emulator.Report
import Teletype.Proofs.Parser.Command

/-!
# Which colors a command changes

A command names entries of the palette by their indices: number 4 to give them new colors,
and number 104 to give them back their first ones. A field that is no index is left out.
What was not named stays as it was, and so do the dynamic colors (`Palette.KeepsOthers`).

But for number 104 no index is left of fields that are all of them bad, and no indices are
taken for all of them: such a command resets every entry, although it names none
(`Emulator.keepsOthers_iff`).
-/

namespace Teletype

open Text

/-- Besides the entries that fields name, the palette is as it was. -/
structure Palette.KeepsOthers (fields : List (List Char)) (p q : Palette) : Prop where
  indexed : ∀ i : UInt8, (∀ field ∈ fields, Osc.index? field ≠ some i.toUInt16) → q.get i = p.get i
  dynamic : ∀ which, q.dynamic which = p.dynamic which

namespace Osc

/-- The number of a command and what is sent behind it. -/
def numbered? (text : List Char) : Option (Nat × List Char) :=
  let (number, payload) := (cutAt? ';' text).getD (text, [])
  (Numeral.upTo? (UInt32.size - 1) number).map fun n => (n, payload)

/-- The fields in the place of an index, where fields are taken two by two. -/
def indexFields : List (List Char) → List (List Char)
  | index :: _ :: rest => index :: indexFields rest
  | fields => fields

variable {text payload : List Char} {fields : List (List Char)} {n : Nat}

theorem ofText?_eq (text : List Char) : ofText? text =
    (numbered? text).map fun (n, payload) => ofPayload (UInt32.ofNat n) payload := by
  unfold ofText? numbered?
  rw [Option.map_map]
  rfl

/-- An entry of a new color stands behind a field with its index. -/
theorem exists_indexField {entry : UInt16 × String} (h : entry ∈ colorEntries fields) :
    ∃ field ∈ indexFields fields, index? field = some entry.1 := by
  induction fields using colorEntries.induct with
  | case1 index spec rest i hi ih =>
    rw [colorEntries, hi] at h
    rcases List.mem_cons.mp h with rfl | h
    · exact ⟨index, List.mem_cons_self, hi⟩
    · obtain ⟨field, hfield, heq⟩ := ih h
      exact ⟨field, List.mem_cons_of_mem _ hfield, heq⟩
  | case2 index spec rest hi ih =>
    rw [colorEntries, hi] at h
    obtain ⟨field, hfield, heq⟩ := ih h
    exact ⟨field, List.mem_cons_of_mem _ hfield, heq⟩
  | case3 fields hshort =>
    rw [colorEntries] at h
    · cases h
    · exact hshort

end Osc

namespace Palette

variable {fields : List (List Char)} {p q r : Palette}

theorem get_set_self (p : Palette) (i : UInt8) (color : Rgb) :
    (p.set i.toNat color).get i = color := by
  simp only [get, set]
  exact Vector.getElem_setIfInBounds_self _

theorem get_initialIndexed (p : Palette) (i : UInt8) :
    { p with indexed := initialIndexed }.get i = Rgb.ofIndex i.toNat := by
  simp only [get, initialIndexed]
  exact Vector.getElem_ofFn _

namespace KeepsOthers

theorem refl (fields : List (List Char)) (p : Palette) : KeepsOthers fields p p :=
  ⟨fun _ _ => rfl, fun _ => rfl⟩

theorem trans (hpq : KeepsOthers fields p q) (hqr : KeepsOthers fields q r) :
    KeepsOthers fields p r where
  indexed i hi := (hqr.indexed i hi).trans (hpq.indexed i hi)
  dynamic which := (hqr.dynamic which).trans (hpq.dynamic which)

/-- An entry that is named is no other one. -/
theorem set {index : UInt16} (h : ∃ field ∈ fields, Osc.index? field = some index)
    (p : Palette) (color : Rgb) : KeepsOthers fields p (p.set index.toNat color) where
  indexed i hi := by
    refine get_set_of_ne fun heq => ?_
    obtain ⟨field, hfield, hindex⟩ := h
    have hsame : i.toUInt16 = index := UInt16.toNat_inj.mp heq
    exact hi field hfield (hsame ▸ hindex)
  dynamic _ := dynamic_set

end KeepsOthers

end Palette

namespace Emulator

open Palette Osc

variable {fields : List (List Char)} {e : Emulator}

theorem keepsOthers_recolor {entries : List (UInt16 × String)}
    (h : ∀ entry ∈ entries, ∃ field ∈ fields, index? field = some entry.1) (p : Palette) :
    KeepsOthers fields p (recolor p entries).1 := by
  unfold recolor
  generalize false = changed
  induction entries generalizing p changed with
  | nil => exact .refl _ p
  | cons entry rest ih =>
    obtain ⟨hentry, hrest⟩ := List.forall_mem_cons.mp h
    rw [List.foldl_cons]
    dsimp only
    split
    · split
      · exact (KeepsOthers.set hentry p _).trans (ih hrest _ _)
      · exact ih hrest p changed
    · exact ih hrest p changed

theorem keepsOthers_restoreColors {indices : List UInt16} (hne : indices ≠ [])
    (h : ∀ i ∈ indices, ∃ field ∈ fields, index? field = some i) (p : Palette) :
    KeepsOthers fields p (restoreColors p indices) := by
  have hsome : ¬ indices.isEmpty = true := fun hnone => hne (List.isEmpty_iff.mp hnone)
  rw [restoreColors, if_neg hsome]
  clear hne hsome
  induction indices generalizing p with
  | nil => exact .refl _ p
  | cons i rest ih =>
    obtain ⟨hi, hrest⟩ := List.forall_mem_cons.mp h
    exact (KeepsOthers.set hi p _).trans (ih hrest _)

/-! ## Commands in a stream -/

/-- A command to the terminal as a whole, as it is sent. -/
def osc (payload ending : List UInt8) : List UInt8 :=
  [0x1B, 0x5D] ++ payload ++ ending

variable {bytes ending : List UInt8} {payload : List Char}

/-- **A command is carried out, whatever stood before it.** -/
theorem append_osc (e : Emulator) (hbytes : ∀ b ∈ bytes, 0x20 ≤ b.toNat)
    (hending : ending ∈ Parser.terminators) : e.append (osc bytes ending) =
      (e.cutShort.applyAll (Parser.commandOf bytes)).withParser .ground := by
  have hfeed : e.parser.feed (osc bytes ending) =
      (.ground, e.parser.cutShort ++ Parser.commandOf bytes) := by
    obtain ⟨ends, hstep⟩ := e.parser.exists_step_escape
    have hopened : (Parser.escape ends).step 0x5D = (Parser.collected [], []) := by
      cases ends <;> rfl
    rw [osc, List.append_assoc, List.cons_append, List.singleton_append, Parser.feed_cons, hstep,
      Parser.feed_cons, hopened, Parser.feed_append, Parser.feed_collected hbytes, List.nil_append,
      Parser.feed_terminator hending]
    rfl
  rw [append_eq, hfeed, applyAll_append, settled, ite_self]
  rfl

/-- The command that bytes hold, if they are not too many to be kept. -/
theorem palette_append_osc (e : Emulator) (hbytes : ∀ b ∈ bytes, 0x20 ≤ b.toNat)
    (hending : ending ∈ Parser.terminators) {n : Nat}
    (hsaid : numbered? (Utf8.decode bytes).toList = some (n, payload)) :
    (e.append (osc bytes ending)).palette =
      if bytes.length ≤ Parser.maxPayload then
        (e.cutShort.command (ofPayload (UInt32.ofNat n) payload)).palette
      else e.cutShort.palette := by
  have hread : ofBytes? bytes = some (ofPayload (UInt32.ofNat n) payload) := by
    rw [ofBytes?, ofText?_eq, hsaid]
    rfl
  rw [append_osc e hbytes hending, Parser.commandOf, hread]
  split
  · rfl
  · rfl

/-- **New colors** are given to named entries only. -/
theorem keepsOthers_setColor (e : Emulator) (payload : List Char) :
    KeepsOthers (indexFields (Text.fields ';' payload)) e.palette
      (e.command (ofPayload 4 payload)).palette := by
  cases hentries : colorEntries (Text.fields ';' payload) with
  | nil =>
    have hunknown : ofPayload 4 payload = .unknown 4 (String.ofList payload) := by
      simp [ofPayload, hentries]
    rw [hunknown]
    exact .refl _ _
  | cons entry rest =>
    have hset : ofPayload 4 payload = .setColor (entry :: rest) := by
      simp [ofPayload, hentries]
    have hnamed : ∀ entry' ∈ entry :: rest, ∃ field ∈ indexFields (Text.fields ';' payload),
        index? field = some entry'.1 := fun _ h => exists_indexField (hentries ▸ h)
    have hrecolor := keepsOthers_recolor hnamed e.palette
    rw [hset, command]
    dsimp only
    split
    · exact hrecolor
    · exact .refl _ _

/-- The indices that are left of the fields. -/
theorem palette_resetColor (e : Emulator) (payload : List Char) :
    (e.command (ofPayload 104 payload)).palette =
      restoreColors e.palette ((Text.fields ';' payload).filterMap index?) :=
  rfl

/-- First colors are given back to named entries only, if there are any. -/
theorem keepsOthers_resetColor (e : Emulator) {payload : List Char}
    (h : ∃ field ∈ Text.fields ';' payload, (index? field).isSome = true) :
    KeepsOthers (Text.fields ';' payload) e.palette
      (e.command (ofPayload 104 payload)).palette := by
  rw [palette_resetColor]
  refine keepsOthers_restoreColors (fun hnone => ?_) (fun i hi => List.mem_filterMap.mp hi) _
  obtain ⟨field, hfield, hsome⟩ := h
  obtain ⟨i, hi⟩ := Option.isSome_iff_exists.mp hsome
  have hmem := List.mem_filterMap.mpr ⟨field, hfield, hi⟩
  rw [hnone] at hmem
  cases hmem

/-- If there are none, all entries are reset. -/
theorem resetColor_of_none (e : Emulator) {payload : List Char}
    (h : ¬ ∃ field ∈ Text.fields ';' payload, (index? field).isSome = true) :
    (e.command (ofPayload 104 payload)).palette =
      { e.palette with indexed := initialIndexed } := by
  have hnone : (Text.fields ';' payload).filterMap index? = [] := by
    refine List.filterMap_eq_nil_iff.mpr fun field hfield => ?_
    exact Option.not_isSome_iff_eq_none.mp fun hsome => h ⟨field, hfield, hsome⟩
  rw [palette_resetColor, hnone]
  rfl

/-- An emulator whose first color was changed. -/
def recolored : Emulator :=
  { initial 1 1 0 with palette := Palette.initial.set 0 ⟨255, 255, 255⟩ }

theorem get_recolored : recolored.palette.get 0 = ⟨255, 255, 255⟩ :=
  get_set_self Palette.initial 0 _

/-- A reset of all entries is seen on it. -/
theorem not_keepsOthers_reset {payload : List Char}
    (h : ¬ ∃ field ∈ Text.fields ';' payload, (index? field).isSome = true) :
    ¬ KeepsOthers (Text.fields ';' payload) recolored.palette
      { recolored.palette with indexed := initialIndexed } := by
  intro hkeeps
  have hsame := hkeeps.indexed 0 fun field hfield hindex =>
    h ⟨field, hfield, Option.isSome_of_eq_some hindex⟩
  rw [get_initialIndexed, get_recolored] at hsame
  revert hsame
  decide

/-- **When a command touches only what it names.** A command of number 4 changes no entry
but those whose indices it names, and one of number 104 does so exactly if there is an index
among its fields, or it is too long to be carried out. In all other cases it gives all
entries back their first colors. The dynamic colors are never touched. -/
theorem keepsOthers_iff (hbytes : ∀ b ∈ bytes, 0x20 ≤ b.toNat)
    (hending : ending ∈ Parser.terminators) :
    let said := numbered? (Utf8.decode bytes).toList
    (∀ payload, said = some (4, payload) → ∀ e : Emulator,
      KeepsOthers (indexFields (Text.fields ';' payload)) e.cutShort.palette
        (e.append (osc bytes ending)).palette) ∧
    ∀ payload, said = some (104, payload) →
      let named := (∃ field ∈ Text.fields ';' payload, (index? field).isSome = true) ∨
        Parser.maxPayload < bytes.length
      ((∀ e : Emulator, KeepsOthers (Text.fields ';' payload) e.cutShort.palette
        (e.append (osc bytes ending)).palette) ↔ named) ∧
      (¬ named → ∀ e : Emulator, (e.append (osc bytes ending)).palette =
        { e.cutShort.palette with indexed := initialIndexed }) := by
  intro said
  constructor
  · intro payload hsaid e
    rw [palette_append_osc e hbytes hending hsaid]
    split
    · exact keepsOthers_setColor _ payload
    · exact .refl _ _
  · intro payload hsaid named
    have hreset : ¬ named → ∀ e : Emulator, (e.append (osc bytes ending)).palette =
        { e.cutShort.palette with indexed := initialIndexed } := by
      intro hnone e
      obtain ⟨hbad, hfits⟩ := not_or.mp hnone
      rw [palette_append_osc e hbytes hending hsaid, if_pos (Nat.not_lt.mp hfits)]
      exact resetColor_of_none _ hbad
    refine ⟨⟨fun hkeeps => ?_, fun hnamed e => ?_⟩, hreset⟩
    · refine Classical.byContradiction fun hnone => ?_
      have hfirst := hkeeps recolored
      rw [hreset hnone] at hfirst
      exact not_keepsOthers_reset (not_or.mp hnone).1 hfirst
    · rw [palette_append_osc e hbytes hending hsaid]
      split
      next hfits =>
        exact keepsOthers_resetColor _ (hnamed.resolve_right (Nat.not_lt.mpr hfits))
      next => exact .refl _ _

/-- The first color stays white while the second one is reset. -/
theorem keepsOthers_iff_second :
    let bytes := Utf8.encode "104;1"
    (∀ b ∈ bytes, 0x20 ≤ b.toNat) ∧ [0x07] ∈ Parser.terminators ∧
      numbered? (Utf8.decode bytes).toList = some (104, ['1']) ∧
      (recolored.append (osc bytes [0x07])).palette.get 0 = ⟨255, 255, 255⟩ := by
  intro bytes
  have hbytes : ∀ b ∈ bytes, 0x20 ≤ b.toNat := by decide +kernel
  have hbell : [0x07] ∈ Parser.terminators := by decide
  have hsaid : numbered? (Utf8.decode bytes).toList = some (104, ['1']) := by decide +kernel
  have hindex : ∃ field ∈ Text.fields ';' ['1'], (index? field).isSome = true := by decide +kernel
  have hother : ∀ field ∈ Text.fields ';' ['1'], index? field ≠ some (0 : UInt8).toUInt16 := by
    decide +kernel
  have hkeeps := (((keepsOthers_iff hbytes hbell).2 _ hsaid).1.mpr (.inl hindex)) recolored
  exact ⟨hbytes, hbell, hsaid, (hkeeps.indexed 0 hother).trans get_recolored⟩

/-- A command whose one field is no index resets a color that was set before. -/
theorem reset_without_index :
    let e := (initial 2 1 0).append (osc (Utf8.encode "4;1;#ffffff") [0x07])
    numbered? "104;x".toList = some (104, ['x']) ∧ index? ['x'] = none ∧
      e.palette.get 1 = ⟨255, 255, 255⟩ ∧
      (e.append (osc (Utf8.encode "104;x") [0x07])).palette.get 1 ≠ e.palette.get 1 := by
  decide +kernel

end Emulator

end Teletype

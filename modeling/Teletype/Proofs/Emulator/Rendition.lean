import Teletype.Proofs.Emulator.Report
import Teletype.Proofs.Pen.Selected

/-!
# Sequences that select a rendition

What `ESC [ … m` selects is read off its parameters, and joining the parameters of two
sequences with a semicolon joins their groups (`Csi.grouped_append`). So the joined sequence
does what the two do one after the other, unless the first one stops inside a color, for
which the second one would then be taken.

Whatever stands between the introducer and the `m`, the sequence repaints the pen or does
nothing (`Emulator.exists_repaints`), and sending it again changes nothing
(`Emulator.renditions_compose`).
-/

namespace Teletype

open Csi

namespace Csi

/-- The parameters that a text spells, each with the mark of a sub-parameter. Where none was
sent there is a 0. -/
def parametersOf (ps : List UInt8) : List (UInt16 × Bool) :=
  CsiDraft.entries 0 false ps

/-- The groups of such parameters. -/
def grouped : List (UInt16 × Bool) → List ParameterGroup
  | [] => []
  | (p, _) :: rest => ⟨p, (regroup rest).1⟩ :: (regroup rest).2

variable {xs ys : List (UInt16 × Bool)} {p q : List UInt8} {final : UInt8}

theorem entries_append (value : Nat) (isSub : Bool) (p q : List UInt8) :
    CsiDraft.entries value isSub (p ++ 0x3B :: q) =
      CsiDraft.entries value isSub p ++ parametersOf q := by
  induction p generalizing value isSub with
  | nil => rfl
  | cons b rest ih =>
    rw [List.cons_append, CsiDraft.entries, CsiDraft.entries]
    split
    · rw [ih, List.cons_append]
    · exact ih _ _

/-- A semicolon joins parameters. -/
theorem parametersOf_append (p q : List UInt8) :
    parametersOf (p ++ 0x3B :: q) = parametersOf p ++ parametersOf q :=
  entries_append 0 false p q

/-- The first parameter is none of the one before it. -/
theorem exists_parametersOf (ps : List UInt8) :
    ∃ value rest, parametersOf ps = (value, false) :: rest := by
  have hmarks : (parametersOf ps).map (·.2) = _ := CsiDraft.map_snd_entries 0 false ps
  obtain ⟨⟨value, isSub⟩, rest, heq, hfirst, -⟩ := List.map_eq_cons_iff.mp hmarks
  obtain rfl : isSub = false := hfirst
  exact ⟨value, rest, heq⟩

/-- Behind a semicolon there is another group. -/
theorem regroup_append (xs : List (UInt16 × Bool)) (value : UInt16)
    (rest : List (UInt16 × Bool)) :
    regroup (xs ++ (value, false) :: rest) =
      ((regroup xs).1, (regroup xs).2 ++ grouped ((value, false) :: rest)) := by
  induction xs with
  | nil => rfl
  | cons x xs ih =>
    obtain ⟨p, isSub⟩ := x
    rw [List.cons_append, regroup, ih, regroup]
    cases isSub <;> rfl

/-- **The groups of the joined parameters are those of the parts.** -/
theorem grouped_append (p q : List UInt8) :
    grouped (parametersOf (p ++ 0x3B :: q)) =
      grouped (parametersOf p) ++ grouped (parametersOf q) := by
  obtain ⟨x, xs, hp⟩ := exists_parametersOf p
  obtain ⟨y, ys, hq⟩ := exists_parametersOf q
  rw [parametersOf_append, hp, hq, List.cons_append, grouped, regroup_append]
  rfl

/-- A sequence has the groups of its parameters. -/
theorem groups_eq {c : Csi} (hparams : c.params = xs.map (·.1))
    (hsubs : c.subparams = xs.map (·.2)) : c.groups = grouped xs := by
  have hpairs : c.params.zipIdx.map (fun x => (x.1, c.isSubparam x.2)) = xs := by
    refine List.ext_getElem? fun i => ?_
    rw [List.getElem?_map, List.getElem?_zipIdx, hparams, List.getElem?_map]
    cases hx : xs[i]? with
    | none => rfl
    | some x => simp [isSubparam, hsubs, hx]
  rw [groups, hpairs]
  cases xs with
  | nil => rfl
  | cons x rest => rfl

end Csi

namespace Pen

/-- **What a text of the grammar selects.** -/
theorem rendered_spelled (pen : Pen) (t : CsiText) (final : UInt8) :
    pen.rendered (t.spelled final) =
      pen.selectAll (grouped ((parametersOf t.parameters).take maxParameters)) := by
  by_cases hnone : t.parameters = []
  · -- no parameters ask for what a 0 asks for
    have hplain : pen.rendered (t.spelled final) = {} := by
      refine if_pos ?_
      show (t.values.take 32).isEmpty = true
      rw [CsiText.values, if_pos hnone]
      rfl
    have hzero : grouped ((parametersOf []).take maxParameters) = [⟨0, []⟩] := rfl
    rw [hplain, hnone, hzero, selectAll, if_neg (by decide), if_neg (by decide), selectAll]
    rfl
  · have hparams : (t.spelled final).params =
        ((parametersOf t.parameters).take maxParameters).map (·.1) := by
      have hvalues : (parametersOf t.parameters).map (·.1) =
          (t.parameters.splitOnP isSeparator).map fieldValue :=
        CsiDraft.map_fst_entries CsiDraft.no_separator_nil false
      show t.values.take 32 = _
      rw [List.map_take, CsiText.values, if_neg hnone, hvalues]
      rfl
    have hsubs : (t.spelled final).subparams =
        ((parametersOf t.parameters).take maxParameters).map (·.2) := by
      show t.subs.take 32 = _
      rw [List.map_take, CsiText.subs, if_neg hnone, parametersOf, CsiDraft.map_snd_entries]
      rfl
    have hsome : ¬ (t.spelled final).params.isEmpty = true := by
      obtain ⟨value, rest, heq⟩ := exists_parametersOf t.parameters
      rw [hparams, heq]
      exact Bool.false_ne_true
    rw [rendered, if_neg hsome, groups_eq hparams hsubs]

end Pen

namespace Emulator

variable {e : Emulator} {body : List UInt8}

/-- A sequence that selects what the parameters say, as it is sent. -/
def rendition (body : List UInt8) : List UInt8 :=
  introducer ++ (body ++ [0x6D])

/-- A pen is taken up. -/
def repaint (f : Pen → Pen) (e : Emulator) : Emulator :=
  e.mapScreen fun s => s.setPen (f s.cursor.pen)

/-- A text of nothing but parameters selects what its groups say. -/
theorem csi_parameters (e : Emulator) {t : CsiText} (hmarker : t.marker = none)
    (hintermediates : t.intermediates = []) : e.csi (t.spelled 0x6D) =
      e.repaint (·.selectAll (grouped ((parametersOf t.parameters).take maxParameters))) := by
  have hcommand : (t.spelled 0x6D).command = 'm' := rfl
  have hseen : (t.spelled 0x6D).marker = none := hmarker
  have hbare : (t.spelled 0x6D).intermediates = [] := hintermediates
  simp only [csi, hseen, hbare, plainCsi, hcommand, Pen.rendered_spelled]
  rfl

/-- Any text of the grammar repaints the pen. One with a marker or intermediates selects
something else and is not known. -/
theorem csi_rendition (t : CsiText) : ∃ f, Pen.Repaints f ∧
    ∀ e : Emulator, e.csi (t.spelled 0x6D) = e.repaint f := by
  have hcommand : (t.spelled 0x6D).command = 'm' := rfl
  cases hmarker : t.marker with
  | some marker =>
    refine ⟨id, .keep, fun e => ?_⟩
    have hseen : (t.spelled 0x6D).marker = some marker := hmarker
    simp only [csi, hseen, privateCsi, hcommand]
    split
    · rfl
    · rw [if_neg (by simp)]
      rfl
  | none =>
    cases hintermediates : t.intermediates with
    | nil => exact ⟨_, .selectAll _, fun e => csi_parameters e hmarker hintermediates⟩
    | cons b rest =>
      refine ⟨id, .keep, fun e => ?_⟩
      have hseen : (t.spelled 0x6D).marker = none := hmarker
      have hfull : (t.spelled 0x6D).intermediates = b :: rest := hintermediates
      simp only [csi, hseen, hfull, hcommand]
      rw [if_neg (by simp), if_neg (by simp)]
      rfl

/-- A sequence of nothing but parameters, as many as are kept. -/
theorem append_parameters (e : Emulator) {p : List UInt8}
    (hp : ∀ b ∈ p, isParameterByte b = true) (hcount : (parametersOf p).length ≤ maxParameters) :
    e.append (rendition p) =
      (e.cutShort.repaint (·.selectAll (grouped (parametersOf p)))).withParser .ground := by
  let t : CsiText := ⟨none, p, [], by simp, hp, by simp⟩
  have hsent : rendition p = introducer ++ (t.body ++ [0x6D]) :=
    congrArg (fun body => introducer ++ (body ++ [0x6D])) (List.append_nil p).symm
  rw [hsent, append_text e t (by decide), csi_parameters _ rfl rfl,
    List.take_of_length_le hcount]

/-- **Whatever stands in a sequence, it repaints the pen and does nothing else**, but for
what is cut short by it. -/
theorem exists_repaints (hbody : ∀ b ∈ body, isBodyByte b = true) : ∃ f, Pen.Repaints f ∧
    ∀ e : Emulator, e.append (rendition body) = (e.cutShort.repaint f).withParser .ground := by
  rcases Parser.text_or_ignored hbody with ⟨t, rfl⟩ | hignored
  · obtain ⟨f, hf, hcsi⟩ := csi_rendition t
    refine ⟨f, hf, fun e => ?_⟩
    rw [rendition, append_text e t (by decide), hcsi]
  · refine ⟨id, .keep, fun e => ?_⟩
    have hfeed : e.parser.feed (rendition body) = (.ground, e.parser.cutShort ++ []) := by
      rw [rendition, feed_introduced, Parser.feed_append, hignored, Parser.feed_cons,
        Parser.step_ignored_final (by decide)]
      rfl
    rw [append_eq, hfeed, List.append_nil, settled, ite_self]
    rfl

/-! ## One sequence behind another -/

theorem cutShort_withParser_ground (e : Emulator) :
    (e.withParser .ground).cutShort = e.withParser .ground := rfl

theorem cutShort_of_ground (h : e.parser = .ground) : e.cutShort = e := by
  rw [cutShort, h]
  rfl

/-- **Sequences that select a rendition compose, and only repaint the pen.** Parameters
joined by a semicolon select what the two lists select one after the other, if they are no
more than are kept and the first list does not stop inside a color. Any sequence sent twice
does what it does once, and changes nothing but the pen. -/
theorem renditions_compose (e : Emulator) :
    (∀ p q : List UInt8, (∀ b ∈ p, isParameterByte b = true) → (∀ b ∈ q, isParameterByte b = true) →
      (parametersOf p).length + (parametersOf q).length ≤ maxParameters →
      Pen.endsInColor (grouped (parametersOf p)) = false →
      e.append (rendition (p ++ 0x3B :: q)) =
        (e.append (rendition p)).append (rendition q)) ∧
    ∀ body : List UInt8, (∀ b ∈ body, isBodyByte b = true) →
      (e.append (rendition body)).append (rendition body) = e.append (rendition body) ∧
      (∃ pen, e.append (rendition body) =
        (e.cutShort.mapScreen (·.setPen pen)).withParser .ground) ∧
      (e.parser = .ground → ∃ pen, e.append (rendition body) = e.mapScreen (·.setPen pen)) := by
  constructor
  · intro p q hp hq hcount hend
    have hpq : ∀ b ∈ p ++ 0x3B :: q, isParameterByte b = true :=
      List.forall_mem_append.mpr ⟨hp, List.forall_mem_cons.mpr ⟨by decide, hq⟩⟩
    have hjoined : (parametersOf (p ++ 0x3B :: q)).length ≤ maxParameters := by
      rwa [parametersOf_append, List.length_append]
    rw [append_parameters e hpq hjoined, append_parameters e hp (by omega),
      append_parameters _ hq (by omega), cutShort_withParser_ground, grouped_append]
    simp only [Pen.selectAll_append hend]
    rfl
  · intro body hbody
    obtain ⟨f, hf, happend⟩ := exists_repaints hbody
    refine ⟨?_, ⟨_, happend e⟩, fun hground => ⟨f e.screen.cursor.pen, ?_⟩⟩
    · rw [happend e, happend, cutShort_withParser_ground]
      show (Emulator.repaint f (e.cutShort.repaint f)).withParser .ground = _
      have hagain : Emulator.repaint f (e.cutShort.repaint f) = e.cutShort.repaint f :=
        congrArg (fun pen => e.cutShort.mapScreen (·.setPen pen)) (hf.again _)
      rw [hagain]
    · rw [happend e, cutShort_of_ground hground]
      exact withParser_eq_self hground

/-- An underline behind a whole color, `38;5;9` and `4`. -/
theorem renditions_compose_color :
    let e := initial 2 1 0
    let color := [0x33, 0x38, 0x3B, 0x35, 0x3B, 0x39]
    (∀ b ∈ color, isParameterByte b = true) ∧
      Pen.endsInColor (grouped (parametersOf color)) = false ∧
      e.append (rendition (color ++ 0x3B :: [0x34])) =
        (e.append (rendition color)).append (rendition [0x34]) ∧
      (e.append (rendition color)).append (rendition color) = e.append (rendition color) := by
  intro e color
  have hcolor : ∀ b ∈ color, isParameterByte b = true := List.all_eq_true.mp (by decide)
  have hbody : ∀ b ∈ color, isBodyByte b = true := List.all_eq_true.mp (by decide)
  have hline : ∀ b ∈ [0x34], isParameterByte b = true := List.all_eq_true.mp (by decide)
  have hend : Pen.endsInColor (grouped (parametersOf color)) = false := by decide +kernel
  exact ⟨hcolor, hend, (renditions_compose e).1 color [0x34] hcolor hline (by decide) hend,
    ((renditions_compose e).2 color hbody).1⟩

/-- Behind half of a color, `38;5`, a `4` is its index. -/
example :
    let e := initial 2 1 0
    let half := [0x33, 0x38, 0x3B, 0x35]
    Pen.endsInColor (grouped (parametersOf half)) = true ∧
      e.append (rendition (half ++ 0x3B :: [0x34])) ≠
        (e.append (rendition half)).append (rendition [0x34]) := by
  decide +kernel

end Emulator

end Teletype

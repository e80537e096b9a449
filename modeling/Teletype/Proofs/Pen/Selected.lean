import Teletype.Emulator.Rendition

/-!
# What selections make of a pen

Groups of parameters are gone through from the first to the last, but 38 and 48 take the
groups behind them for the parts of a color. A list that does not stop short inside such a
color (`endsInColor`) therefore leaves off where the next one may begin, and selections can
be made one after the other (`selectAll_append`).

What is selected does not depend on the pen: each attribute is left as it was or becomes the
same on every pen (`Repaints`, `Repaints.selectAll`). So making a selection again changes
nothing (`Repaints.again`).
-/

namespace Teletype.Pen

/-! ## Selections one after the other -/

/-- Whether the parameters behind a selector stop before its color is complete. -/
def isUnfinished : List UInt16 → Bool
  | [] => true
  | kind :: rest => if kind = 5 then rest.isEmpty else kind = 2 && rest.length < 3

/-- Whether groups stop inside a color that the groups behind a selector name. -/
def endsInColor : List ParameterGroup → Bool
  | [] => false
  | group :: rest =>
    if group.head = 38 || group.head = 48 then
      group.subs.isEmpty && isUnfinished (rest.map (·.head)) ||
        endsInColor (rest.drop (selectedColor group rest).2)
    else endsInColor rest
  termination_by groups => groups.length
  decreasing_by all_goals simp only [List.length_cons, List.length_drop]; omega

variable {pen : Pen} {group : ParameterGroup} {heads more : List UInt16}
  {rest xs ys : List ParameterGroup}

theorem semicolonColor_used_le (heads : List UInt16) :
    (semicolonColor heads).2 ≤ heads.length := by
  fun_cases semicolonColor heads <;> simp

theorem semicolonColor_append (h : isUnfinished heads = false) (more : List UInt16) :
    semicolonColor (heads ++ more) = semicolonColor heads := by
  cases heads with
  | nil => cases h
  | cons kind rest =>
    rw [isUnfinished] at h
    by_cases hindexed : kind = 5
    · rw [if_pos hindexed] at h
      cases rest with
      | nil => cases h
      | cons index tail => simp only [List.cons_append, semicolonColor, if_pos hindexed]
    · by_cases hdirect : kind = 2
      · have hlength : 3 ≤ rest.length := by simpa [hindexed, hdirect] using h
        rcases rest with _ | ⟨red, _ | ⟨green, _ | ⟨blue, tail⟩⟩⟩
        case cons.cons.cons =>
          simp only [List.cons_append, semicolonColor, if_neg hindexed, if_pos hdirect]
        all_goals exact absurd hlength (by simp)
      · simp only [List.cons_append, semicolonColor, if_neg hindexed, if_neg hdirect]

theorem selectedColor_used_le (group : ParameterGroup) (rest : List ParameterGroup) :
    (selectedColor group rest).2 ≤ rest.length := by
  unfold selectedColor
  split
  · have hused := semicolonColor_used_le (rest.map (·.head))
    rwa [List.length_map] at hused
  · exact Nat.zero_le _

/-- A color that is complete is named by nothing further behind. -/
theorem selectedColor_append
    (h : (group.subs.isEmpty && isUnfinished (rest.map (·.head))) = false)
    (more : List ParameterGroup) :
    selectedColor group (rest ++ more) = selectedColor group rest := by
  unfold selectedColor
  cases hsubs : group.subs.isEmpty with
  | false => rfl
  | true =>
    rw [hsubs, Bool.true_and] at h
    simp only [if_true, List.map_append]
    exact semicolonColor_append h _

/-- **Selections can be made one after the other**, where the first ones stop. -/
theorem selectAll_append (h : endsInColor xs = false) (pen : Pen) (ys : List ParameterGroup) :
    pen.selectAll (xs ++ ys) = (pen.selectAll xs).selectAll ys := by
  induction xs using endsInColor.induct generalizing pen with
  | case1 => rw [selectAll.eq_1 pen]; rfl
  | case2 group rest hselector ih =>
    rw [endsInColor, if_pos hselector, Bool.or_eq_false_iff] at h
    have hcolor := selectedColor_append h.1 ys
    have hdrop : (rest ++ ys).drop (selectedColor group rest).2 =
        rest.drop (selectedColor group rest).2 ++ ys :=
      List.drop_append_of_le_length (selectedColor_used_le group rest)
    rw [List.cons_append, selectAll, selectAll, hcolor]
    simp only [hdrop]
    rw [Bool.or_eq_true, decide_eq_true_eq, decide_eq_true_eq] at hselector
    split
    next => exact ih h.2 _
    next hfg =>
      rw [if_pos (hselector.resolve_left hfg), if_pos (hselector.resolve_left hfg)]
      exact ih h.2 _
  | case3 group rest hother ih =>
    rw [endsInColor, if_neg hother] at h
    rw [Bool.or_eq_true, decide_eq_true_eq, decide_eq_true_eq, not_or] at hother
    rw [List.cons_append, selectAll, if_neg hother.1, if_neg hother.2, selectAll,
      if_neg hother.1, if_neg hother.2]
    exact ih h _

/-! ## The same selection again -/

/-- What is read off a pen is left as it was, or becomes the same for all pens. -/
def Settles {α : Type} (read : Pen → α) (f : Pen → Pen) : Prop :=
  (∀ pen, read (f pen) = read pen) ∨ ∃ a, ∀ pen, read (f pen) = a

namespace Settles

variable {α : Type} {read : Pen → α} {f g : Pen → Pen}

theorem of_keeps (h : ∀ pen, read (f pen) = read pen) : Settles read f :=
  .inl h

theorem of_const {a : α} (h : ∀ pen, read (f pen) = a) : Settles read f :=
  .inr ⟨a, h⟩

theorem comp (hg : Settles read g) (hf : Settles read f) : Settles read fun pen => g (f pen) := by
  rcases hg with hg | ⟨a, hg⟩
  · rcases hf with hf | ⟨a, hf⟩
    · exact .of_keeps fun pen => (hg _).trans (hf pen)
    · exact .of_const fun pen => (hg _).trans (hf pen)
  · exact .of_const fun pen => hg _

/-- Doing it again changes nothing. -/
theorem again (h : Settles read f) (pen : Pen) : read (f (f pen)) = read (f pen) := by
  rcases h with h | ⟨a, h⟩
  · exact h _
  · exact (h _).trans (h pen).symm

end Settles

/-- The attributes of a style that are on or off. -/
def flags : List (Style → Bool) :=
  [(·.bold), (·.faint), (·.italic), (·.underline), (·.blink), (·.inverse), (·.hidden),
    (·.strikethrough)]

/-- A style is told by its attributes. -/
theorem style_eq {s t : Style} (h : ∀ flag ∈ flags, flag s = flag t) : s = t := by
  simp only [flags, List.forall_mem_cons] at h
  obtain ⟨h1, h2, h3, h4, h5, h6, h7, h8, -⟩ := h
  cases s
  cases t
  simp_all

/-- Every attribute is left as it was, or becomes the same on all pens. -/
structure Repaints (f : Pen → Pen) : Prop where
  fg : Settles Pen.fg f
  bg : Settles Pen.bg f
  style : ∀ flag ∈ flags, Settles (fun pen => flag pen.style) f

namespace Repaints

variable {f g : Pen → Pen}

theorem comp (hg : Repaints g) (hf : Repaints f) : Repaints fun pen => g (f pen) where
  fg := hg.fg.comp hf.fg
  bg := hg.bg.comp hf.bg
  style flag h := (hg.style flag h).comp (hf.style flag h)

/-- **What is repainted twice is repainted once.** -/
theorem again (h : Repaints f) (pen : Pen) : f (f pen) = f pen := by
  have hfg := h.fg.again pen
  have hbg := h.bg.again pen
  have hstyle : (f (f pen)).style = (f pen).style :=
    style_eq fun flag hflag => (h.style flag hflag).again pen
  calc f (f pen)
    _ = ⟨(f (f pen)).fg, (f (f pen)).bg, (f (f pen)).style⟩ := rfl
    _ = ⟨(f pen).fg, (f pen).bg, (f pen).style⟩ := by rw [hfg, hbg, hstyle]

theorem keep : Repaints id where
  fg := .of_keeps fun _ => rfl
  bg := .of_keeps fun _ => rfl
  style _ _ := .of_keeps fun _ => rfl

theorem clear : Repaints fun _ => {} where
  fg := .of_const fun _ => rfl
  bg := .of_const fun _ => rfl
  style _ _ := .of_const fun _ => rfl

/-- A new color, if there is one. -/
theorem setFg (color : Option Color) :
    Repaints fun pen => { pen with fg := color.getD pen.fg } where
  fg := by
    cases color with
    | none => exact .of_keeps fun _ => rfl
    | some color => exact .of_const fun _ => rfl
  bg := .of_keeps fun _ => rfl
  style _ _ := .of_keeps fun _ => rfl

theorem setBg (color : Option Color) :
    Repaints fun pen => { pen with bg := color.getD pen.bg } where
  fg := .of_keeps fun _ => rfl
  bg := by
    cases color with
    | none => exact .of_keeps fun _ => rfl
    | some color => exact .of_const fun _ => rfl
  style _ _ := .of_keeps fun _ => rfl

theorem mapStyle {f : Style → Style}
    (h : ∀ flag ∈ flags, (∀ s, flag (f s) = flag s) ∨ ∃ b, ∀ s, flag (f s) = b) :
    Repaints (·.mapStyle f) where
  fg := .of_keeps fun _ => rfl
  bg := .of_keeps fun _ => rfl
  style flag hflag := by
    rcases h flag hflag with h | ⟨b, h⟩
    · exact .of_keeps fun pen => h pen.style
    · exact .of_const fun pen => h pen.style

theorem select (n : Nat) : Repaints (·.select n) := by
  unfold Pen.select
  split
  case h_1 => exact clear
  case h_18 => exact setFg (some .unset)
  case h_19 => exact setBg (some .unset)
  case h_20 =>
    split
    · exact setFg (some _)
    split
    · exact setBg (some _)
    split
    · exact setFg (some _)
    split
    · exact setBg (some _)
    · exact keep
  all_goals exact mapStyle (by simp [flags])

/-- **A list of groups repaints the pen**, colors taken apart or not. -/
theorem selectAll (groups : List ParameterGroup) : Repaints (·.selectAll groups) := by
  induction groups using endsInColor.induct with
  | case1 => simp only [Pen.selectAll]; exact keep
  | case2 group rest hselector ih =>
    rw [Bool.or_eq_true, decide_eq_true_eq, decide_eq_true_eq] at hselector
    by_cases hfg : group.head = 38
    · simp only [Pen.selectAll, if_pos hfg]
      exact ih.comp (setFg _)
    · simp only [Pen.selectAll, if_neg hfg, if_pos (hselector.resolve_left hfg)]
      exact ih.comp (setBg _)
  | case3 group rest hother ih =>
    rw [Bool.or_eq_true, decide_eq_true_eq, decide_eq_true_eq, not_or] at hother
    simp only [Pen.selectAll, if_neg hother.1, if_neg hother.2]
    exact ih.comp (select _)

end Repaints

end Teletype.Pen

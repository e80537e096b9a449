import Teletype.Proofs.Emulator.Chunks
import Teletype.Proofs.Emulator.Run
import Teletype.Proofs.Screen.Covered

/-!
# To the alternate grid and back

A program that takes the whole screen asks for the alternate grid first and
gives it back at its end (`alternateOn`, `alternateOff`). Whatever it sends in
between, the primary grid, the scrollback and the saved cursor are found again
as they were, as long as it sends nothing that is meant to reach them
(`Action.reachesBehind`). The `ESC` that the request begins with cuts short what
was half read: of a character a replacement is printed, still on the primary
grid, and of everything else nothing is seen there.
-/

namespace Teletype

/-! ## What reaches behind the alternate grid -/

namespace Csi

/-- The soft reset, `CSI ! p`. -/
def isSoftReset (c : Csi) : Bool :=
  c.marker = none && c.intermediates = [0x21] && c.command = 'p'

/-- The erasure that forgets the scrollback, `CSI 3 J`. -/
def forgetsScrollback (c : Csi) : Bool :=
  c.marker = none && c.intermediates = [] && c.command = 'J' && c.param 0 0 = 3

/-- Whether a private mode is among those that the sequence resets. -/
def resetsPrivate (c : Csi) (mode : UInt16) : Bool :=
  c.marker = some 0x3F && c.command = 'l' && c.params.contains mode

end Csi

/-- Whether an action is meant to change what is behind the alternate grid, or to
show it. -/
def Action.reachesBehind : Action → Bool
  | .escape .fullReset => true
  | .csi c =>
    c.isSoftReset || c.forgetsScrollback || c.resetsPrivate 47 || c.resetsPrivate 1047 ||
      c.resetsPrivate 1049
  | _ => false

namespace Emulator

open Screen

/-- Whether none of the operations reaches behind the alternate grid. -/
def staysInFront (ops : List Operation) : Bool :=
  ops.all fun op => !op.reachesBehind

variable {e : Emulator} {s : Screen} {c : Csi}

theorem staysInFront_modeOperations (mode : Nat) (on : Bool) :
    staysInFront (modeOperations mode on) = true := by
  unfold modeOperations
  split <;> rfl

theorem staysInFront_setPrivate (mode : Nat) :
    staysInFront (privateModeOperations mode true) = true := by
  unfold privateModeOperations
  split <;> rfl

/-- Of the private modes only those of the alternate grid show the primary one
when they are reset. -/
theorem staysInFront_resetPrivate {mode : Nat} (h47 : mode ≠ 47) (h1047 : mode ≠ 1047)
    (h1049 : mode ≠ 1049) : staysInFront (privateModeOperations mode false) = true := by
  unfold privateModeOperations
  split <;> first | rfl | contradiction

/-- The sequences without a marker. One of them reaches behind: the erasure that
forgets the scrollback. -/
theorem staysInFront_plainOperations? (h : c.command = 'J' → c.param 0 0 ≠ 3) :
    (e.plainOperations? c).all staysInFront = true := by
  have herase : c.command = 'J' →
      staysInFront [.eraseInDisplay (c.param 0 0).toNat] = true := by
    intro hJ
    have hmode : (c.param 0 0).toNat ≠ 3 := fun h3 => h hJ (UInt16.toNat_inj.mp h3)
    simp [staysInFront, Operation.reachesBehind, hmode]
  unfold plainOperations?
  generalize c.command = command at herase
  dsimp only
  split
  all_goals first
    | rfl
    | exact herase rfl
    | exact all_map fun _ => rfl
    | exact all_bind fun _ => all_map fun _ => rfl
    | exact all_modesOperations fun mode _ => staysInFront_modeOperations _ _
    | exact all_clearTab rfl rfl _
    | exact all_repeat (fun _ _ => rfl) _

/-- A control sequence keeps to the grid in front, unless it says otherwise. -/
theorem staysInFront_csiOperations? {c : Csi} (h : (Action.csi c).reachesBehind = false) :
    (e.csiOperations? c).all staysInFront = true := by
  simp only [Action.reachesBehind, Bool.or_eq_false_iff] at h
  obtain ⟨⟨⟨⟨hsoft, hforget⟩, h47⟩, h1047⟩, h1049⟩ := h
  unfold csiOperations?
  cases hmarker : c.marker with
  | none =>
    dsimp only
    split
    · next hplain =>
      refine staysInFront_plainOperations? fun hJ h3 => ?_
      rw [Csi.forgetsScrollback, hmarker, List.isEmpty_iff.mp hplain, hJ, h3] at hforget
      cases hforget
    · show staysInFront (if _ then _ else _) = true
      split
      · next hp =>
        rw [Csi.isSoftReset, hmarker] at hsoft
        simp [hp] at hsoft
      · rfl
  | some marker =>
    dsimp only
    split
    · next hprivate =>
      rw [hprivate] at hmarker
      rw [Option.all_some]
      split
      · exact all_modesOperations fun mode _ => staysInFront_setPrivate _
      · next hl =>
        refine all_modesOperations fun mode hmem => ?_
        have hother : ∀ n : UInt16, c.resetsPrivate n = false → mode.toNat ≠ n.toNat := by
          intro n hn hmode
          obtain rfl := UInt16.toNat_inj.mp hmode
          simp [Csi.resetsPrivate, hmarker, hl, hmem] at hn
        exact staysInFront_resetPrivate (hother 47 h47) (hother 1047 h1047) (hother 1049 h1049)
      · rfl
    · rfl

/-- **What an action comes to stays in front of the primary grid**, unless the
action is meant to reach it. -/
theorem staysInFront_operations? {a : Action} (ha : a.reachesBehind = false) :
    (e.operations? a).all staysInFront = true := by
  cases a with
  | print c => rfl
  | execute byte =>
    show staysInFront (controlOperations byte) = true
    unfold controlOperations
    split <;> rfl
  | osc command => rfl
  | escape sequence =>
    cases sequence with
    | fullReset => cases ha
    | _ => rfl
  | csi c => exact staysInFront_csiOperations? ha

/-! ## Streams -/

/-- **What waits behind the alternate grid waits there whatever is carried out**,
unless it is meant to reach it. -/
theorem covers_applyAll (hwf : e.screen.WellFormed) (h : s.Covers e.screen) {actions : List Action}
    (hactions : ∀ a ∈ actions, a.reachesBehind = false) : s.Covers (e.applyAll actions).screen := by
  induction actions generalizing e with
  | nil => exact h
  | cons a rest ih =>
    obtain ⟨ha, hrest⟩ := List.forall_mem_cons.mp hactions
    obtain ⟨ops, hops, hscreen⟩ := exists_operations hwf a
    have hfront := staysInFront_operations? (e := e) ha
    rw [hops, Option.all_some, staysInFront, List.all_eq_true] at hfront
    refine ih (wellFormed_apply hwf a) ?_ hrest
    rw [hscreen]
    exact h.performAll fun op hop => by simpa using hfront op hop

theorem wellFormed_applyAll (h : e.screen.WellFormed) (actions : List Action) :
    (e.applyAll actions).screen.WellFormed :=
  (actAll?_eq h actions).2

theorem wellFormed_append (h : e.screen.WellFormed) (bytes : List UInt8) :
    (e.append bytes).screen.WellFormed := by
  rw [screen_append]
  exact wellFormed_applyAll h _

/-- Chunks without a full reset are as good as one. -/
theorem foldl_append_eq {chunks : List (List UInt8)}
    (h : Action.escape .fullReset ∉ (e.parser.feed chunks.flatten).2) :
    chunks.foldl append e = e.append chunks.flatten := by
  induction chunks generalizing e with
  | nil => rfl
  | cons chunk rest ih =>
    rw [List.flatten_cons, Parser.feed_append, List.mem_append, not_or] at h
    obtain ⟨hchunk, hrest⟩ := h
    have hparser : (e.append chunk).parser = (e.parser.feed chunk).1 := by
      rw [parser_append, settled, if_neg hchunk]
    rw [List.foldl_cons, List.flatten_cons, ← append_append_of_not_mem hchunk]
    refine ih ?_
    rw [hparser]
    exact hrest

/-! ## Requests -/

/-- The request for the alternate grid, `CSI ? 1049 h`, or the one that gives it
back, `CSI ? 1049 l`. -/
def alternateRequest (on : Bool) : List UInt8 :=
  [0x1B, 0x5B, 0x3F, 0x31, 0x30, 0x34, 0x39, if on then 0x68 else 0x6C]

/-- The sequence of a request. -/
def alternateSequence (on : Bool) : Csi :=
  { params := [1049], subparams := [false], marker := some 0x3F,
    final := if on then 0x68 else 0x6C }

/-- The screen once a character half read is replaced because an `ESC` cuts it
short. -/
def screenCutShort (e : Emulator) : Screen :=
  if e.parser.inCharacter then e.screen.print Text.replacement else e.screen

/-- A request is read whatever stood before it. -/
theorem feed_alternateRequest (p : Parser) (on : Bool) :
    p.feed (alternateRequest on) = (.ground, p.cutShort ++ [.csi (alternateSequence on)]) := by
  have hrest : Parser.csiEntry.feed [0x3F, 0x31, 0x30, 0x34, 0x39, if on then 0x68 else 0x6C] =
      (.ground, [.csi (alternateSequence on)]) := by
    cases on <;> decide +kernel
  show p.feed (introducer ++ _) = _
  rw [feed_introduced, hrest]

theorem screen_applyAll_cutShort (e : Emulator) :
    (e.applyAll e.parser.cutShort).screen = e.screenCutShort := by
  unfold screenCutShort
  rcases e.parser.cutShort_cases with ⟨hin, hcut⟩ | ⟨hout, hcut | ⟨command, hcut⟩⟩
  · rw [hcut, hin, if_pos rfl]
    simp only [applyAll, List.foldl_cons, List.foldl_nil, apply]
  · rw [hcut, hout]
    rfl
  · rw [hcut, hout]
    exact screen_command command

theorem screen_alternateRequest (e : Emulator) (on : Bool) :
    (e.append (alternateRequest on)).screen = setPrivateMode e.screenCutShort 1049 on := by
  rw [screen_append, feed_alternateRequest, applyAll_append, ← screen_applyAll_cutShort]
  cases on <;> rfl

theorem parser_alternateRequest (e : Emulator) (on : Bool) :
    (e.append (alternateRequest on)).parser = .ground := by
  rw [parser_append, feed_alternateRequest]
  exact ite_self _

theorem wellFormed_screenCutShort (h : e.screen.WellFormed) : e.screenCutShort.WellFormed := by
  unfold screenCutShort
  split
  · exact h.print _
  · exact h

theorem onAlternate_screenCutShort (e : Emulator) :
    e.screenCutShort.onAlternate = e.screen.onAlternate := by
  unfold screenCutShort
  split
  · exact onAlternate_print _ _
  · rfl

theorem covers_screenCutShort (h : s.Covers e.screen) : s.Covers e.screenCutShort := by
  unfold screenCutShort
  split
  · exact h.print _
  · exact h

/-- **The alternate grid hides the primary one and changes nothing of it.** From
any screen that a run reaches with the primary grid on display, with the
alternate grid asked for and given back, and in between any chunks in which
nothing is meant to reach behind it: the primary grid and the scrollback are
those of before, and so are the column and the row of the cursor, its pen, the
origin mode and the autowrap. Before is when the `ESC` of the request has come, so
that a character it cuts short is already replaced; where there is none, it is
the screen as the run left it. -/
theorem alternate_restores_primary (cols rows capacity : Nat) (inputs : List Input)
    (chunks : List (List UInt8)) :
    let reached := (initial cols rows capacity).takeAll inputs
    let before := reached.screenCutShort
    let during := chunks.foldl append (reached.append (alternateRequest true))
    let after := (during.append (alternateRequest false)).screen
    reached.screen.onAlternate = false →
    (∀ a ∈ (Parser.ground.feed chunks.flatten).2, a.reachesBehind = false) →
      (reached.parser.inCharacter = false → before = reached.screen) ∧
      after.onAlternate = false ∧ after.primary = before.primary ∧
      after.scrollback = before.scrollback ∧
      after.cursor.col = before.cursor.col ∧ after.cursor.row = before.cursor.row ∧
      after.cursor.pen = before.cursor.pen ∧
      after.cursor.originMode = before.cursor.originMode ∧
      after.cursor.autowrap = before.cursor.autowrap := by
  intro reached before during after hprimary hstream
  have hreached : reached.screen.WellFormed :=
    (takeAll?_eq (wellFormed_initial cols rows capacity) inputs).2
  have hbefore : before.WellFormed := wellFormed_screenCutShort hreached
  have hshown : before.onAlternate = false := (onAlternate_screenCutShort reached).trans hprimary
  -- what is shown on the alternate grid has the primary one behind it
  have hentered : { before with savedPrimary := before.cursor.save }.Covers
      (reached.append (alternateRequest true)).screen := by
    rw [screen_alternateRequest]
    exact covers_goAlternate hshown
  have hduring : { before with savedPrimary := before.cursor.save }.Covers during.screen := by
    have hparser := parser_alternateRequest reached true
    have hwhole : during = (reached.append (alternateRequest true)).append chunks.flatten := by
      refine foldl_append_eq fun hreset => ?_
      rw [hparser] at hreset
      cases hstream _ hreset
    rw [hwhole, screen_append, hparser]
    exact covers_applyAll (wellFormed_append hreached _) hentered hstream
  have hafter : after = (during.screenCutShort.exitAlternate false).restoreCursor :=
    screen_alternateRequest during false
  obtain ⟨halternate, hgrid, hscrollback, hcursor⟩ :=
    (covers_screenCutShort hduring).leaveAlternate_eq
  rw [hafter, halternate, hgrid, hscrollback, hcursor, restore_save hbefore]
  exact ⟨fun hout => if_neg (by rw [hout]; decide), rfl, rfl, rfl, rfl, rfl, rfl, rfl, rfl⟩

/-- A cursor saved, a letter, the alternate grid asked for again in two pieces, two
line feeds, and everything erased. -/
theorem alternate_restores_primary_nested :
    let reached := (initial 5 2 3).takeAll [.append [0x61, 0x62, 0x0D, 0x0A, 0x63]]
    let chunks : List (List UInt8) := [[0x1B, 0x37, 0x58, 0x1B, 0x5B, 0x3F, 0x31],
      [0x30, 0x34, 0x39, 0x68, 0x0A, 0x0A, 0x1B, 0x5B, 0x32, 0x4A]]
    let during := chunks.foldl append (reached.append (alternateRequest true))
    let after := (during.append (alternateRequest false)).screen
    reached.screen.onAlternate = false ∧
      (∀ a ∈ (Parser.ground.feed chunks.flatten).2, a.reachesBehind = false) ∧
      reached.parser.inCharacter = false ∧ after.primary = reached.screen.primary ∧
      after.scrollback = reached.screen.scrollback ∧
      after.cursor.col = reached.screen.cursor.col ∧
      after.cursor.row = reached.screen.cursor.row ∧
      after.cursor.pen = reached.screen.cursor.pen ∧
      after.cursor.originMode = reached.screen.cursor.originMode ∧
      after.cursor.autowrap = reached.screen.cursor.autowrap := by
  intro reached chunks during after
  have hprimary : reached.screen.onAlternate = false := by decide +kernel
  have hstream : ∀ a ∈ (Parser.ground.feed chunks.flatten).2, a.reachesBehind = false := by
    decide +kernel
  have hout : reached.parser.inCharacter = false := by decide +kernel
  obtain ⟨hbefore, -, hrest⟩ := alternate_restores_primary 5 2 3 _ chunks hprimary hstream
  have hscreen : reached.screenCutShort = reached.screen := hbefore hout
  rw [hscreen] at hrest
  exact ⟨hprimary, hstream, hout, hrest⟩

/-- Half a character, and then to the alternate grid and back at once: the
replacement is found on the primary grid. -/
theorem cut_character_shows_behind :
    let reached := (initial 2 1 0).takeAll [.append [0xE4]]
    let during := reached.append (alternateRequest true)
    reached.screen.onAlternate = false ∧ (Parser.ground.feed []).2 = [] ∧
      (during.append (alternateRequest false)).screen.primary ≠ reached.screen.primary := by
  decide +kernel

end Emulator

end Teletype

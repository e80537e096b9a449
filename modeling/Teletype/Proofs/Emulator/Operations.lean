import Teletype.Emulator
import Teletype.Proofs.Screen.Checked

/-!
# What an emulator does to its screen

An action comes to a list of operations on the screen. Counts that a sequence
gives from 1 are turned into positions by checked differences, so having a list
at all means that none of them was 0 (`exists_operations`).
-/

namespace Teletype.Emulator

open Access Screen

/-! ## The operations of an action -/

/-- A control character. -/
def controlOperations (byte : UInt8) : List Operation :=
  match byte.toNat with
  | 0x08 => [.backward 1]
  | 0x09 => [.tabForward 1]
  | 0x0A | 0x0B | 0x0C => [.linefeed]
  | 0x0D => [.carriageReturn]
  | _ => []

/-- A short sequence. -/
def shortOperations : Escape → List Operation
  | .saveCursor => [.saveCursor]
  | .restoreCursor => [.restoreCursor]
  | .index => [.index]
  | .reverseIndex => [.reverseIndex]
  | .nextLine => [.nextLine]
  | .setTab => [.setTab]
  | .fullReset => [.reset]
  | .applicationKeypad => [.setFlag .applicationKeypad true]
  | .normalKeypad => [.setFlag .applicationKeypad false]
  | .alignmentTest => [.alignmentTest]
  | .designateCharset .. | .stringTerminator | .unknown _ => []

/-- A mode. -/
def modeOperations (mode : Nat) (on : Bool) : List Operation :=
  match mode with
  | 4 => [.setFlag .insertMode on]
  | 20 => [.setFlag .linefeedMode on]
  | _ => []

/-- A private mode. -/
def privateModeOperations (mode : Nat) (on : Bool) : List Operation :=
  match mode with
  | 1 => [.setFlag .applicationCursor on]
  | 5 => [.setFlag .reverseVideo on]
  | 6 => [.setFlag .originMode on, .moveTo 0 0]
  | 7 => [.setFlag .autowrap on]
  | 25 => [.setFlag .visible on]
  | 47 => [if on then .enterAlternate false else .exitAlternate false]
  | 66 => [.setFlag .applicationKeypad on]
  | 1047 => [if on then .enterAlternate false else .exitAlternate true]
  | 1048 => [if on then .saveCursor else .restoreCursor]
  | 1049 =>
    if on then [.saveCursor, .enterAlternate true] else [.exitAlternate false, .restoreCursor]
  | 2004 => [.setFlag .bracketedPaste on]
  | _ => []

/-- The modes of a sequence in turn. -/
def modesOperations (operations : Nat → Bool → List Operation) (c : Csi) (on : Bool) :
    List Operation :=
  c.params.flatMap fun mode => operations mode.toNat on

/-- A sequence without a marker and without intermediates. -/
def plainOperations? (e : Emulator) (c : Csi) : Option (List Operation) :=
  let count := (c.paramOr 0 1).toNat
  let mode := (c.param 0 0).toNat
  let second := (c.paramOr 1 1).toNat
  let s := e.screen
  match c.command with
  | 'A' => some [.up count]
  | 'B' | 'e' => some [.down count]
  | 'C' | 'a' => some [.forward count]
  | 'D' => some [.backward count]
  | 'E' => some [.down count, .carriageReturn]
  | 'F' => some [.up count, .carriageReturn]
  | 'G' | '\x60' => (sub? count 1).map fun col => [.moveToCol col]
  | 'H' | 'f' =>
    (sub? count 1).bind fun row => (sub? second 1).map fun col => [.moveTo row col]
  | 'd' => (sub? count 1).map fun row => [.moveToRow row]
  | 'I' => some [.tabForward count]
  | 'Z' => some [.tabBackward count]
  | 'J' => some [.eraseInDisplay mode]
  | 'K' => some [.eraseInLine mode]
  | 'X' => some [.eraseChars count]
  | 'L' => some [.insertLines count]
  | 'M' => some [.deleteLines count]
  | '@' => some [.insertChars count]
  | 'P' => some [.deleteChars count]
  | 'S' => some [.scrollUp count]
  | 'T' => some [.scrollDown count]
  | 'r' =>
    let bottom := if c.param 1 0 = 0 then s.rows else (c.param 1 0).toNat
    (sub? count 1).bind fun top => (sub? bottom 1).map fun last => [.setMargins top last]
  | 'm' => some [.setPen (s.cursor.pen.rendered c)]
  | 'g' => some (if mode = 0 then [.clearTab] else if mode = 3 then [.clearTabs] else [])
  | 's' => some [.saveCursor]
  | 'u' => some [.restoreCursor]
  | 'h' => some (modesOperations modeOperations c true)
  | 'l' => some (modesOperations modeOperations c false)
  | 'n' | 'c' => some []
  | 'b' =>
    some (match e.lastPrinted with
      | some c => List.replicate (min count (s.cols * s.rows)) (.print c)
      | none => [])
  | _ => some []

/-- A parameterised sequence. -/
def csiOperations? (e : Emulator) (c : Csi) : Option (List Operation) :=
  match c.marker with
  | some marker =>
    if marker = 0x3F then
      some (match c.command with
        | 'h' => modesOperations privateModeOperations c true
        | 'l' => modesOperations privateModeOperations c false
        | _ => [])
    else some []
  | none =>
    if c.intermediates.isEmpty then e.plainOperations? c
    else some (if c.intermediates = [0x21] && c.command = 'p' then [.softReset] else [])

/-- An action. -/
def operations? (e : Emulator) : Action → Option (List Operation)
  | .print c => some [.print c]
  | .execute byte => some (controlOperations byte)
  | .csi sequence => e.csiOperations? sequence
  | .escape sequence => some (shortOperations sequence)
  | .osc _ => some []

/-! ## What all of them have

A property of all operations of a sequence, part by part. -/

section All

variable {P : Operation → Bool} {Q : List Operation → Bool} {c : Csi} {n : Option Nat}

theorem all_modesOperations {operations : Nat → Bool → List Operation} {on : Bool}
    (h : ∀ mode ∈ c.params, (operations mode.toNat on).all P = true) :
    (modesOperations operations c on).all P = true := by
  rw [modesOperations, List.all_flatMap, List.all_eq_true]
  exact h

theorem all_clearTab (hone : P .clearTab = true) (hall : P .clearTabs = true) (mode : Nat) :
    (if mode = 0 then [.clearTab] else if mode = 3 then [.clearTabs] else []).all P = true := by
  split
  · rw [List.all_cons, hone]
    rfl
  · split
    · rw [List.all_cons, hall]
      rfl
    · rfl

theorem all_repeat {last : Option Char} (h : ∀ c ∈ last, P (.print c) = true) (count : Nat) :
    (match last with
      | some c => List.replicate count (Operation.print c)
      | none => []).all P = true := by
  cases last with
  | none => rfl
  | some c =>
    rw [List.all_eq_true]
    intro op hop
    rw [List.eq_of_mem_replicate hop]
    exact h c rfl

theorem all_map {f : Nat → List Operation} (h : ∀ i, Q (f i) = true) :
    (n.map f).all Q = true := by
  cases n with
  | none => rfl
  | some i => exact h i

theorem all_bind {f : Nat → Option (List Operation)} (h : ∀ i, (f i).all Q = true) :
    (n.bind f).all Q = true := by
  cases n with
  | none => rfl
  | some i => exact h i

end All

/-! ## What they come to -/

variable {e : Emulator}

theorem screen_reset : e.reset.screen = e.screen.reset := by
  unfold reset
  dsimp only
  split <;> rfl

theorem screen_control (byte : UInt8) :
    (e.control byte).screen = e.screen.performAll (controlOperations byte) := by
  unfold control controlOperations
  generalize byte.toNat = n
  split <;> first | rfl | (split <;> first | rfl | contradiction)

theorem screen_short (sequence : Escape) :
    (e.short sequence).screen = e.screen.performAll (shortOperations sequence) := by
  cases sequence with
  | fullReset => exact screen_reset
  | _ => rfl

theorem setMode_eq (s : Screen) (mode : Nat) (on : Bool) :
    setMode s mode on = s.performAll (modeOperations mode on) := by
  unfold setMode
  split
  case h_3 => simp [modeOperations, *]
  all_goals rfl

theorem setPrivateMode_eq (s : Screen) (mode : Nat) (on : Bool) :
    setPrivateMode s mode on = s.performAll (privateModeOperations mode on) := by
  unfold setPrivateMode
  split
  case h_12 => simp [privateModeOperations, *]
  all_goals first | rfl | (cases on <;> rfl)

theorem setModes_eq {set : Screen → Nat → Bool → Screen} {operations : Nat → Bool → List Operation}
    (h : ∀ s mode on, set s mode on = s.performAll (operations mode on)) (c : Csi) (on : Bool)
    (s : Screen) : setModes set c on s = s.performAll (modesOperations operations c on) := by
  unfold setModes modesOperations
  generalize c.params = params
  induction params generalizing s with
  | nil => rfl
  | cons mode rest ih =>
    rw [List.foldl_cons, List.flatMap_cons, performAll_append, h]
    exact ih _

theorem one_le_paramOr (c : Csi) (index : Nat) : 1 ≤ (c.paramOr index 1).toNat := by
  unfold Csi.paramOr
  split
  · decide
  · next hzero =>
    refine Nat.one_le_iff_ne_zero.mpr fun h => hzero ?_
    exact UInt16.toNat_inj.mp h

theorem one_le_bottom (c : Csi) {s : Screen} (h : 0 < s.rows) :
    1 ≤ if c.param 1 0 = 0 then s.rows else (c.param 1 0).toNat := by
  split
  · exact h
  · next hzero =>
    refine Nat.one_le_iff_ne_zero.mpr fun h => hzero ?_
    exact UInt16.toNat_inj.mp h

theorem screen_report (question : Nat) : (e.report question).screen = e.screen := by
  unfold report
  split <;> rfl

theorem screen_repeatLast (count : Nat) :
    (e.repeatLast count).screen = e.screen.performAll (match e.lastPrinted with
      | some c => List.replicate (min count (e.screen.cols * e.screen.rows)) (.print c)
      | none => []) := by
  unfold repeatLast
  cases e.lastPrinted with
  | none => rfl
  | some c =>
    show printAll _ _ = _
    rw [printAll_eq_performAll, List.map_replicate]

theorem screen_attributes (mode : Nat) :
    (if mode = 0 then e.reply primaryAttributes else e).screen = e.screen := by
  split <;> rfl

theorem screen_clearTab (mode : Nat) :
    (if mode = 0 then e.mapScreen clearTab
      else if mode = 3 then e.mapScreen clearTabs else e).screen =
      e.screen.performAll (if mode = 0 then [.clearTab] else if mode = 3 then [.clearTabs] else [])
    := by
  split
  · rfl
  · split <;> rfl

/-- The sequences without a marker. Each of them is one case of the same two
matches, so the cases are closed alike. -/
theorem exists_plainOperations (h : e.screen.WellFormed) (c : Csi) :
    ∃ ops, e.plainOperations? c = some ops ∧ (e.plainCsi c).screen = e.screen.performAll ops := by
  have hcount := sub?_eq (one_le_paramOr c 0)
  have hsecond := sub?_eq (one_le_paramOr c 1)
  have hbottom := sub?_eq (one_le_bottom c h.rows_pos)
  unfold plainOperations? plainCsi
  generalize c.command = command
  dsimp only
  rw [hcount, hsecond, hbottom]
  split
  -- a sequence that is not known does nothing
  case h_35 => exact ⟨_, rfl, by simp [*]⟩
  all_goals first
    | exact ⟨_, rfl, rfl⟩
    | exact ⟨_, rfl, screen_clearTab _⟩
    | exact ⟨_, rfl, setModes_eq setMode_eq c _ _⟩
    | exact ⟨_, rfl, screen_report _⟩
    | exact ⟨_, rfl, screen_attributes _⟩
    | exact ⟨_, rfl, screen_repeatLast _⟩

theorem exists_csiOperations (h : e.screen.WellFormed) (c : Csi) :
    ∃ ops, e.csiOperations? c = some ops ∧ (e.csi c).screen = e.screen.performAll ops := by
  unfold csiOperations? csi
  cases c.marker with
  | some marker =>
    dsimp only
    split
    · refine ⟨_, rfl, ?_⟩
      unfold privateCsi
      generalize c.command = command
      split
      · exact setModes_eq setPrivateMode_eq c _ _
      · exact setModes_eq setPrivateMode_eq c _ _
      · simp [*]
    · refine ⟨_, rfl, ?_⟩
      split <;> rfl
  | none =>
    dsimp only
    split
    · exact exists_plainOperations h c
    · refine ⟨_, rfl, ?_⟩
      split <;> rfl

theorem exists_plainCsi_eq (e : Emulator) (c : Csi) : ∃ screen replies,
    e.plainCsi c = { e with screen, replies } := by
  unfold plainCsi
  generalize c.command = command
  dsimp only
  split
  all_goals first
    | exact ⟨_, _, rfl⟩
    | (unfold report; split <;> exact ⟨_, _, rfl⟩)
    | (unfold repeatLast; split <;> exact ⟨_, _, rfl⟩)
    | (split <;> first | exact ⟨_, _, rfl⟩ | (split <;> exact ⟨_, _, rfl⟩))

/-- A parameterised sequence changes the screen and what is replied, and nothing else. -/
theorem exists_csi_eq (e : Emulator) (c : Csi) : ∃ screen replies,
    e.csi c = { e with screen, replies } := by
  unfold csi
  split
  · split
    · unfold privateCsi
      split <;> exact ⟨_, _, rfl⟩
    · split <;> exact ⟨_, _, rfl⟩
  · split
    · exact e.exists_plainCsi_eq c
    · split <;> exact ⟨_, _, rfl⟩

/-- A command changes the title, the palette and what the host is told, and nothing
else. -/
theorem exists_command_eq (e : Emulator) (command : Osc) : ∃ title palette events,
    e.command command = { e with title, palette, events } := by
  cases command with
  | setTitle title =>
    simp only [Emulator.command, setTitle]
    split <;> exact ⟨_, _, _, rfl⟩
  | setColor entries =>
    simp only [Emulator.command]
    split <;> exact ⟨_, _, _, rfl⟩
  | setDynamicColor which spec =>
    simp only [Emulator.command]
    split <;> exact ⟨_, _, _, rfl⟩
  | clipboard selection data =>
    simp only [Emulator.command]
    split <;> exact ⟨_, _, _, rfl⟩
  | _ => exact ⟨_, _, _, rfl⟩

theorem screen_command (command : Osc) : (e.command command).screen = e.screen := by
  obtain ⟨title, palette, events, heq⟩ := e.exists_command_eq command
  rw [heq]

/-- **On a well-formed screen an action comes to a list of operations**, and what
it does to the screen is what they do. -/
theorem exists_operations (h : e.screen.WellFormed) (a : Action) :
    ∃ ops, e.operations? a = some ops ∧ (e.apply a).screen = e.screen.performAll ops := by
  cases a with
  | print c => exact ⟨_, rfl, rfl⟩
  | execute byte => exact ⟨_, rfl, screen_control byte⟩
  | csi sequence => exact exists_csiOperations h sequence
  | escape sequence => exact ⟨_, rfl, screen_short sequence⟩
  | osc command => exact ⟨_, rfl, screen_command command⟩

end Teletype.Emulator

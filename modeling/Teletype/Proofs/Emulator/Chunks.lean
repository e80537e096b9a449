import Teletype.Emulator

/-!
# Streams cut into chunks

The parser alone may be fed a stream in pieces cut anywhere. An emulator may
not: a full reset among the actions of a chunk sends the parser back to the
ground when all of the chunk was read, so what the chunk leaves half read is
lost. That is the only way in which the pieces count, and with a reset in the
first piece there is always a second one that shows it.
-/

namespace Teletype

namespace Parser

/-! ## Cut short -/

/-- Whether a character is half read. -/
def inCharacter : Parser → Bool
  | .character .. => true
  | _ => false

/-- What comes of something half read when `ESC` cuts it short. -/
def cutShort (p : Parser) : List Action :=
  (p.step 0x1B).2

/-- Wherever it comes, `ESC` begins a sequence. -/
theorem exists_step_escape (p : Parser) : ∃ ends, p.step 0x1B = (.escape ends, p.cutShort) := by
  cases p with
  | command | skippedString => exact ⟨true, rfl⟩
  | _ => exact ⟨false, rfl⟩

/-- A character cut short is replaced. Of everything else a command is all that
may still be carried out. -/
theorem cutShort_cases (p : Parser) :
    (p.inCharacter = true ∧ p.cutShort = [.print Text.replacement]) ∨
      (p.inCharacter = false ∧ (p.cutShort = [] ∨ ∃ command, p.cutShort = [.osc command])) := by
  cases p with
  | character => exact .inl ⟨rfl, rfl⟩
  | command payload overlong =>
    refine .inr ⟨rfl, ?_⟩
    show closeCommand payload overlong = [] ∨ ∃ command, closeCommand payload overlong = _
    unfold closeCommand
    split
    · exact .inl rfl
    · split
      · exact .inr ⟨_, rfl⟩
      · exact .inl rfl
  | _ => exact .inr ⟨rfl, .inl rfl⟩

end Parser

namespace Emulator

/-- Nothing that can be seen of two emulators differs, now or later. -/
structure Agrees (e f : Emulator) : Prop where
  screen : e.screen = f.screen
  palette : e.palette = f.palette
  title : e.title = f.title
  events : e.events = f.events
  replies : e.replies = f.replies
  lastPrinted : e.lastPrinted = f.lastPrinted
  /-- Whatever comes next is read alike. -/
  parser : ∀ bytes, (e.parser.feed bytes).2 = (f.parser.feed bytes).2

theorem Agrees.rfl {e : Emulator} : e.Agrees e :=
  ⟨.refl _, .refl _, .refl _, .refl _, .refl _, .refl _, fun _ => .refl _⟩

/-! ## Actions and the parser -/

/-- The emulator with another parser. -/
def withParser (p : Parser) (e : Emulator) : Emulator :=
  { e with parser := p }

variable {e : Emulator} {p q : Parser}

theorem withParser_ite {P : Prop} [Decidable P] (f : Emulator) :
    (if P then e else f).withParser p = if P then e.withParser p else f.withParser p :=
  apply_ite (withParser p) P e f

theorem report_withParser (question : Nat) :
    (e.withParser p).report question = (e.report question).withParser p := by
  unfold report
  split <;> rfl

theorem repeatLast_withParser (count : Nat) :
    (e.withParser p).repeatLast count = (e.repeatLast count).withParser p := by
  obtain ⟨_, _, _, _, _, _, lastPrinted⟩ := e
  cases lastPrinted <;> rfl

theorem plainCsi_withParser (c : Csi) :
    (e.withParser p).plainCsi c = (e.plainCsi c).withParser p := by
  unfold plainCsi
  generalize c.command = command
  dsimp only
  -- most sequences act on the screen alone; what the others do has lemmas above
  split
  all_goals first
    | rfl
    | exact report_withParser _
    | exact repeatLast_withParser _
    | (rw [withParser_ite]; rfl)
    | (rw [withParser_ite, withParser_ite]; rfl)

theorem csi_withParser (c : Csi) : (e.withParser p).csi c = (e.csi c).withParser p := by
  unfold csi
  split
  · split
    · unfold privateCsi
      split <;> rfl
    · split <;> rfl
  · split
    · exact plainCsi_withParser c
    · split <;> rfl

theorem control_withParser (byte : UInt8) :
    (e.withParser p).control byte = (e.control byte).withParser p := by
  unfold control
  split <;> rfl

theorem command_withParser (command : Osc) :
    (e.withParser p).command command = (e.command command).withParser p := by
  cases command with
  | setTitle title =>
    show (e.withParser p).setTitle title = (e.setTitle title).withParser p
    unfold setTitle
    rw [withParser_ite]
    rfl
  | setColor entries =>
    show (if _ then _ else _) = (if _ then _ else _ : Emulator).withParser p
    rw [withParser_ite]
    rfl
  | setDynamicColor which spec =>
    simp only [Emulator.command]
    split <;> rfl
  | clipboard selection data =>
    simp only [Emulator.command]
    split <;> rfl
  | _ => rfl

/-- A full reset is the only action that asks for the parser. -/
theorem reset_withParser : (e.withParser p).reset = e.reset := rfl

theorem parser_reset : e.reset.parser = .ground := by
  unfold reset
  dsimp only
  split <;> rfl

theorem withParser_eq_self (h : e.parser = p) : e.withParser p = e := by
  rw [withParser, ← h]

/-- Where actions leave a parser that stood at `p`. -/
def settled (actions : List Action) (p : Parser) : Parser :=
  if .escape .fullReset ∈ actions then .ground else p

theorem apply_withParser (a : Action) :
    (e.withParser p).apply a = (e.apply a).withParser (settled [a] p) := by
  cases a with
  | print c => rfl
  | execute byte => exact control_withParser byte
  | csi sequence => exact csi_withParser sequence
  | escape sequence =>
    cases sequence with
    | fullReset => exact reset_withParser.trans (withParser_eq_self parser_reset).symm
    | _ => rfl
  | osc command => exact command_withParser command

theorem settled_cons (a : Action) (rest : List Action) (p : Parser) :
    settled (a :: rest) p = settled rest (settled [a] p) := by
  by_cases ha : Action.escape .fullReset = a
  · simp [settled, ha]
  · simp [settled, ha]

/-- **What actions do does not depend on the parser**, and where they leave it
depends on whether there is a full reset among them. -/
theorem applyAll_withParser (actions : List Action) :
    (e.withParser p).applyAll actions = (e.applyAll actions).withParser (settled actions p) := by
  induction actions generalizing e p with
  | nil => rfl
  | cons a rest ih =>
    show ((e.withParser p).apply a).applyAll rest = ((e.apply a).applyAll rest).withParser _
    rw [apply_withParser, ih, ← settled_cons]

/-- A chunk is its actions carried out, and then the parser. -/
theorem append_eq (e : Emulator) (bytes : List UInt8) :
    e.append bytes =
      (e.applyAll (e.parser.feed bytes).2).withParser
        (settled (e.parser.feed bytes).2 (e.parser.feed bytes).1) :=
  applyAll_withParser _

theorem parser_append (e : Emulator) (bytes : List UInt8) :
    (e.append bytes).parser = settled (e.parser.feed bytes).2 (e.parser.feed bytes).1 := by
  rw [append_eq]
  rfl

theorem screen_append (e : Emulator) (bytes : List UInt8) :
    (e.append bytes).screen = (e.applyAll (e.parser.feed bytes).2).screen := by
  rw [append_eq]
  rfl

/-! ## Pieces without a reset -/

/-- A stream cut behind a piece without a full reset comes to the same. -/
theorem append_append_of_not_mem {a : List UInt8}
    (h : Action.escape .fullReset ∉ (e.parser.feed a).2) (b : List UInt8) :
    (e.append a).append b = e.append (a ++ b) := by
  have hparser : settled (e.parser.feed a).2 (e.parser.feed a).1 = (e.parser.feed a).1 := if_neg h
  rw [append_eq e (a ++ b), Parser.feed_append, applyAll_append, append_eq (e.append a),
    parser_append, hparser, append_eq e a, applyAll_withParser]
  generalize (e.parser.feed a).2 = as at h
  generalize (e.parser.feed a).1 = p
  have hmem : settled (as ++ (p.feed b).2) (p.feed b).1 = settled (p.feed b).2 (p.feed b).1 := by
    unfold settled
    by_cases hb : Action.escape .fullReset ∈ (p.feed b).2
    · rw [if_pos hb, if_pos (List.mem_append_right _ hb)]
    · rw [if_neg hb, if_neg fun hm => (List.mem_append.mp hm).elim h hb]
  rw [hmem]
  rfl

/-! ## A reset in the first piece -/

/-- The beginning of a control sequence, `ESC [`. -/
def introducer : List UInt8 := [0x1B, 0x5B]

/-- Whatever stood before it, behind an introducer a control sequence is being
read. -/
theorem feed_introduced (p : Parser) (rest : List UInt8) :
    p.feed (introducer ++ rest) =
      ((Parser.csiEntry.feed rest).1, p.cutShort ++ (Parser.csiEntry.feed rest).2) := by
  obtain ⟨ends, hstep⟩ := p.exists_step_escape
  have hentry : (Parser.escape ends).step 0x5B = (.csiEntry, []) := by
    cases ends <;> rfl
  rw [introducer, List.cons_append, List.singleton_append, Parser.feed_cons, Parser.feed_cons,
    hstep, hentry]
  rfl

theorem feed_introducer (p : Parser) :
    (p.feed introducer).1 = .csiEntry ∧ Action.escape .fullReset ∉ (p.feed introducer).2 := by
  have hread : p.feed introducer = (.csiEntry, p.cutShort ++ []) := feed_introduced p []
  rw [hread, List.append_nil]
  refine ⟨rfl, fun hreset => ?_⟩
  rcases p.cutShort_cases with ⟨-, hcut⟩ | ⟨-, hcut | ⟨command, hcut⟩⟩ <;>
    simp [hcut] at hreset

theorem not_agrees_ground_csiEntry :
    ¬ ∀ bytes, (Parser.csiEntry.feed bytes).2 = (Parser.ground.feed bytes).2 := by
  intro h
  have hm := h [0x6D]
  revert hm
  decide

/-- **A stream may be cut behind a piece, whatever follows, exactly if there is
no full reset in the piece.** -/
theorem append_append_agrees_iff (e : Emulator) (a : List UInt8) :
    (∀ b, ((e.append a).append b).Agrees (e.append (a ++ b))) ↔
      Action.escape .fullReset ∉ (e.parser.feed a).2 := by
  constructor
  · intro hagrees hreset
    -- cut behind the reset, an introducer is still half read; in one piece it is lost
    have hparser := (hagrees introducer).parser
    obtain ⟨hto, hmem⟩ := feed_introducer (e.append a).parser
    have hcut : ((e.append a).append introducer).parser = .csiEntry := by
      rw [parser_append, settled, if_neg hmem, hto]
    have hwhole : (e.append (a ++ introducer)).parser = .ground := by
      rw [parser_append, Parser.feed_append, settled, if_pos (List.mem_append_left _ hreset)]
    rw [hcut, hwhole] at hparser
    exact not_agrees_ground_csiEntry hparser
  · intro h b
    rw [append_append_of_not_mem h]
    exact .rfl

theorem lastPrinted_append (e : Emulator) (bytes : List UInt8) :
    (e.append bytes).lastPrinted = (e.applyAll (e.parser.feed bytes).2).lastPrinted := by
  rw [append_eq]
  rfl

theorem lastPrinted_reset : e.reset.lastPrinted = none := by
  unfold reset
  dsimp only
  split <;> rfl

/-- `ESC c ESC [ 5` and then `n`: in two pieces the question is not answered, and
its last byte is printed. -/
theorem reset_loses_half_read :
    ¬ (((initial 4 1 0).append [0x1B, 0x63, 0x1B, 0x5B, 0x35]).append [0x6E]).Agrees
      ((initial 4 1 0).append ([0x1B, 0x63, 0x1B, 0x5B, 0x35] ++ [0x6E])) := by
  intro h
  have hpiece : (Parser.ground.feed [0x1B, 0x63, 0x1B, 0x5B, 0x35]).2 = [.escape .fullReset] := by
    decide
  have hwhole : (Parser.ground.feed ([0x1B, 0x63, 0x1B, 0x5B, 0x35] ++ [0x6E])).2 =
      [.escape .fullReset, .csi { params := [5], subparams := [false], final := 0x6E }] := by
    decide
  have hcsi : ∀ e : Emulator,
      (e.csi { params := [5], subparams := [false], final := 0x6E }).lastPrinted =
        e.lastPrinted := fun _ => Eq.refl _
  have hground : (initial 4 1 0).parser = .ground := Eq.refl _
  have hrest : (Parser.ground.feed [0x6E]).2 = [.print 'n'] := by decide
  have hprint : ∀ e : Emulator, (e.applyAll [.print 'n']).lastPrinted = some 'n' :=
    fun _ => Eq.refl _
  have hreset : settled [.escape .fullReset] (Parser.ground.feed
      [0x1B, 0x63, 0x1B, 0x5B, 0x35]).1 = .ground := if_pos List.mem_cons_self
  have hlast := h.lastPrinted
  rw [lastPrinted_append, lastPrinted_append, parser_append, hground, hpiece, hreset, hrest,
    hprint, hwhole, applyAll, List.foldl_cons, List.foldl_cons, List.foldl_nil, apply, apply, hcsi,
    short, lastPrinted_reset] at hlast
  cases hlast

end Emulator

end Teletype

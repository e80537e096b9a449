import Teletype.Parser.Registers
import Teletype.Proofs.Text.Bits

/-!
# What the registers leave behind

A machine with registers keeps what earlier sequences put into them. What it does
next depends only on the registers that mean something where it stands
(`Registers.parser`), and those a sequence sets before it reads them. So the machine
goes through the same steps as the parser that keeps nothing else (`matches_step`),
and once nothing is half read, nothing that was read before makes a difference
(`never_wedged`).
-/

namespace Teletype

open Text Text.Utf8

namespace Parser

/-- Does what is asked for. -/
def call (p : Parser) : Call → Step
  | .parse bytes => p.feed bytes
  | .reset => (.ground, [])

/-- Does what is asked for, in turn. -/
def run (p : Parser) : List Call → Step
  | [] => (p, [])
  | call :: rest =>
    let (next, actions) := p.call call
    let (last, more) := next.run rest
    (last, actions ++ more)

end Parser

namespace Registers

/-! ## What means something -/

/-- What counts of a machine that is not inside a character. -/
def resting (m : Registers) : Parser :=
  match m.place with
  | .ground => .ground
  | .escape => .escape m.endsString
  | .escapeIntermediate => .escapeIntermediate m.draft.intermediates
  | .csiEntry => .csiEntry
  | .csiParameters => .csiParameters m.draft
  | .csiIntermediates => .csiIntermediates m.draft
  | .csiIgnored => .csiIgnored
  | .command => .command m.payload m.overlong
  | .skippedString => .skippedString

/-- The machine without what means nothing where it stands. -/
def parser (m : Registers) : Parser :=
  if 0 < m.awaited then
    match m.buffer.toList.take m.held with
    | [] => .ground
    | lead :: rest => .character (bitsOf lead rest) m.awaited (formOf lead).least
  else m.resting

/-- The machine is not inside a character, and a sequence that has just begun has
its registers cleared. -/
structure Settled (m : Registers) : Prop where
  awaited : m.awaited = 0
  size : m.buffer.size = 4
  draft : m.place = .escape ∨ m.place = .csiEntry → m.draft = {}

/-- The machine holds a first byte and continuation bytes, and awaits the others that
the first one asks for. -/
structure Halfway (m : Registers) (lead : UInt8) (rest : List UInt8) : Prop where
  place : m.place = .ground
  size : m.buffer.size = 4
  held : m.held = rest.length + 1
  bytes : m.buffer.toList.take m.held = lead :: rest
  count : rest.length + m.awaited = continuationCount lead
  awaited : 0 < m.awaited
  continuations : ∀ b ∈ rest, isContinuation b = true

/-- What holds of a machine whatever it reads. -/
def Sound (m : Registers) : Prop :=
  m.Settled ∨ ∃ lead rest, m.Halfway lead rest

/-- A step of the machine comes to what a step of a parser does. -/
structure Matches (s : Step) (t : Parser.Step) : Prop where
  sound : s.1.Sound
  parser : s.1.parser = t.1
  actions : s.2 = t.2

variable {m : Registers} {p : Parser} {b lead : UInt8} {rest : List UInt8} {actions : List Action}

theorem parser_of_settled (h : m.awaited = 0) : m.parser = m.resting :=
  if_neg (by omega)

theorem Halfway.parser_eq (h : m.Halfway lead rest) :
    m.parser = .character (bitsOf lead rest) m.awaited (formOf lead).least := by
  rw [parser, if_pos h.awaited, h.bytes]

/-- A machine that ends a step outside a character. -/
theorem Matches.settled (hawaited : m.awaited = 0) (hsize : m.buffer.size = 4)
    (hdraft : m.place = .escape ∨ m.place = .csiEntry → m.draft = {}) (hparser : m.resting = p) :
    Matches (m, actions) (p, actions) :=
  ⟨.inl ⟨hawaited, hsize, hdraft⟩, (parser_of_settled hawaited).trans hparser, rfl⟩

/-- A machine that ends a step inside a character. -/
theorem Matches.halfway (lead : UInt8) (rest : List UInt8) (h : m.Halfway lead rest)
    (hparser : .character (bitsOf lead rest) m.awaited (formOf lead).least = p) :
    Matches (m, actions) (p, actions) :=
  ⟨.inr ⟨lead, rest, h⟩, h.parser_eq.trans hparser, rfl⟩

/-- Both decide by the same. -/
theorem Matches.ite {c : Prop} [Decidable c] {s s' : Step} {t t' : Parser.Step}
    (h : Matches s t) (h' : Matches s' t') :
    Matches (if c then s else s') (if c then t else t') := by
  split
  · exact h
  · exact h'

/-! ## Outside a character -/

theorem matches_escapeByte (h : m.Settled) : Matches m.escapeByte m.resting.escapeByte := by
  unfold escapeByte resting
  cases m.place <;> exact .settled h.awaited h.size (fun _ => rfl) rfl

theorem matches_control (h : m.Settled) : Matches (m.control b) (m.resting.control b) := by
  unfold control Parser.control
  split
  · exact .settled h.awaited h.size (by simp) rfl
  · split
    · exact matches_escapeByte h
    · unfold resting
      cases hplace : m.place with
      | command =>
        dsimp only
        split
        · exact .settled h.awaited h.size (by simp) rfl
        · exact .settled h.awaited h.size (by simp [hplace]) (by simp [resting, hplace])
      | skippedString => exact .settled h.awaited h.size (by simp [hplace]) (by simp [resting, hplace])
      | _ => exact .settled h.awaited h.size h.draft (by simp [resting, hplace])

/-- The first byte of a character. -/
theorem matches_beginCharacter {f : Form} (h : m.Settled) (hplace : m.place = .ground)
    (hcount : continuationCount b = f.count) (hform : formOf b = f) :
    Matches (m.beginCharacter b f.count, actions)
      (.character (b.toNat - f.mark) f.count f.least, actions) := by
  subst hform
  refine .halfway b [] ?_ rfl
  constructor
  case place => exact hplace
  case size => simp [beginCharacter, h.size]
  case held => rfl
  case bytes =>
    obtain ⟨first, rest, hbuffer⟩ : ∃ first rest, m.buffer.toList = first :: rest :=
      List.exists_cons_of_length_pos (by simp [h.size])
    simp [beginCharacter, hbuffer]
  case count => exact (Nat.zero_add _).trans hcount.symm
  case awaited => exact (formOf b).count_pos
  case continuations => exact fun _ hmem => absurd hmem List.not_mem_nil

theorem matches_groundByte (h : m.Settled) (hplace : m.place = .ground) :
    Matches (m.groundByte b) (Parser.groundByte b) := by
  have hrest {actions : List Action} : Matches (m, actions) (.ground, actions) :=
    .settled h.awaited h.size h.draft (by simp [resting, hplace])
  unfold groundByte Parser.groundByte
  dsimp only
  refine .ite hrest (.ite hrest ?_)
  split
  next htwo =>
    exact matches_beginCharacter (f := .two) h hplace (if_pos htwo) (if_pos (by simp at htwo; omega))
  next htwo =>
    split
    next hthree =>
      refine matches_beginCharacter (f := .three) h hplace ((if_neg htwo).trans (if_pos hthree)) ?_
      rw [formOf, if_neg (by simp at hthree; omega), if_pos (by simp at hthree; omega)]
    next hthree =>
      split
      next hfour =>
        refine matches_beginCharacter (f := .four) h hplace ?_ ?_
        · rw [continuationCount, if_neg htwo, if_neg hthree, if_pos hfour]
          rfl
        · rw [formOf, if_neg (by simp at hfour; omega), if_neg (by simp at hfour; omega)]
      next => exact hrest

/-- A byte behind `ESC`. The sequence that begins there finds its registers cleared. -/
theorem matches_behindEscape (h : m.Settled) (hplace : m.place = .escape) :
    Matches (m.behindEscape b) (Parser.behindEscape m.endsString b) := by
  have hdraft := h.draft (.inl hplace)
  unfold behindEscape Parser.behindEscape
  simp only [hdraft]
  repeat' apply Matches.ite
  all_goals exact .settled h.awaited h.size (by simp) (by simp [resting])

theorem matches_behindIntermediates (h : m.Settled) (hplace : m.place = .escapeIntermediate) :
    Matches (m.behindIntermediates b) (Parser.behindIntermediates m.draft.intermediates b) := by
  unfold behindIntermediates Parser.behindIntermediates
  dsimp only
  repeat' apply Matches.ite
  all_goals exact .settled h.awaited h.size (by simp [hplace]) (by simp [resting, hplace])

theorem matches_parameterByte (h : m.Settled) (hplace : m.place = .csiParameters) :
    Matches (m.parameterByte b) (Parser.parameterByte m.draft b) := by
  unfold parameterByte Parser.parameterByte dispatch
  dsimp only
  repeat' apply Matches.ite
  all_goals exact .settled h.awaited h.size (by simp [hplace]) (by simp [resting, hplace])

theorem matches_entryByte (h : m.Settled) (hplace : m.place = .csiEntry) :
    Matches (m.entryByte b) (Parser.entryByte b) := by
  have hdraft := h.draft (.inr hplace)
  unfold entryByte Parser.entryByte
  dsimp only
  split
  · exact .settled h.awaited h.size (by simp) (by simp [resting, hdraft])
  · rw [← hdraft]
    exact matches_parameterByte (m := { m with place := .csiParameters })
      ⟨h.awaited, h.size, by simp⟩ rfl

theorem matches_intermediateByte (h : m.Settled) (hplace : m.place = .csiIntermediates) :
    Matches (m.intermediateByte b) (Parser.intermediateByte m.draft b) := by
  unfold intermediateByte Parser.intermediateByte dispatch
  dsimp only
  repeat' apply Matches.ite
  all_goals exact .settled h.awaited h.size (by simp [hplace]) (by simp [resting, hplace])

theorem matches_ignoredByte (h : m.Settled) (hplace : m.place = .csiIgnored) :
    Matches (m.ignoredByte b) (Parser.ignoredByte b) := by
  unfold ignoredByte Parser.ignoredByte
  repeat' apply Matches.ite
  all_goals exact .settled h.awaited h.size (by simp [hplace]) (by simp [resting, hplace])

theorem matches_commandByte (h : m.Settled) (hplace : m.place = .command) :
    Matches (m.commandByte b) (Parser.commandByte m.payload m.overlong b) := by
  unfold commandByte Parser.commandByte
  repeat' apply Matches.ite
  all_goals exact .settled h.awaited h.size (by simp [hplace]) (by simp [resting, hplace])

theorem matches_visible (h : m.Settled) : Matches (m.visible b) (m.resting.visible b) := by
  unfold visible resting
  cases hplace : m.place with
  | ground => exact matches_groundByte h hplace
  | escape => exact matches_behindEscape h hplace
  | escapeIntermediate => exact matches_behindIntermediates h hplace
  | csiEntry => exact matches_entryByte h hplace
  | csiParameters => exact matches_parameterByte h hplace
  | csiIntermediates => exact matches_intermediateByte h hplace
  | csiIgnored => exact matches_ignoredByte h hplace
  | command => exact matches_commandByte h hplace
  | skippedString => exact .settled h.awaited h.size (by simp [hplace]) (by simp [resting, hplace])

theorem matches_plainByte (h : m.Settled) : Matches (m.plainByte b) (m.resting.plainByte b) := by
  unfold plainByte Parser.plainByte
  split
  · exact matches_control h
  · exact matches_visible h

/-! ## Inside a character -/

/-- The bytes of a character are looked at in the end, to the same effect as adding up
their bits. -/
theorem character_eq (lead : UInt8) (hcount : rest.length = continuationCount lead) (hpos : 0 < rest.length)
    (hrest : ∀ b ∈ rest, isContinuation b = true) :
    character (lead :: rest) = Parser.completed (bitsOf lead rest) (formOf lead).least := by
  rw [character, head?_fromUTF8? hcount hpos hrest, Parser.completed]
  rcases Nat.lt_or_ge (bitsOf lead rest) (formOf lead).least with hless | hleast
  · rw [if_neg (Nat.not_le.mpr hless), if_pos hless, Option.getD_none]
  · rw [if_pos hleast, if_neg (Nat.not_lt.mpr hleast)]

/-- There is room for the next byte of a character. -/
theorem Halfway.held_lt (h : m.Halfway lead rest) : m.held < m.buffer.size := by
  have hcount := h.count
  have hmost := continuationCount_le lead
  have hawaited := h.awaited
  rw [h.size, h.held]
  omega

theorem Halfway.bytes_concat (h : m.Halfway lead rest) (b : UInt8) :
    (m.buffer.setIfInBounds m.held b).toList.take (m.held + 1) = lead :: (rest ++ [b]) := by
  have hlength : m.held < m.buffer.toList.length := h.held_lt
  rw [Array.toList_setIfInBounds, List.take_add_one, List.getElem?_set_self hlength,
    List.take_set_of_le (Nat.le_refl _), h.bytes]
  rfl

theorem matches_continuation (h : m.Halfway lead rest) (hb : isContinuation b = true) :
    Matches (m.continuation b)
      (Parser.continuation (bitsOf lead rest) m.awaited (formOf lead).least b) := by
  have hbytes := h.bytes_concat b
  have hawaited := h.awaited
  have hall : ∀ x ∈ rest ++ [b], isContinuation x = true :=
    List.forall_mem_append.mpr ⟨h.continuations, List.forall_mem_singleton.mpr hb⟩
  have hlength : (rest ++ [b]).length + (m.awaited - 1) = continuationCount lead := by
    rw [List.length_append, List.length_singleton, ← h.count]
    omega
  simp only [continuation, Parser.continuation, ← bitsOf_concat]
  by_cases hlast : m.awaited - 1 = 0
  · have hwhole := character_eq lead (by omega) (by simp) hall
    rw [if_pos hlast, if_pos (by omega), hbytes, hwhole]
    exact .settled hlast (by simp [h.size]) (by simp [h.place]) (by simp [resting, h.place])
  · rw [if_neg hlast, if_neg (by omega)]
    refine .halfway lead (rest ++ [b]) ?_ rfl
    exact
      { place := h.place
        size := by simp [h.size]
        held := by simp [h.held]
        bytes := hbytes
        count := hlength
        awaited := Nat.pos_of_ne_zero hlast
        continuations := hall }

/-! ## The machine -/

/-- **A step of the machine is a step of the parser.** -/
theorem matches_step (h : m.Sound) (b : UInt8) : Matches (m.step b) (m.parser.step b) := by
  rcases h with h | ⟨lead, rest, h⟩
  · have hstep : m.resting.step b = m.resting.plainByte b := by
      unfold resting
      cases m.place <;> rfl
    rw [parser_of_settled h.awaited, hstep, step, if_neg (by rw [h.awaited]; decide)]
    exact matches_plainByte h
  · rw [h.parser_eq, step, if_pos h.awaited]
    by_cases hb : isContinuation b = true
    · rw [if_pos (Parser.continues_iff.mpr hb), Parser.step_continuation hb]
      exact matches_continuation h hb
    · -- what was half read is dropped, and the byte is read anew
      have hdropped : Settled { m with held := 0, awaited := 0 } :=
        ⟨rfl, h.size, by simp [h.place]⟩
      have hground : resting { m with held := 0, awaited := 0 } = .ground := by
        simp [resting, h.place]
      have hplain := matches_plainByte (b := b) hdropped
      rw [hground] at hplain
      rw [if_neg (mt Parser.continues_iff.mp hb), Parser.step_breaks hb]
      exact ⟨hplain.sound, hplain.parser, congrArg _ hplain.actions⟩

theorem matches_feed (h : m.Sound) (bytes : List UInt8) :
    Matches (m.feed bytes) (m.parser.feed bytes) := by
  induction bytes generalizing m with
  | nil => exact ⟨h, rfl, rfl⟩
  | cons b rest ih =>
    have hstep := matches_step h b
    have hrest := ih hstep.sound
    rw [hstep.parser] at hrest
    rw [Parser.feed_cons]
    refine ⟨hrest.sound, hrest.parser, ?_⟩
    show (m.step b).2 ++ ((m.step b).1.feed rest).2 = _
    rw [hstep.actions, hrest.actions]

theorem sound_fresh : fresh.Sound :=
  .inl ⟨rfl, rfl, fun _ => rfl⟩

theorem parser_fresh : fresh.parser = .ground := rfl

theorem matches_call (h : m.Sound) (call : Parser.Call) :
    Matches (m.call call) (m.parser.call call) := by
  cases call with
  | parse bytes => exact matches_feed h bytes
  | reset =>
    have hsize : m.buffer.size = 4 := by
      rcases h with h | ⟨_, _, h⟩
      · exact h.size
      · exact h.size
    exact .settled rfl hsize (fun _ => rfl) rfl

/-- **The machine answers as the parser does**, whatever it is asked. -/
theorem matches_run (h : m.Sound) (calls : List Parser.Call) :
    Matches (m.run calls) (m.parser.run calls) := by
  induction calls generalizing m with
  | nil => exact ⟨h, rfl, rfl⟩
  | cons call rest ih =>
    have hcall := matches_call h call
    have hrest := ih hcall.sound
    rw [hcall.parser] at hrest
    refine ⟨hrest.sound, hrest.parser, ?_⟩
    show (m.call call).2 ++ ((m.call call).1.run rest).2 =
      (m.parser.call call).2 ++ ((m.parser.call call).1.run rest).2
    rw [hcall.actions, hrest.actions]

/-! ## What is seen from outside -/

theorem parser_isGround (h : m.Sound) : m.parser.isGround = m.isGround := by
  rcases h with h | ⟨_, _, h⟩
  · rw [parser_of_settled h.awaited, resting, isGround, h.awaited]
    cases m.place <;> rfl
  · rw [h.parser_eq, isGround, h.place]
    simp [Parser.isGround, Nat.ne_of_gt h.awaited]

theorem parser_pending (h : m.Sound) : m.parser.pending = m.awaited := by
  rcases h with h | ⟨_, _, h⟩
  · rw [parser_of_settled h.awaited, resting, h.awaited]
    cases m.place <;> rfl
  · rw [h.parser_eq]
    rfl

theorem parser_eq_ground (hp : p.isGround = true) : p = .ground := by
  cases p with
  | ground => rfl
  | _ => cases hp

theorem Sound.step_cancel (h : m.Sound) (hb : b = 0x18 ∨ b = 0x1A) :
    m.parser.step b = (.ground, if 0 < m.parser.pending then [.print replacement] else []) := by
  have hplain (p : Parser) : p.plainByte b = (.ground, []) := by
    rcases hb with rfl | rfl <;> rfl
  have hbreaks : ¬ isContinuation b = true := by
    rcases hb with rfl | rfl <;> decide
  rcases h with h | ⟨_, _, h⟩
  · rw [parser_of_settled h.awaited]
    unfold resting
    cases m.place <;> exact hplain _
  · rw [h.parser_eq, Parser.step_breaks hbreaks, hplain]
    exact congrArg _ (if_pos h.awaited).symm

/-- **Nothing wedges the machine.** Whatever it was asked so far, it has come to the
same actions as the parser that keeps nothing but what counts, and stands where that
one does. When nothing is half read, it goes on like a fresh one, whatever the
registers hold. And `CAN` or `SUB` always gets it there, with no action but the
replacement of a character that is cut short. -/
theorem never_wedged (calls : List Parser.Call) :
    let m := (fresh.run calls).1
    let p := (Parser.ground.run calls).1
    ((fresh.run calls).2 = (Parser.ground.run calls).2 ∧ m.isGround = p.isGround ∧
      m.awaited = p.pending) ∧
    (m.isGround = true → ∀ bytes,
      (m.feed bytes).2 = (fresh.feed bytes).2 ∧
        (m.feed bytes).1.isGround = (fresh.feed bytes).1.isGround ∧
        p.feed bytes = Parser.ground.feed bytes) ∧
    ∀ b : UInt8, b = 0x18 ∨ b = 0x1A →
      ((m.step b).1.isGround = true ∧
        (m.step b).2 = if 0 < m.awaited then [.print replacement] else []) ∧
      p.step b = (.ground, if 0 < p.pending then [.print replacement] else []) := by
  intro m p
  obtain ⟨hsound, hparser, hactions⟩ := matches_run sound_fresh calls
  rw [parser_fresh] at hparser hactions
  change m.parser = p at hparser
  have hisGround := parser_isGround hsound
  have hpending := parser_pending hsound
  refine ⟨⟨hactions, by rw [← hparser, hisGround], by rw [← hparser, hpending]⟩, ?_, ?_⟩
  · intro hground bytes
    have hp : m.parser = .ground := parser_eq_ground (hisGround.trans hground)
    have hfeed := matches_feed hsound bytes
    have hfresh := matches_feed sound_fresh bytes
    rw [parser_fresh] at hfresh
    rw [hp] at hfeed
    refine ⟨hfeed.actions.trans hfresh.actions.symm, ?_, by rw [← hparser, hp]⟩
    rw [← parser_isGround hfeed.sound, ← parser_isGround hfresh.sound, hfeed.parser,
      hfresh.parser]
  · intro b hb
    have hstep := matches_step hsound b
    have hcancel := hsound.step_cancel hb
    rw [hcancel, hpending] at hstep
    refine ⟨⟨?_, hstep.actions⟩, hparser ▸ hcancel⟩
    rw [← parser_isGround hstep.sound, hstep.parser]
    rfl

/-- A control sequence and the end of a string given up halfway: the machine is at
ground with a flag that says that a string has just ended. -/
theorem never_wedged_by_leftovers :
    let left := (fresh.run [.parse [0x1B, 0x5B, 0x3F, 0x31, 0x18], .parse [0x1B, 0x58, 0x1B, 0x1A]]).1
    left.endsString = true ∧ left.isGround = true ∧
      (∀ bytes, (left.feed bytes).2 = (fresh.feed bytes).2) ∧
      ((0x18 : UInt8) = 0x18 ∨ (0x18 : UInt8) = 0x1A) ∧ (left.step 0x18).1.isGround = true := by
  obtain ⟨-, hlike, hcancel⟩ :=
    never_wedged [.parse [0x1B, 0x5B, 0x3F, 0x31, 0x18], .parse [0x1B, 0x58, 0x1B, 0x1A]]
  exact ⟨by decide, by decide, fun bytes => (hlike (by decide) bytes).1, .inl rfl,
    (hcancel 0x18 (.inl rfl)).1.1⟩

end Registers

end Teletype

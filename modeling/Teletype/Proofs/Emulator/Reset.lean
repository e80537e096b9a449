import Teletype.Proofs.Emulator.Chunks
import Teletype.Proofs.Emulator.Run

/-!
# As good as new

A reset brings back the screen that an emulator of the size begins with, and the
first palette, and nothing is half read any more. What it leaves alone is the
title and what is queued for the host and for the program. Neither is asked when
something is carried out, but for the title when a new one is set, and that is
told to the host only. So an emulator that was reset and a new one stay alike
from then on (`Alike`), whatever reaches both of them, except that replies of
before the reset wait in front of the later ones (`reset_as_new`).
-/

namespace Teletype

/-- A grid whose rows were all cleared is the blank one of its size. -/
theorem Grid.HasSize.map_clear {g : Grid} {cols rows : Nat} (h : g.HasSize cols rows) :
    g.map Line.clear = Grid.blank cols rows := by
  have hrow : ∀ l ∈ g, l.clear = Line.blank cols := by
    intro l hl
    rw [Line.clear_eq_blank, h.length_cells l hl]
  rw [List.map_congr_left hrow, List.map_const', h.length_eq]
  rfl

/-- **A reset is the new screen of the size.** The grids are those of a new
screen because they have its shape. -/
theorem Screen.WellFormed.reset_eq {s : Screen} (h : s.WellFormed) :
    s.reset = .initial s.cols s.rows s.scrollback.capacity := by
  have hcols : max s.cols 1 = s.cols := Nat.max_eq_left h.cols_pos
  have hrows : max s.rows 1 = s.rows := Nat.max_eq_left h.rows_pos
  simp only [Screen.reset, initial, hcols, hrows, h.primary.map_clear, h.alternate.map_clear,
    Scrollback.clear]

namespace Emulator

/-- Two emulators that show the same and will go on alike. The first has older
replies queued in front of those of the second; the title and the events are the
host's. -/
structure Alike (older : List UInt8) (e f : Emulator) : Prop where
  screen : e.screen = f.screen
  parser : e.parser = f.parser
  palette : e.palette = f.palette
  lastPrinted : e.lastPrinted = f.lastPrinted
  replies : e.replies = older ++ f.replies

namespace Alike

variable {older : List UInt8} {e f : Emulator}

/-! ## What an action is made of -/

theorem mapScreen (h : Alike older e f) (g : Screen → Screen) :
    Alike older (e.mapScreen g) (f.mapScreen g) :=
  { h with screen := congrArg g h.screen }

theorem emit (h : Alike older e f) (event event' : Event) :
    Alike older (e.emit event) (f.emit event') :=
  ⟨h.screen, h.parser, h.palette, h.lastPrinted, h.replies⟩

/-- A reply is queued behind the older ones. -/
theorem reply (h : Alike older e f) (text : String) :
    Alike older (e.reply text) (f.reply text) := by
  refine { h with replies := ?_ }
  show e.replies ++ _ = older ++ (f.replies ++ _)
  rw [h.replies, List.append_assoc]

theorem withPalette (h : Alike older e f) (palette : Palette) :
    Alike older { e with palette } { f with palette } :=
  { h with palette := rfl }

theorem withParser (h : Alike older e f) (parser : Parser) :
    Alike older { e with parser } { f with parser } :=
  { h with parser := rfl }

theorem ite {e' f' : Emulator} {P : Prop} [Decidable P] (h : Alike older e f)
    (h' : Alike older e' f') : Alike older (if P then e else e') (if P then f else f') := by
  split
  · exact h
  · exact h'

/-! ## Actions -/

theorem control (h : Alike older e f) (byte : UInt8) :
    Alike older (e.control byte) (f.control byte) := by
  unfold Emulator.control
  split
  · exact h.emit _ _
  all_goals first
    | exact h.mapScreen _
    | exact h

/-- A question about the cursor is answered from the screen. -/
theorem report (h : Alike older e f) (question : Nat) :
    Alike older (e.report question) (f.report question) := by
  unfold Emulator.report
  rw [h.screen]
  split
  · exact h.reply _
  · exact h.reply _
  · exact h

theorem repeatLast (h : Alike older e f) (count : Nat) :
    Alike older (e.repeatLast count) (f.repeatLast count) := by
  unfold Emulator.repeatLast
  rw [h.screen, h.lastPrinted]
  split
  · exact h.mapScreen _
  · exact h

theorem plainCsi (h : Alike older e f) (c : Csi) :
    Alike older (e.plainCsi c) (f.plainCsi c) := by
  unfold Emulator.plainCsi
  generalize c.command = command
  dsimp only
  split
  all_goals first
    | exact h.mapScreen _
    | exact h.report _
    | exact h.repeatLast _
    | exact (h.mapScreen _).ite ((h.mapScreen _).ite h)
    | exact (h.reply _).ite h
    | exact h

theorem csi (h : Alike older e f) (c : Csi) : Alike older (e.csi c) (f.csi c) := by
  unfold Emulator.csi
  split
  · split
    · unfold Emulator.privateCsi
      split
      · exact h.mapScreen _
      · exact h.mapScreen _
      · exact h
    · exact (h.reply _).ite h
  · split
    · exact h.plainCsi c
    · exact (h.mapScreen _).ite h

/-- A full reset may be news to the host of one of them only. -/
theorem reset (h : Alike older e f) : Alike older e.reset f.reset := by
  have hscreen : e.screen.reset = f.screen.reset := congrArg Screen.reset h.screen
  have hpalette := h.palette
  unfold Emulator.reset
  dsimp only
  split <;> split
  · exact ⟨hscreen, rfl, h.palette, rfl, h.replies⟩
  · next he hf => exact absurd (hpalette.symm.trans he) hf
  · next he hf => exact absurd (hpalette.trans hf) he
  · exact ⟨hscreen, rfl, rfl, rfl, h.replies⟩

theorem short (h : Alike older e f) (sequence : Escape) :
    Alike older (e.short sequence) (f.short sequence) := by
  cases sequence with
  | fullReset => exact h.reset
  | designateCharset | stringTerminator | unknown => exact h
  | applicationKeypad | normalKeypad =>
    exact h.mapScreen fun s => { s with modes.applicationKeypad := _ }
  | _ => exact h.mapScreen _

/-- The same title may be a new one to one of them and not to the other. -/
theorem setTitle (h : Alike older e f) (title : String) :
    Alike older (e.setTitle title) (f.setTitle title) := by
  unfold Emulator.setTitle
  split <;> split
  all_goals exact ⟨h.screen, h.parser, h.palette, h.lastPrinted, h.replies⟩

theorem command (h : Alike older e f) (command : Osc) :
    Alike older (e.command command) (f.command command) := by
  cases command with
  | setTitle title => exact h.setTitle title
  | setIconName name => exact h
  | setColor entries =>
    show Alike older (if _ then _ else _) (if _ then _ else _)
    rw [h.palette]
    exact ((h.withPalette _).emit _ _).ite h
  | setDynamicColor which spec =>
    simp only [Emulator.command]
    split
    · rw [h.palette]
      exact (h.withPalette _).emit _ _
    · exact h
  | resetColor indices =>
    simp only [Emulator.command]
    rw [h.palette]
    exact (h.withPalette _).emit _ _
  | resetDynamicColor which =>
    simp only [Emulator.command]
    rw [h.palette]
    exact (h.withPalette _).emit _ _
  | clipboard selection data =>
    simp only [Emulator.command]
    split
    · exact h.emit _ _
    · exact h
  | unknown => exact h

/-- **An action leaves alike what was alike.** -/
theorem apply (h : Alike older e f) (a : Action) : Alike older (e.apply a) (f.apply a) := by
  cases a with
  | print c => exact { h.mapScreen (·.print c) with lastPrinted := rfl }
  | execute byte => exact h.control byte
  | csi sequence => exact h.csi sequence
  | escape sequence => exact h.short sequence
  | osc command => exact h.command command

theorem applyAll (h : Alike older e f) (actions : List Action) :
    Alike older (e.applyAll actions) (f.applyAll actions) := by
  induction actions generalizing e f with
  | nil => exact h
  | cons a rest ih => exact ih (h.apply a)

/-! ## Runs -/

/-- A chunk is read alike, and its actions are carried out alike. -/
theorem append (h : Alike older e f) (bytes : List UInt8) :
    Alike older (e.append bytes) (f.append bytes) := by
  unfold Emulator.append
  rw [h.parser]
  exact (h.withParser _).applyAll _

/-- **An input leaves alike what was alike**, and the replies that are taken with
it are the older ones too. -/
theorem take (h : Alike older e f) (input : Input) :
    Alike (if input = .takeReplies then [] else older) (e.take input) (f.take input) := by
  cases input with
  | append bytes => exact h.append bytes
  | resize cols rows => exact h.mapScreen (·.resize cols rows)
  | reset => exact h.reset
  | takeEvents => exact ⟨h.screen, h.parser, h.palette, h.lastPrinted, h.replies⟩
  | takeReplies => exact { h with replies := rfl }

theorem takeAll (h : Alike older e f) (inputs : List Input) :
    Alike (if .takeReplies ∈ inputs then [] else older) (e.takeAll inputs) (f.takeAll inputs) := by
  induction inputs generalizing older e f with
  | nil => exact h
  | cons input rest ih =>
    have hwaiting : (if Input.takeReplies ∈ input :: rest then [] else older) =
        if Input.takeReplies ∈ rest then [] else if input = .takeReplies then [] else older := by
      by_cases hrest : Input.takeReplies ∈ rest
      · rw [if_pos hrest, if_pos (List.mem_cons_of_mem input hrest)]
      · rw [if_neg hrest]
        simp only [List.mem_cons, hrest, or_false, eq_comm]
    rw [hwaiting]
    exact ih (h.take input)

end Alike

/-! ## The reset -/

theorem palette_reset (e : Emulator) : e.reset.palette = .initial := by
  unfold reset
  dsimp only
  split
  · assumption
  · rfl

theorem title_reset (e : Emulator) : e.reset.title = e.title := by
  unfold reset
  dsimp only
  split <;> rfl

theorem replies_reset (e : Emulator) : e.reset.replies = e.replies := by
  unfold reset
  dsimp only
  split <;> rfl

/-- An emulator that was reset is like a new one of its size. -/
theorem alike_reset {e : Emulator} (h : e.screen.WellFormed) :
    Alike e.replies e.reset
      (initial e.screen.cols e.screen.rows e.screen.scrollback.capacity) where
  screen := screen_reset.trans h.reset_eq
  parser := parser_reset
  palette := palette_reset e
  lastPrinted := lastPrinted_reset
  replies := (replies_reset e).trans (List.append_nil _).symm

/-- **A reset is as good as new.** -/
theorem reset_as_new (cols rows capacity : Nat) (inputs : List Input) :
    let e := (initial cols rows capacity).takeAll inputs
    let fresh := initial e.screen.cols e.screen.rows capacity
    e.screen.scrollback.capacity = capacity ∧
      e.reset.screen = .initial e.screen.cols e.screen.rows capacity ∧
      e.reset.palette = .initial ∧ e.reset.lastPrinted = none ∧ e.reset.title = e.title ∧
      ∀ later : List Input,
        (e.reset.takeAll later).screen = (fresh.takeAll later).screen ∧
        (e.reset.takeAll later).palette = (fresh.takeAll later).palette ∧
        (e.reset.takeAll later).replies =
          (if .takeReplies ∈ later then [] else e.replies) ++ (fresh.takeAll later).replies := by
  intro e fresh
  have hnew : (initial cols rows capacity).screen.WellFormed :=
    Screen.wellFormed_initial cols rows capacity
  have hwf : e.screen.WellFormed := (takeAll?_eq hnew inputs).2
  have hcapacity : e.screen.scrollback.capacity = capacity :=
    capacity_takeAll hnew inputs
  have halike : Alike e.replies e.reset fresh := by
    have hreset := alike_reset hwf
    rwa [hcapacity] at hreset
  refine ⟨hcapacity, halike.screen, halike.palette, halike.lastPrinted, title_reset e, ?_⟩
  intro later
  have hlater := halike.takeAll later
  exact ⟨hlater.screen, hlater.palette, hlater.replies⟩

end Emulator

end Teletype

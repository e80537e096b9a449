import Teletype.Proofs.Emulator.Chunks
import Teletype.Proofs.Emulator.Run
import Teletype.Proofs.Parser.Said

/-!
# A run of an emulator as a run of its screen

Whatever reaches an emulator does to its screen what a list of operations does:
the actions of a chunk one after the other, and each of them operation by
operation (`trace`). So a statement about every run of a screen is one about every
run of an emulator, at every moment of it and not only between two chunks.
-/

namespace Teletype.Emulator

open Screen

/-- The operations of actions, one after the other. -/
def actionsTrace (e : Emulator) : List Action → List Operation
  | [] => []
  | a :: rest => (e.operations? a).getD [] ++ (e.apply a).actionsTrace rest

/-- The operations of an input. -/
def inputTrace (e : Emulator) : Input → List Operation
  | .append bytes =>
    let (parser, actions) := e.parser.feed bytes
    { e with parser }.actionsTrace actions
  | .resize cols rows => [.resize cols rows]
  | .reset => [.reset]
  | .takeEvents | .takeReplies => []

/-- The operations of inputs, one after the other. -/
def trace (e : Emulator) : List Input → List Operation
  | [] => []
  | input :: rest => e.inputTrace input ++ (e.take input).trace rest

variable {e : Emulator}

theorem screen_applyAll_eq (h : e.screen.WellFormed) (actions : List Action) :
    (e.applyAll actions).screen = e.screen.performAll (e.actionsTrace actions) := by
  induction actions generalizing e with
  | nil => rfl
  | cons a rest ih =>
    obtain ⟨ops, hops, hscreen⟩ := exists_operations h a
    rw [actionsTrace, hops, Option.getD_some, performAll_append, ← hscreen]
    exact ih (wellFormed_apply h a)

theorem screen_take_eq (h : e.screen.WellFormed) (input : Input) :
    (e.take input).screen = e.screen.performAll (e.inputTrace input) := by
  cases input with
  | append bytes =>
    exact screen_applyAll_eq (e := { e with parser := (e.parser.feed bytes).1 }) h _
  | reset => exact screen_reset
  | resize | takeEvents | takeReplies => rfl

/-- **What a run leaves on the screen is what its operations leave there.** -/
theorem screen_takeAll_eq (h : e.screen.WellFormed) (inputs : List Input) :
    (e.takeAll inputs).screen = e.screen.performAll (e.trace inputs) := by
  induction inputs generalizing e with
  | nil => rfl
  | cons input rest ih =>
    rw [trace, performAll_append, ← screen_take_eq h]
    exact ih (take?_eq h input).2

/-! ## What is in a trace

Bytes ask for most operations, but not for a resize, and not for a pending wrap. Of
characters they only have those printed that are printed already, or that they say. -/

/-- Whether bytes can ask for an operation where `allowed` tells the characters that they
can have printed. -/
def isAsked (allowed : Char → Bool) : Operation → Bool
  | .resize .. | .setFlag .pendingWrap _ => false
  | .print c => allowed c
  | _ => true

section Asked

variable {allowed : Char → Bool} {a : Action}

theorem isAsked_modeOperations (mode : Nat) (on : Bool) :
    (modeOperations mode on).all (isAsked allowed) = true := by
  unfold modeOperations
  split <;> rfl

theorem isAsked_privateModeOperations (mode : Nat) (on : Bool) :
    (privateModeOperations mode on).all (isAsked allowed) = true := by
  unfold privateModeOperations
  split <;> first | rfl | (cases on <;> rfl)

theorem isAsked_plainOperations? (h : ∀ c ∈ e.lastPrinted, allowed c = true) (c : Csi) :
    (e.plainOperations? c).all (·.all (isAsked allowed)) = true := by
  unfold plainOperations?
  generalize c.command = command
  dsimp only
  split
  all_goals first
    | rfl
    | exact all_map fun _ => rfl
    | exact all_bind fun _ => all_map fun _ => rfl
    | exact all_modesOperations fun mode _ => isAsked_modeOperations _ _
    | exact all_clearTab rfl rfl _
    | exact all_repeat h _

theorem isAsked_csiOperations? (h : ∀ c ∈ e.lastPrinted, allowed c = true) (c : Csi) :
    (e.csiOperations? c).all (·.all (isAsked allowed)) = true := by
  unfold csiOperations?
  cases c.marker with
  | none =>
    dsimp only
    split
    · exact isAsked_plainOperations? h c
    · rw [Option.all_some]
      split <;> rfl
  | some marker =>
    dsimp only
    split
    · rw [Option.all_some]
      split
      · exact all_modesOperations fun mode _ => isAsked_privateModeOperations _ _
      · exact all_modesOperations fun mode _ => isAsked_privateModeOperations _ _
      · rfl
    · rfl

theorem isAsked_operations? (h : ∀ c ∈ e.lastPrinted, allowed c = true)
    (ha : ∀ c ∈ a.said, allowed c = true) :
    (e.operations? a).all (·.all (isAsked allowed)) = true := by
  cases a with
  | print c =>
    have hc : allowed c = true := ha c rfl
    simp [operations?, isAsked, hc]
  | execute byte =>
    show (controlOperations byte).all (isAsked allowed) = true
    unfold controlOperations
    split <;> rfl
  | osc command => rfl
  | escape sequence => cases sequence <;> rfl
  | csi c => exact isAsked_csiOperations? h c

/-! ### The character that a repetition repeats -/

theorem lastPrinted_csi (c : Csi) : (e.csi c).lastPrinted = e.lastPrinted := by
  obtain ⟨screen, replies, heq⟩ := e.exists_csi_eq c
  rw [heq]

theorem lastPrinted_command (command : Osc) : (e.command command).lastPrinted = e.lastPrinted := by
  obtain ⟨title, palette, events, heq⟩ := e.exists_command_eq command
  rw [heq]

/-- It is one that was printed before, or the one that is printed now. -/
theorem lastPrinted_apply (h : ∀ c ∈ e.lastPrinted, allowed c = true)
    (ha : ∀ c ∈ a.said, allowed c = true) : ∀ c ∈ (e.apply a).lastPrinted, allowed c = true := by
  cases a with
  | print c => exact ha
  | execute byte =>
    show ∀ c ∈ (e.control byte).lastPrinted, _
    unfold control
    split <;> exact h
  | csi sequence =>
    show ∀ c ∈ (e.csi sequence).lastPrinted, _
    rwa [lastPrinted_csi]
  | escape sequence =>
    cases sequence with
    | fullReset =>
      show ∀ c ∈ e.reset.lastPrinted, _
      rw [lastPrinted_reset]
      exact fun c hc => by cases hc
    | _ => exact h
  | osc command =>
    show ∀ c ∈ (e.command command).lastPrinted, _
    rwa [lastPrinted_command]

theorem lastPrinted_applyAll {actions : List Action} (h : ∀ c ∈ e.lastPrinted, allowed c = true)
    (hall : ∀ a ∈ actions, ∀ c ∈ a.said, allowed c = true) :
    ∀ c ∈ (e.applyAll actions).lastPrinted, allowed c = true := by
  induction actions generalizing e with
  | nil => exact h
  | cons a rest ih =>
    obtain ⟨ha, hrest⟩ := List.forall_mem_cons.mp hall
    exact ih (lastPrinted_apply h ha) hrest

/-- **Bytes have no other characters printed** than those that they say, and those
that were; and they neither resize a screen nor set its pending wrap but by printing. -/
theorem isAsked_of_mem_actionsTrace {actions : List Action} {op : Operation}
    (h : ∀ c ∈ e.lastPrinted, allowed c = true)
    (hall : ∀ a ∈ actions, ∀ c ∈ a.said, allowed c = true) (hop : op ∈ e.actionsTrace actions) :
    isAsked allowed op = true := by
  induction actions generalizing e with
  | nil => cases hop
  | cons a rest ih =>
    obtain ⟨ha, hrest⟩ := List.forall_mem_cons.mp hall
    rcases List.mem_append.mp hop with hop | hop
    · have hasked := isAsked_operations? h ha
      cases hops : e.operations? a with
      | none =>
        rw [hops] at hop
        cases hop
      | some ops =>
        rw [hops, Option.all_some, List.all_eq_true] at hasked
        rw [hops] at hop
        exact hasked op hop
    · exact ih (lastPrinted_apply h ha) hrest hop

end Asked

end Teletype.Emulator

import Teletype.Proofs.Emulator.Operations

/-!
# Runs of an emulator

What reaches an emulator from outside, one thing after the other. Whatever it
is, the screen stays well formed, and nothing that is reached for on the way is
out of range.
-/

namespace Teletype.Emulator

open Screen

/-- Something that reaches an emulator from outside. -/
inductive Input where
  | append (bytes : List UInt8)
  | resize (cols rows : Nat)
  | reset
  | takeEvents
  | takeReplies
  deriving Repr, DecidableEq

/-- Takes in an input. -/
def take (e : Emulator) : Input → Emulator
  | .append bytes => e.append bytes
  | .resize cols rows => e.resize cols rows
  | .reset => e.reset
  | .takeEvents => e.takeEvents.2
  | .takeReplies => e.takeReplies.2

/-- Takes in inputs in order. -/
def takeAll (e : Emulator) (inputs : List Input) : Emulator :=
  inputs.foldl take e

/-! ## Checked -/

/-- Carries out an action, if all it reaches for is there. -/
def act? (e : Emulator) (a : Action) : Option Emulator := do
  let ops ← e.operations? a
  let screen ← e.screen.performAll? ops
  return { e.apply a with screen }

/-- Carries out actions in order, as long as all they reach for is there. -/
def actAll? (e : Emulator) (actions : List Action) : Option Emulator :=
  actions.foldlM act? e

/-- Takes in an input, if all it reaches for is there. -/
def take? (e : Emulator) : Input → Option Emulator
  | .append bytes =>
    let (parser, actions) := e.parser.feed bytes
    { e with parser }.actAll? actions
  | .resize cols rows => (e.screen.resize? cols rows).map fun screen => { e with screen }
  | .reset => e.screen.reset?.map fun screen => { e.reset with screen }
  | .takeEvents => some e.takeEvents.2
  | .takeReplies => some e.takeReplies.2

/-- Takes in inputs in order, as long as all they reach for is there. -/
def takeAll? (e : Emulator) (inputs : List Input) : Option Emulator :=
  inputs.foldlM take? e

variable {e : Emulator}

/-! ## One step -/

theorem act?_eq (h : e.screen.WellFormed) (a : Action) : e.act? a = some (e.apply a) := by
  obtain ⟨ops, hops, hscreen⟩ := exists_operations h a
  simp only [act?, hops, h.performAll?_eq ops, Option.bind_eq_bind, Option.bind_some,
    Option.pure_def, ← hscreen]

theorem wellFormed_apply (h : e.screen.WellFormed) (a : Action) :
    (e.apply a).screen.WellFormed := by
  obtain ⟨ops, -, hscreen⟩ := exists_operations h a
  rw [hscreen]
  exact h.performAll ops

theorem actAll?_eq (h : e.screen.WellFormed) (actions : List Action) :
    e.actAll? actions = some (e.applyAll actions) ∧ (e.applyAll actions).screen.WellFormed := by
  induction actions generalizing e with
  | nil => exact ⟨rfl, h⟩
  | cons a rest ih =>
    obtain ⟨hrest, hwf⟩ := ih (wellFormed_apply h a)
    refine ⟨?_, hwf⟩
    rw [actAll?, List.foldlM_cons, act?_eq h, Option.bind_eq_bind, Option.bind_some]
    exact hrest

theorem take?_eq (h : e.screen.WellFormed) (input : Input) :
    e.take? input = some (e.take input) ∧ (e.take input).screen.WellFormed := by
  cases input with
  | append bytes =>
    exact actAll?_eq (e := { e with parser := (e.parser.feed bytes).1 }) h _
  | resize cols rows =>
    refine ⟨?_, h.resize cols rows⟩
    rw [take?, resize?_eq]
    rfl
  | reset =>
    have hreset : (e.take .reset).screen = e.screen.reset := screen_reset
    refine ⟨?_, hreset ▸ h.reset⟩
    rw [take?, h.reset?_eq, Option.map_some, ← hreset]
    rfl
  | takeEvents => exact ⟨rfl, h⟩
  | takeReplies => exact ⟨rfl, h⟩

theorem takeAll?_eq (h : e.screen.WellFormed) (inputs : List Input) :
    e.takeAll? inputs = some (e.takeAll inputs) ∧ (e.takeAll inputs).screen.WellFormed := by
  induction inputs generalizing e with
  | nil => exact ⟨rfl, h⟩
  | cons input rest ih =>
    obtain ⟨hstep, hnext⟩ := take?_eq h input
    obtain ⟨hrest, hwf⟩ := ih hnext
    refine ⟨?_, hwf⟩
    rw [takeAll?, List.foldlM_cons, hstep, Option.bind_eq_bind, Option.bind_some]
    exact hrest

/-! ## Every run -/

theorem capacity_apply (h : e.screen.WellFormed) (a : Action) :
    (e.apply a).screen.scrollback.capacity = e.screen.scrollback.capacity := by
  obtain ⟨ops, -, hscreen⟩ := exists_operations h a
  rw [hscreen, capacity_performAll]

theorem capacity_applyAll (h : e.screen.WellFormed) (actions : List Action) :
    (e.applyAll actions).screen.scrollback.capacity = e.screen.scrollback.capacity := by
  induction actions generalizing e with
  | nil => rfl
  | cons a rest ih => exact (ih (wellFormed_apply h a)).trans (capacity_apply h a)

theorem capacity_take (h : e.screen.WellFormed) (input : Input) :
    (e.take input).screen.scrollback.capacity = e.screen.scrollback.capacity := by
  cases input with
  | append bytes =>
    exact capacity_applyAll (e := { e with parser := (e.parser.feed bytes).1 }) h _
  | resize cols rows => exact capacity_perform (.resize cols rows)
  | reset => exact congrArg (·.scrollback.capacity) screen_reset
  | takeEvents => rfl
  | takeReplies => rfl

theorem capacity_takeAll (h : e.screen.WellFormed) (inputs : List Input) :
    (e.takeAll inputs).screen.scrollback.capacity = e.screen.scrollback.capacity := by
  induction inputs generalizing e with
  | nil => rfl
  | cons input rest ih => exact (ih (take?_eq h input).2).trans (capacity_take h input)

/-- **No run leaves the screen.** From a new screen of any size, whatever is done
to it directly and whatever reaches an emulator, every difference, index and
slice on the way is in range, and what comes of it is a well-formed screen whose
scrollback is bounded as it was to begin with. -/
theorem runs_stay_in_range (cols rows capacity : Nat) :
    initial? cols rows capacity = some (.initial cols rows capacity) ∧
    (∀ ops : List Operation,
      (Screen.initial cols rows capacity).performAll? ops =
          some ((Screen.initial cols rows capacity).performAll ops) ∧
        ((Screen.initial cols rows capacity).performAll ops).WellFormed ∧
        ((Screen.initial cols rows capacity).performAll ops).scrollback.capacity = capacity) ∧
    ∀ inputs : List Input,
      (initial cols rows capacity).takeAll? inputs =
          some ((initial cols rows capacity).takeAll inputs) ∧
        ((initial cols rows capacity).takeAll inputs).screen.WellFormed ∧
        ((initial cols rows capacity).takeAll inputs).screen.scrollback.capacity = capacity := by
  have h := wellFormed_initial cols rows capacity
  refine ⟨initial?_eq cols rows capacity, fun ops => ?_, fun inputs => ?_⟩
  · exact ⟨h.performAll?_eq ops, h.performAll ops, capacity_performAll ops⟩
  · have he : (initial cols rows capacity).screen.WellFormed := h
    obtain ⟨hrun, hwf⟩ := takeAll?_eq he inputs
    exact ⟨hrun, hwf, capacity_takeAll he inputs⟩

end Teletype.Emulator

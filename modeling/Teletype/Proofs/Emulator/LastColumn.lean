import Teletype.Proofs.Emulator.Trace
import Teletype.Proofs.Screen.LastColumn

/-!
# Waiting in the last column, in every run

What one step does to a pending wrap (`Screen.waitsAtEdge_perform_iff`) decides
every run, of a screen and of an emulator. Of all that reaches an emulator only a
resize can strand a pending wrap, and only while the alternate grid is on display.
-/

namespace Teletype.Emulator

open Screen

/-- Whether an input leaves a pending wrap behind in the middle of a row. -/
def strands (e : Emulator) : Input → Bool
  | .resize cols rows => e.screen.strands (.resize cols rows)
  | _ => false

/-- Whether `Q` holds of every step of a run, a step being an input and the emulator
that takes it. -/
def EachInput (Q : Emulator → Input → Prop) (e : Emulator) : List Input → Prop
  | [] => True
  | input :: rest => Q e input ∧ EachInput Q (e.take input) rest

variable {e : Emulator}

/-- Nothing that bytes ask for strands a pending wrap. -/
theorem strands_eq_false {allowed : Char → Bool} {op : Operation} (h : isAsked allowed op = true)
    (s : Screen) : s.strands op = false := by
  cases op with
  | resize => cases h
  | setFlag flag on => cases flag <;> first | rfl | cases h
  | _ => rfl

theorem eachStep_of_forall {Q : Screen → Operation → Prop} {ops : List Operation}
    (h : ∀ op ∈ ops, ∀ s, Q s op) (s : Screen) : s.EachStep Q ops := by
  induction ops generalizing s with
  | nil => trivial
  | cons op rest ih =>
    obtain ⟨hop, hrest⟩ := List.forall_mem_cons.mp h
    exact ⟨hop s, ih hrest _⟩

theorem eachStep_inputTrace_iff (e : Emulator) (input : Input) :
    e.screen.EachStep (fun s op => s.strands op = false) (e.inputTrace input) ↔
      e.strands input = false := by
  cases input with
  | append bytes =>
    refine ⟨fun _ => rfl, fun _ => eachStep_of_forall (fun op hop s => ?_) _⟩
    have hasked : isAsked (fun _ => true) op = true :=
      isAsked_of_mem_actionsTrace (fun _ _ => rfl) (fun _ _ _ _ => rfl) hop
    exact strands_eq_false hasked s
  | resize cols rows => exact ⟨fun h => h.1, fun h => ⟨h, trivial⟩⟩
  | reset => exact ⟨fun _ => rfl, fun _ => ⟨rfl, trivial⟩⟩
  | takeEvents | takeReplies => exact ⟨fun _ => rfl, fun _ => trivial⟩

/-- The steps of a screen that strand a pending wrap are those of the emulator. -/
theorem eachStep_trace_iff (h : e.screen.WellFormed) (inputs : List Input) :
    e.screen.EachStep (fun s op => s.strands op = false) (e.trace inputs) ↔
      e.EachInput (fun e input => e.strands input = false) inputs := by
  induction inputs generalizing e with
  | nil => exact Iff.rfl
  | cons input rest ih =>
    rw [trace, eachStep_append, eachStep_inputTrace_iff, ← screen_take_eq h]
    exact and_congr_right fun _ => ih (take?_eq h input).2

/-- **A wrap is pending in the last column only, unless it is stranded.** From a new
screen of any size, whatever is done to it and whatever reaches an emulator, every
screen on the way has a pending wrap only in its last column, and then no character
wraps with a column free, exactly if no step strands it: by a resize to more columns
while the alternate grid is on display, or by setting the flag itself. -/
theorem along_waitsAtEdge_iff (cols rows capacity : Nat) :
    (∀ ops, (Screen.initial cols rows capacity).Along WaitsAtEdge ops ↔
      (Screen.initial cols rows capacity).EachStep (fun s op => s.strands op = false) ops) ∧
    ∀ inputs,
      let e := initial cols rows capacity
      (e.takeAll inputs).screen = e.screen.performAll (e.trace inputs) ∧
        (e.screen.Along WaitsAtEdge (e.trace inputs) ↔
          e.EachInput (fun e input => e.strands input = false) inputs) := by
  have hw := wellFormed_initial cols rows capacity
  have hrun : ∀ ops, (Screen.initial cols rows capacity).Along WaitsAtEdge ops ↔
      (Screen.initial cols rows capacity).EachStep (fun s op => s.strands op = false) ops :=
    along_iff_eachStep (fun _ op hs => hs.perform op)
      (fun _ op hs hwaits => waitsAtEdge_perform_iff hs hwaits op) hw
      (waitsAtEdge_initial cols rows capacity)
  refine ⟨hrun, fun inputs => ?_⟩
  have he : (initial cols rows capacity).screen.WellFormed := hw
  exact ⟨screen_takeAll_eq he inputs, (hrun _).trans (eachStep_trace_iff he inputs)⟩

/-- A full row on the alternate grid, and then a wider screen: a wrap is pending two
columns from the last one, and the next letter goes to the row below. -/
theorem resize_strands_wrap :
    let e := (initial 4 2 0).takeAll
      [.append [0x1B, 0x5B, 0x3F, 0x34, 0x37, 0x68, 0x61, 0x62, 0x63, 0x64], .resize 6 2]
    e.screen.cursor.pendingWrap = true ∧ e.screen.cursor.col + 1 ≠ e.screen.cols ∧
      (e.screen.print 'x').cursor.row = 1 := by
  decide +kernel

end Teletype.Emulator

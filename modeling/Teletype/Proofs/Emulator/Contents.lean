import Teletype.Proofs.Emulator.Trace
import Teletype.Proofs.Screen.Contents

/-!
# What a stream leaves in the cells

What a step does to the contents of cells (`Screen.Printable.perform_iff`) decides every
run of an emulator. Of what bytes say (`Parser.says_feed`) two things taint a cell: the
one character of three columns, and a control character encoded in two bytes, which
joins the character before the cursor (`control_joins_character`).
-/

namespace Teletype.Emulator

open Screen Teletype.Parser

/-- Neither the next bytes nor a repetition can print a character that is not
sayable. -/
structure Sayable (e : Emulator) : Prop where
  awaits : e.parser.AwaitsLong
  lastPrinted : ∀ c ∈ e.lastPrinted, isSayable c = true

variable {e : Emulator}

theorem sayable_initial (cols rows capacity : Nat) : (initial cols rows capacity).Sayable where
  awaits := trivial
  lastPrinted c hc := by cases hc

namespace Sayable

theorem take (h : e.Sayable) (input : Input) : (e.take input).Sayable := by
  cases input with
  | append bytes =>
    have hsays := says_feed h.awaits bytes
    refine ⟨?_, ?_⟩
    · show (e.append bytes).parser.AwaitsLong
      rw [parser_append, settled]
      split
      · trivial
      · exact hsays.awaits
    · show ∀ c ∈ (e.append bytes).lastPrinted, _
      rw [lastPrinted_append]
      exact lastPrinted_applyAll h.lastPrinted hsays.said
  | reset =>
    refine ⟨?_, ?_⟩
    · show e.reset.parser.AwaitsLong
      rw [parser_reset]
      trivial
    · show ∀ c ∈ e.reset.lastPrinted, _
      rw [lastPrinted_reset]
      exact fun c hc => by cases hc
  | resize | takeEvents | takeReplies => exact ⟨h.awaits, h.lastPrinted⟩

/-- **A run prints no character below space**, nor the one above the tilde. -/
theorem of_mem_trace (h : e.Sayable) {inputs : List Input} {c : Char}
    (hc : .print c ∈ e.trace inputs) : isSayable c = true := by
  induction inputs generalizing e with
  | nil => cases hc
  | cons input rest ih =>
    rcases List.mem_append.mp hc with hc | hc
    · cases input with
      | append bytes =>
        exact isAsked_of_mem_actionsTrace (e := { e with parser := (e.parser.feed bytes).1 })
          h.lastPrinted (says_feed h.awaits bytes).said hc
      | resize | reset => cases List.mem_singleton.mp hc
      | takeEvents | takeReplies => cases hc
    · exact ih (h.take input) hc

end Sayable

/-- **The cells stay printable exactly if no character taints one.** On a new emulator of
any size, whatever reaches it, the screens on the way are those of a run of operations;
no character below space is printed in it, nor the one above the tilde; and every cell of
these screens holds nothing, or a character of one or two columns with marks that take
none and no control character, exactly if no character of three columns is printed, and
no control character behind a cell that has a content. -/
theorem along_printable_iff (cols rows capacity : Nat) (inputs : List Input) :
    let e := initial cols rows capacity
    (e.takeAll inputs).screen = e.screen.performAll (e.trace inputs) ∧
      (∀ c, .print c ∈ e.trace inputs → isSayable c = true) ∧
      (e.screen.Along Printable (e.trace inputs) ↔
        e.screen.EachStep (fun s op => s.taints op = false) (e.trace inputs)) := by
  intro e
  have hw : e.screen.WellFormed := wellFormed_initial cols rows capacity
  refine ⟨screen_takeAll_eq hw inputs, fun c hc => ?_, ?_⟩
  · exact (sayable_initial cols rows capacity).of_mem_trace hc
  · exact along_iff_eachStep (fun _ op hs => hs.perform op)
      (fun _ op hs hprintable => hprintable.perform_iff hs op) hw
      (.initial cols rows capacity) _

/-- A letter, and the control character that a line is ended with in one of the sets of
eight bits, in its two bytes. -/
theorem control_joins_character :
    let e := (initial 4 1 0).append [0x61, 0xC2, 0x85]
    (e.screen.cell? 0 0).map (·.content) = some "a\u0085" ∧ ¬ e.screen.Printable := by
  decide +kernel

end Teletype.Emulator

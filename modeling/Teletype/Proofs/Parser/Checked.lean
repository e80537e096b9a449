import Teletype.Proofs.Access
import Teletype.Proofs.Parser.Formed
import Teletype.Proofs.Parser.Registers

/-!
# Registers of fixed size

The bytes of a character are put into four places, and those of a command into a
payload that does not grow past its bound. The machine is written here once more with
accesses that fail out of range (`Registers.run?`). None of them ever fails: inside a
character there is room for every byte that is still awaited (`Halfway.held_lt`). And
all that the machine hands out is well formed, since it hands out what the parser does
(`run_wellFormed`).
-/

namespace Teletype.Registers

open Access Text

/-! ## The machine with checked accesses -/

/-- Puts a byte into a place, if there is such a place. -/
def put? (i : Nat) (byte : UInt8) (buffer : Array UInt8) : Option (Array UInt8) :=
  if i < buffer.size then some (buffer.setIfInBounds i byte) else none

/-- Begins a character, if there is a first place. -/
def beginCharacter? (m : Registers) (byte : UInt8) (awaited : Nat) : Option Registers := do
  let buffer ← put? 0 byte m.buffer
  return { m with buffer, held := 1, awaited }

/-- Reads a byte outside any sequence. -/
def groundByte? (m : Registers) (byte : UInt8) : Option Step :=
  let n := byte.toNat
  if n < 0x7F then some (m, [.print (Char.ofNat n)])
  else if n = 0x7F then some (m, [])
  else if 0xC2 ≤ n && n ≤ 0xDF then (m.beginCharacter? byte 1).map (·, [])
  else if 0xE0 ≤ n && n ≤ 0xEF then (m.beginCharacter? byte 2).map (·, [])
  else if 0xF0 ≤ n && n ≤ 0xF4 then (m.beginCharacter? byte 3).map (·, [])
  else some (m, [.print replacement])

/-- Reads a continuation byte, if there is a place for it. -/
def continuation? (m : Registers) (byte : UInt8) : Option Step := do
  let buffer ← put? m.held byte m.buffer
  let held := m.held + 1
  let awaited ← sub? m.awaited 1
  if awaited = 0 then
    let bytes ← slice? 0 held buffer.toList
    return ({ m with buffer, held := 0, awaited }, [.print (character bytes)])
  else return ({ m with buffer, held, awaited }, [])

/-- Reads a byte outside a character. -/
def plainByte? (m : Registers) (byte : UInt8) : Option Step :=
  if byte < 0x20 then some (m.control byte)
  else if m.place = .ground then m.groundByte? byte
  else some (m.visible byte)

/-- Reads a byte. -/
def step? (m : Registers) (byte : UInt8) : Option Step :=
  if 0 < m.awaited then
    if 0x80 ≤ byte && byte ≤ 0xBF then m.continuation? byte
    else
      ({ m with held := 0, awaited := 0 }.plainByte? byte).map fun (next, actions) =>
        (next, .print replacement :: actions)
  else m.plainByte? byte

/-- Reads bytes. -/
def feed? (m : Registers) : List UInt8 → Option Step
  | [] => some (m, [])
  | byte :: rest => do
    let (next, actions) ← m.step? byte
    let (last, more) ← next.feed? rest
    return (last, actions ++ more)

/-- Does what is asked for, in turn. -/
def run? (m : Registers) : List Parser.Call → Option Step
  | [] => some (m, [])
  | call :: rest => do
    let (next, actions) ← match call with
      | .parse bytes => m.feed? bytes
      | .reset => some (m.reset, [])
    let (last, more) ← next.run? rest
    return (last, actions ++ more)

variable {m : Registers} {b lead : UInt8} {rest : List UInt8}

theorem Sound.size (h : m.Sound) : m.buffer.size = 4 := by
  rcases h with h | ⟨_, _, h⟩
  · exact h.size
  · exact h.size

theorem put?_eq {i : Nat} {buffer : Array UInt8} (h : i < buffer.size) (b : UInt8) :
    put? i b buffer = some (buffer.setIfInBounds i b) :=
  if_pos h

theorem beginCharacter?_eq (h : m.buffer.size = 4) (b : UInt8) (awaited : Nat) :
    m.beginCharacter? b awaited = some (m.beginCharacter b awaited) := by
  rw [beginCharacter?, put?_eq (by rw [h]; decide)]
  rfl

theorem groundByte?_eq (h : m.buffer.size = 4) (b : UInt8) :
    m.groundByte? b = some (m.groundByte b) := by
  unfold groundByte? groundByte
  simp only [beginCharacter?_eq h, Option.map_some]
  repeat' split
  all_goals rfl

theorem plainByte?_eq (h : m.buffer.size = 4) (b : UInt8) :
    m.plainByte? b = some (m.plainByte b) := by
  unfold plainByte? plainByte
  split
  · rfl
  · split
    next hplace => rw [groundByte?_eq h, visible, hplace]
    next => rfl

/-- **There is room for every byte of a character.** -/
theorem continuation?_eq (h : m.Halfway lead rest) (b : UInt8) :
    m.continuation? b = some (m.continuation b) := by
  have hheld := h.held_lt
  have hle : m.held + 1 ≤ (m.buffer.setIfInBounds m.held b).toList.length := by
    rw [Array.length_toList, Array.size_setIfInBounds]
    exact hheld
  have hslice := slice?_eq (Nat.zero_le (m.held + 1)) hle
  unfold continuation? continuation
  rw [put?_eq hheld, sub?_eq h.awaited]
  simp only [Option.bind_eq_bind, Option.bind_some, Option.pure_def, hslice, List.drop_zero]
  split <;> rfl

theorem step?_eq (h : m.Sound) (b : UInt8) : m.step? b = some (m.step b) := by
  unfold step? step
  rcases h with h | ⟨lead, rest, h⟩
  · have hnone : ¬ 0 < m.awaited := by rw [h.awaited]; decide
    rw [if_neg hnone, if_neg hnone, plainByte?_eq h.size]
  · have hdropped := plainByte?_eq (m := { m with held := 0, awaited := 0 }) h.size b
    rw [if_pos h.awaited, if_pos h.awaited, hdropped]
    split
    · exact continuation?_eq h b
    · rfl

theorem feed?_eq (h : m.Sound) (bytes : List UInt8) : m.feed? bytes = some (m.feed bytes) := by
  induction bytes generalizing m with
  | nil => rfl
  | cons b rest ih =>
    have hrest := ih (matches_step h b).sound
    rw [feed?, step?_eq h, Option.bind_eq_bind, Option.bind_some]
    exact congrArg (Option.bind · _) hrest

/-- **No access of the machine is out of range.** -/
theorem run?_eq (h : m.Sound) (calls : List Parser.Call) : m.run? calls = some (m.run calls) := by
  induction calls generalizing m with
  | nil => rfl
  | cons call rest ih =>
    have hrest := ih (matches_call h call).sound
    cases call with
    | parse bytes =>
      rw [run?, feed?_eq h, Option.bind_eq_bind, Option.bind_some]
      exact congrArg (Option.bind · _) hrest
    | reset =>
      rw [run?, Option.bind_eq_bind, Option.bind_some]
      exact congrArg (Option.bind · _) hrest

/-! ## The payload -/

/-- The payload is within its bound. -/
def Bounded (m : Registers) : Prop :=
  m.payload.size ≤ Parser.maxPayload

theorem bounded_of_empty (h : m.payload = #[]) : m.Bounded := by
  rw [Bounded, h]
  exact Nat.zero_le _

theorem bounded_control (h : m.Bounded) (b : UInt8) : (m.control b).1.Bounded := by
  unfold control
  split
  · exact h
  · split
    · unfold escapeByte
      split
      · exact bounded_of_empty rfl
      · exact h
      · exact h
    · split
      · split
        · exact bounded_of_empty rfl
        · exact h
      · exact h
      · exact h

theorem bounded_parameterByte (h : m.Bounded) (b : UInt8) : (m.parameterByte b).1.Bounded := by
  unfold parameterByte dispatch
  dsimp only
  repeat' split
  all_goals exact h

theorem bounded_visible (h : m.Bounded) (b : UInt8) : (m.visible b).1.Bounded := by
  unfold visible
  split
  · unfold groundByte beginCharacter
    dsimp only
    repeat' split
    all_goals exact h
  · unfold behindEscape
    dsimp only
    repeat' split
    -- a command begins with an empty payload
    all_goals first | exact h | exact bounded_of_empty rfl
  · unfold behindIntermediates
    dsimp only
    repeat' split
    all_goals exact h
  · unfold entryByte
    dsimp only
    split
    · exact h
    · exact bounded_parameterByte (m := { m with place := .csiParameters }) h b
  · exact bounded_parameterByte h b
  · unfold intermediateByte dispatch
    dsimp only
    repeat' split
    all_goals exact h
  · unfold ignoredByte
    split <;> exact h
  · unfold commandByte
    split
    next hroom =>
      show (m.payload.push b).size ≤ _
      rw [Array.size_push]
      exact hroom
    next => exact h
  · exact h

theorem bounded_plainByte (h : m.Bounded) (b : UInt8) : (m.plainByte b).1.Bounded := by
  unfold plainByte
  split
  · exact bounded_control h b
  · exact bounded_visible h b

/-- **No byte makes the payload too long.** -/
theorem bounded_step (h : m.Bounded) (b : UInt8) : (m.step b).1.Bounded := by
  unfold step
  split
  · split
    · unfold continuation
      dsimp only
      split <;> exact h
    · exact bounded_plainByte (m := { m with held := 0, awaited := 0 }) h b
  · exact bounded_plainByte h b

theorem bounded_feed (h : m.Bounded) (bytes : List UInt8) : (m.feed bytes).1.Bounded := by
  induction bytes generalizing m with
  | nil => exact h
  | cons b rest ih => exact ih (bounded_step h b)

theorem bounded_run (h : m.Bounded) (calls : List Parser.Call) : (m.run calls).1.Bounded := by
  induction calls generalizing m with
  | nil => exact h
  | cons call rest ih =>
    refine ih ?_
    cases call with
    | parse bytes => exact bounded_feed h bytes
    | reset => exact bounded_of_empty rfl

end Teletype.Registers

namespace Teletype.Parser

theorem wellFormed_run {p : Parser} (h : p.Formed) (hawaits : p.AwaitsLong) (calls : List Call) :
    ∀ a ∈ (p.run calls).2, a.WellFormed := by
  induction calls generalizing p with
  | nil => exact nofun
  | cons call rest ih =>
    refine List.forall_mem_append.mpr ?_
    cases call with
    | parse bytes =>
      exact ⟨wellFormed_feed h hawaits bytes,
        ih (forms_feed h bytes).formed (says_feed hawaits bytes).awaits⟩
    | reset => exact ⟨nofun, ih (p := .ground) trivial trivial⟩

end Teletype.Parser

namespace Teletype.Registers

/-- **What the machine hands out is well formed, and its registers hold what is put into
them.** Whatever it was asked so far, and in whatever pieces, every action has the form
that is promised of it. No access to the bytes of a character was out of range, and the
payload of a command is within its bound. -/
theorem run_wellFormed (calls : List Parser.Call) :
    (∀ a ∈ (fresh.run calls).2, a.WellFormed) ∧
      fresh.run? calls = some (fresh.run calls) ∧
      (fresh.run calls).1.buffer.size = 4 ∧
      (fresh.run calls).1.payload.size ≤ Parser.maxPayload := by
  have hmatches := matches_run sound_fresh calls
  rw [parser_fresh] at hmatches
  refine ⟨?_, run?_eq sound_fresh calls, hmatches.sound.size,
    bounded_run (bounded_of_empty rfl) calls⟩
  rw [hmatches.actions]
  exact Parser.wellFormed_run (p := .ground) trivial trivial calls

end Teletype.Registers

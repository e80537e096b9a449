import Teletype.Parser
import Teletype.Proofs.Parser.CommandText
import Teletype.Proofs.Text.Utf8

/-!
# Commands in a stream

Where the parser stands inside a command is told by the bytes of its payload alone
(`collected`): it keeps the first 65536 of them and knows whether there were more. A
terminator ends the payload (`feed_command`), and the command is the text that was
kept, or nothing if some of it was not.

So a command that is sent as one of its texts is read back, and what follows is read
as if nothing had been before (`feed_sendable`).
-/

namespace Teletype

open Text

namespace Parser

/-- The ways of ending a command: `BEL`, and `ESC \`. -/
def terminators : List (List UInt8) :=
  [[0x07], [0x1B, 0x5C]]

/-- Where a parser stands behind these bytes of a command. -/
def collected (payload : List UInt8) : Parser :=
  .command (payload.take maxPayload).toArray (decide (maxPayload < payload.length))

/-- What a command of these bytes comes to. -/
def commandOf (payload : List UInt8) : List Action :=
  if payload.length ≤ maxPayload then (Osc.ofBytes? payload).toList.map .osc else []

variable {payload bytes ending : List UInt8} {b : UInt8}

/-! ## Collecting -/

/-- **A byte from space on is one more byte of the payload.** -/
theorem step_collected (hb : 0x20 ≤ b.toNat) (payload : List UInt8) :
    (collected payload).step b = (collected (payload ++ [b]), []) := by
  have hstep : (collected payload).step b = commandByte (payload.take maxPayload).toArray
      (decide (maxPayload < payload.length)) b := plainByte_visible hb _
  have hlength : (payload ++ [b]).length = payload.length + 1 := List.length_append
  rw [hstep, commandByte, List.size_toArray, List.length_take]
  rcases Nat.lt_or_ge payload.length maxPayload with hroom | hfull
  · have hkept : (payload ++ [b]).take maxPayload = payload ++ [b] :=
      List.take_of_length_le (by omega)
    rw [if_pos (by omega), List.push_toArray, List.take_of_length_le (by omega), collected, hkept,
      hlength, decide_eq_false (by omega), decide_eq_false (by omega)]
  · rw [if_neg (by omega), collected, List.take_append_of_le_length hfull, hlength,
      decide_eq_true (by omega)]

theorem feed_collected (h : ∀ b ∈ bytes, 0x20 ≤ b.toNat) (payload : List UInt8) :
    (collected payload).feed bytes = (collected (payload ++ bytes), []) := by
  induction bytes generalizing payload with
  | nil => rw [List.append_nil, feed_nil]
  | cons b rest ih =>
    obtain ⟨hb, hrest⟩ := List.forall_mem_cons.mp h
    rw [feed_cons, step_collected hb, ih hrest, List.append_assoc]
    rfl

/-! ## The end of a command -/

theorem closeCommand_collected (payload : List UInt8) :
    closeCommand (payload.take maxPayload).toArray (decide (maxPayload < payload.length)) =
      commandOf payload := by
  unfold closeCommand commandOf
  rcases Nat.lt_or_ge maxPayload payload.length with hlong | hfits
  · rw [decide_eq_true hlong, if_pos rfl, if_neg (Nat.not_le.mpr hlong)]
  · rw [decide_eq_false (Nat.not_lt.mpr hfits), if_neg Bool.false_ne_true, if_pos hfits,
      List.take_of_length_le hfits]
    cases Osc.ofBytes? payload with
    | none => rfl
    | some osc => rfl

/-- **Both terminators leave nothing half read.** -/
theorem feed_terminator (h : ending ∈ terminators) (payload : List UInt8) :
    (collected payload).feed ending = (.ground, commandOf payload) := by
  rcases List.mem_cons.mp h with rfl | h
  · have hbell : (collected payload).step 0x07 = (.ground, closeCommand
        (payload.take maxPayload).toArray (decide (maxPayload < payload.length))) := rfl
    rw [feed_cons, hbell, feed_nil, closeCommand_collected, List.append_nil]
  · have hescape : (collected payload).step 0x1B = (.escape true, closeCommand
        (payload.take maxPayload).toArray (decide (maxPayload < payload.length))) := rfl
    have hend : (escape true).feed [0x5C] = (.ground, []) := rfl
    rw [List.mem_singleton.mp h, feed_cons, hescape, hend, closeCommand_collected,
      List.append_nil]

/-- **A command comes to what its payload says**, whatever bytes from space on it is. -/
theorem feed_command (hpayload : ∀ b ∈ payload, 0x20 ≤ b.toNat) (hending : ending ∈ terminators) :
    ground.feed ([0x1B, 0x5D] ++ payload ++ ending) = (.ground, commandOf payload) := by
  have hbegin : ground.feed [0x1B, 0x5D] = (collected [], []) := rfl
  rw [List.append_assoc, feed_append, hbegin, feed_append, feed_collected hpayload,
    List.nil_append, feed_terminator hending]
  rfl

/-! ## Commands that were sent -/

theorem le_of_mem_encode {text : List Char} (h : Osc.IsVisible text)
    (hb : b ∈ Utf8.encode (String.ofList text)) : 0x20 ≤ b.toNat := by
  rw [Utf8.encode, String.toList_ofList] at hb
  obtain ⟨c, hc, hmem⟩ := List.mem_flatMap.mp hb
  exact Utf8.le_of_mem_encodeChar (h c hc) hmem

theorem commandOf_encode {o : Osc} {text : List Char} (ho : o.IsDistinct) (h : text ∈ o.texts) :
    commandOf (Utf8.encode (String.ofList text)) =
      if (Utf8.encode (String.ofList text)).length ≤ maxPayload then [.osc o] else [] := by
  have hread : Osc.ofBytes? (Utf8.encode (String.ofList text)) = some o := by
    rw [Osc.ofBytes?, Utf8.decode_encode, String.toList_ofList, Osc.ofText?_of_mem_texts ho h]
  rw [commandOf, hread]
  rfl

/-- **A command is read back as it was sent**, by any of its texts and with either
terminator, if its payload is not too long; a longer one comes to nothing. What follows
is read as if nothing had been before. -/
theorem feed_sendable {o : Osc} (ho : o.IsSendable) {text : List Char} (htext : text ∈ o.texts)
    {ending : List UInt8} (hending : ending ∈ terminators) :
    let payload := Utf8.encode (String.ofList text)
    let command := [0x1B, 0x5D] ++ payload ++ ending
    let read := if payload.length ≤ 65536 then [Action.osc o] else []
    ground.feed command = (.ground, read) ∧
      ∀ rest, ground.feed (command ++ rest) =
        ((ground.feed rest).1, read ++ (ground.feed rest).2) := by
  intro payload command read
  have hvisible : ∀ b ∈ payload, 0x20 ≤ b.toNat :=
    fun b hb => le_of_mem_encode (Osc.isVisible_of_mem_texts ho.visible htext) hb
  have hcommand : ground.feed command = (.ground, read) := by
    rw [feed_command hvisible hending, commandOf_encode ho.distinct htext]
    rfl
  refine ⟨hcommand, fun rest => ?_⟩
  rw [feed_append, hcommand]

/-- A color of the palette, its name in three digits, and a letter behind it. -/
theorem feed_sendable_color :
    (Osc.setColor [(1, "#f00")]).IsSendable ∧
      "4;1;#f00".toList ∈ (Osc.setColor [(1, "#f00")]).texts ∧ [0x1B, 0x5C] ∈ terminators ∧
      ground.feed ([0x1B, 0x5D] ++ Utf8.encode "4;1;#f00" ++ [0x1B, 0x5C] ++ [0x41]) =
        (.ground, [.osc (.setColor [(1, "#f00")]), .print 'A']) := by
  have hsendable : (Osc.setColor [(1, "#f00")]).IsSendable := by decide
  have htext : "4;1;#f00".toList ∈ (Osc.setColor [(1, "#f00")]).texts := by decide
  have hending : [0x1B, 0x5C] ∈ terminators := by decide
  exact ⟨hsendable, htext, hending, (feed_sendable hsendable htext hending).2 [0x41]⟩

end Parser

end Teletype

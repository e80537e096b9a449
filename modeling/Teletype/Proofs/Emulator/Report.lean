import Teletype.Proofs.Emulator.Alternate
import Teletype.Proofs.Parser.Numbers
import Teletype.Proofs.Screen.Printing

/-!
# The report of the cursor, sent back

A program asks where the cursor is (`positionRequest`) and is told a row and a
column in decimal, both counted from 1. Sent back with an `H` at the end
(`addressing`) the two numbers go to a position. The report counts rows from the
first one, whatever the modes. The position counts them from the top margin in
origin mode, and ends at the bottom one. So in origin mode the way back leads to
where the cursor is only from the last row of the region, or from anywhere in a
region that begins on the first row; otherwise it always does
(`report_leads_back_iff`).
-/

namespace Teletype

namespace Screen

variable {s : Screen}

/-! ## The position of the cursor -/

/-- **Going to where the cursor is** changes no column, and no row but in origin
mode, where rows are counted from another one. -/
theorem moveTo_cursor (h : s.WellFormed) :
    (s.moveTo s.cursor.row s.cursor.col).cursor.col = s.cursor.col ∧
      ((s.moveTo s.cursor.row s.cursor.col).cursor.row = s.cursor.row ↔
        s.cursor.originMode = false ∨ s.cursor.row = s.bottom ∨
          s.top = 0 ∧ s.cursor.row ≤ s.bottom) := by
  have hcol := h.col_lt
  have hrow := h.row_lt
  constructor
  · show min s.cursor.col (s.cols - 1) = s.cursor.col
    omega
  · show (if s.cursor.originMode then min (s.top + s.cursor.row) s.bottom
      else min s.cursor.row (s.rows - 1)) = s.cursor.row ↔ _
    cases s.cursor.originMode with
    | false =>
      rw [if_neg Bool.false_ne_true]
      exact ⟨fun _ => .inl rfl, fun _ => by omega⟩
    | true =>
      rw [if_pos rfl, or_iff_right Bool.true_eq_false.mp]
      omega

end Screen

/-! ## Sequences of numbers -/

/-- A control sequence of numbers, as it is sent. -/
def numberedSequence (numbers : List Nat) (final : UInt8) : List UInt8 :=
  Emulator.introducer ++ ([0x3B].intercalate (numbers.map decimalBytes) ++ [final])

namespace Emulator

open Screen Csi

variable {e : Emulator} {numbers : List Nat} {final : UInt8}

/-- The emulator once an `ESC` has cut short what was half read. -/
def cutShort (e : Emulator) : Emulator :=
  e.applyAll e.parser.cutShort

/-- Nothing is told because something is cut short. -/
theorem replies_cutShort (e : Emulator) : e.cutShort.replies = e.replies := by
  unfold cutShort
  rcases e.parser.cutShort_cases with ⟨-, hcut⟩ | ⟨-, hcut | ⟨command, hcut⟩⟩
  · rw [hcut]
    simp only [applyAll, List.foldl_cons, List.foldl_nil, apply]
  · rw [hcut]
    rfl
  · obtain ⟨title, palette, events, heq⟩ := e.exists_command_eq command
    have hdone : e.applyAll [.osc command] = e.command command := rfl
    rw [hcut, hdone, heq]

/-- **A sequence is carried out, whatever stood before it.** -/
theorem append_text (e : Emulator) (t : CsiText) (hfinal : isFinal final = true) :
    e.append (introducer ++ (t.body ++ [final])) =
      (e.cutShort.csi (t.spelled final)).withParser .ground := by
  have hfeed : e.parser.feed (introducer ++ (t.body ++ [final])) =
      (.ground, e.parser.cutShort ++ [.csi (t.spelled final)]) := by
    rw [feed_introduced, Parser.feed_text _ hfinal]
  rw [append_eq, hfeed, applyAll_append, settled, ite_self]
  rfl

theorem append_numberedSequence (e : Emulator) (numbers : List Nat)
    (hfinal : isFinal final = true) :
    e.append (numberedSequence numbers final) =
      (e.cutShort.csi ((CsiText.numbered numbers).spelled final)).withParser .ground := by
  rw [numberedSequence, ← CsiText.body_numbered, append_text e _ hfinal]

/-- A number that is not 0 is not taken for one that was not sent. -/
theorem paramOr_of_ne_zero {c : Csi} {index n : Nat} (hn : n < 65535) {default : UInt16}
    (h : c.param index 0 = UInt16.ofNat (n + 1)) : (c.paramOr index default).toNat - 1 = n := by
  have hvalue : (UInt16.ofNat (n + 1)).toNat = n + 1 :=
    UInt16.toNat_ofNat_of_lt' (Nat.succ_lt_succ hn)
  have hne : c.param index 0 ≠ 0 := by
    rw [h]
    intro hzero
    rw [hzero] at hvalue
    cases hvalue
  rw [paramOr, if_neg hne, h, hvalue, Nat.add_sub_cancel]

/-- To a position, counted from 1. -/
theorem csi_position {row col : Nat} (hrow : row < 65535) (hcol : col < 65535) :
    e.csi ((CsiText.numbered [row + 1, col + 1]).spelled 0x48) =
      e.mapScreen (·.moveTo row col) := by
  have hsizes : ∀ n ∈ [row + 1, col + 1], n ≤ 65535 :=
    List.forall_mem_cons.mpr ⟨hrow, List.forall_mem_cons.mpr ⟨hcol, List.forall_mem_nil _⟩⟩
  have hlength : [row + 1, col + 1].length ≤ maxParameters := Nat.le_add_left 2 30
  have hparams := CsiText.params_spelled_numbered (List.cons_ne_nil _ _) hlength hsizes 0x48
  show e.mapScreen (·.moveTo _ _) = _
  rw [paramOr_of_ne_zero hrow, paramOr_of_ne_zero hcol]
  · rw [Csi.param, hparams]
    rfl
  · rw [Csi.param, hparams]
    rfl

/-! ## Asking -/

/-- Asks where the cursor is, `CSI 6 n`. -/
def positionRequest : List UInt8 := [0x1B, 0x5B, 0x36, 0x6E]

/-- The report of the cursor is a sequence of numbers too. -/
theorem encode_cursorReport (c : Cursor) :
    Text.Utf8.encode (cursorReport c) = numberedSequence [c.row + 1, c.col + 1] 0x52 := by
  have hbegin : Text.Utf8.encode "\x1b[" = introducer := by decide
  have hsemicolon : Text.Utf8.encode ";" = [0x3B] := by decide
  have hend : Text.Utf8.encode "R" = [0x52] := by decide
  simp only [cursorReport, numberedSequence, Text.Utf8.encode_append, encode_toString, hbegin,
    hsemicolon, hend, List.map_cons, List.map_nil, List.intercalate_cons_cons,
    List.intercalate_singleton, List.append_assoc]

theorem append_positionRequest (e : Emulator) :
    e.append positionRequest =
      (e.cutShort.reply (cursorReport e.screenCutShort.cursor)).withParser .ground := by
  have hbytes : positionRequest = numberedSequence [6] 0x6E := by decide
  have hspelled : (CsiText.numbered [6]).spelled 0x6E =
      { params := [6], subparams := [false], final := 0x6E } := by
    decide +kernel
  rw [hbytes, append_numberedSequence e [6] rfl, hspelled, ← screen_applyAll_cutShort]
  rfl

/-- A report of the cursor as a sequence that goes to a position: an `H` stands
for the `R` at its end. -/
def addressing (report : List UInt8) : List UInt8 :=
  report.dropLast ++ [0x48]

theorem addressing_numberedSequence (numbers : List Nat) (final : UInt8) :
    addressing (numberedSequence numbers final) = numberedSequence numbers 0x48 := by
  rw [addressing, numberedSequence, ← List.append_assoc, List.dropLast_concat, List.append_assoc]
  rfl

/-- Where nothing is half read, the numbers of a report are a position to go to. -/
theorem screen_addressing {c : Cursor} (hground : e.parser = .ground) (hrow : c.row < 65535)
    (hcol : c.col < 65535) :
    (e.append (addressing (Text.Utf8.encode (cursorReport c)))).screen =
      e.screen.moveTo c.row c.col := by
  have hcut : e.cutShort = e := by
    rw [cutShort, hground]
    rfl
  rw [encode_cursorReport, addressing_numberedSequence, append_numberedSequence e _ rfl, hcut,
    csi_position hrow hcol]
  rfl

theorem size_screenCutShort (e : Emulator) :
    e.screenCutShort.cols = e.screen.cols ∧ e.screenCutShort.rows = e.screen.rows := by
  unfold screenCutShort
  split
  · exact size_print _ _
  · exact ⟨rfl, rfl⟩

/-! ## The way back -/

/-- **A report of the cursor leads back to it exactly where both count rows
alike, or the region ends.** After any inputs, on a screen of at most 65535
columns and rows: asking appends the report of the cursor to what is told, and does
nothing to the screen but that a character half read is replaced. The report sent
back goes to where the cursor is. So it always finds its column. It finds its row
exactly if origin mode is off, or the cursor is on the last row of the region, or
the region begins on the first row and the cursor is not below it. -/
theorem report_leads_back_iff (cols rows capacity : Nat) (inputs : List Input) :
    let reached := (initial cols rows capacity).takeAll inputs
    let asked := reached.append positionRequest
    let report := asked.replies.drop reached.replies.length
    let back := asked.append (addressing report)
    let cursor := asked.screen.cursor
    reached.screen.cols ≤ 65535 → reached.screen.rows ≤ 65535 →
      (reached.parser.inCharacter = false → asked.screen = reached.screen) ∧
      asked.replies = reached.replies ++ report ∧
      report = Text.Utf8.encode (cursorReport cursor) ∧
      back.screen = asked.screen.moveTo cursor.row cursor.col ∧
      back.screen.cursor.col = cursor.col ∧
      (back.screen.cursor.row = cursor.row ↔
        cursor.originMode = false ∨ cursor.row = asked.screen.bottom ∨
          asked.screen.top = 0 ∧ cursor.row ≤ asked.screen.bottom) := by
  intro reached asked report back cursor hcols hrows
  have hreached : reached.screen.WellFormed :=
    (takeAll?_eq (wellFormed_initial cols rows capacity) inputs).2
  have hasked : asked =
      (reached.cutShort.reply (cursorReport reached.screenCutShort.cursor)).withParser .ground :=
    append_positionRequest reached
  have hscreen : asked.screen = reached.screenCutShort := by
    rw [hasked, ← screen_applyAll_cutShort]
    rfl
  have hwell : asked.screen.WellFormed := hscreen ▸ wellFormed_screenCutShort hreached
  have hreplies : asked.replies = reached.replies ++ Text.Utf8.encode (cursorReport cursor) := by
    show _ = reached.replies ++ Text.Utf8.encode (cursorReport asked.screen.cursor)
    rw [hscreen, hasked, ← replies_cutShort reached]
    rfl
  have hreport : report = Text.Utf8.encode (cursorReport cursor) := by
    show asked.replies.drop reached.replies.length = _
    rw [hreplies, List.drop_left]
  have hback : back.screen = asked.screen.moveTo cursor.row cursor.col := by
    obtain ⟨hsameCols, hsameRows⟩ := size_screenCutShort reached
    have hcol : cursor.col < 65535 := by
      refine Nat.lt_of_lt_of_le hwell.col_lt ?_
      rwa [hscreen, hsameCols]
    have hrow : cursor.row < 65535 := by
      refine Nat.lt_of_lt_of_le hwell.row_lt ?_
      rwa [hscreen, hsameRows]
    show (asked.append (addressing report)).screen = _
    rw [hreport]
    exact screen_addressing (congrArg parser hasked) hrow hcol
  obtain ⟨hfindsCol, hfindsRow⟩ := moveTo_cursor hwell
  rw [hback]
  refine ⟨fun hout => ?_, hreport ▸ hreplies, hreport, rfl, hfindsCol, hfindsRow⟩
  rw [hscreen, screenCutShort, hout]
  rfl

/-- In origin mode on the last row of a region, with numbers of two digits: the
report is `CSI 10 ; 12 R`, and `CSI 10 ; 12 H` finds the row again. -/
theorem report_leads_back_on_last_row :
    let reached := (initial 12 11 0).takeAll [.append
      [0x1B, 0x5B, 0x34, 0x3B, 0x31, 0x30, 0x72, 0x1B, 0x5B, 0x3F, 0x36, 0x68,
        0x1B, 0x5B, 0x37, 0x3B, 0x31, 0x32, 0x48]]
    let asked := reached.append positionRequest
    let report := asked.replies.drop reached.replies.length
    let back := asked.append (addressing report)
    reached.screen.cols ≤ 65535 ∧ reached.screen.rows ≤ 65535 ∧
      asked.screen.cursor.originMode = true ∧ asked.screen.top = 3 ∧
      report = [0x1B, 0x5B, 0x31, 0x30, 0x3B, 0x31, 0x32, 0x52] ∧
      back.screen.cursor.row = asked.screen.cursor.row ∧
      back.screen.cursor.col = asked.screen.cursor.col := by
  intro reached asked report back
  have hcols : reached.screen.cols ≤ 65535 := by decide +kernel
  have hrows : reached.screen.rows ≤ 65535 := by decide +kernel
  have hbottom : asked.screen.cursor.row = asked.screen.bottom := by decide +kernel
  obtain ⟨-, -, -, -, hcol, hrow⟩ := report_leads_back_iff 12 11 0 _ hcols hrows
  have horigin : asked.screen.cursor.originMode = true ∧ asked.screen.top = 3 := by decide +kernel
  have hreport : report = [0x1B, 0x5B, 0x31, 0x30, 0x3B, 0x31, 0x32, 0x52] := by decide +kernel
  refine ⟨hcols, hrows, horigin.1, horigin.2, hreport, ?_, ?_⟩
  -- reducible, so that no screen is computed where two are compared
  · with_reducible exact hrow.mpr (.inr (.inl hbottom))
  · with_reducible exact hcol

/-- In origin mode on the first row of the region from the second row to the
third: the report is `CSI 2 ; 1 R`, and `CSI 2 ; 1 H` goes to the third row. -/
theorem report_leads_astray :
    let reached := (initial 4 3 0).takeAll [.append
      [0x1B, 0x5B, 0x32, 0x3B, 0x33, 0x72, 0x1B, 0x5B, 0x3F, 0x36, 0x68]]
    let asked := reached.append positionRequest
    let report := asked.replies.drop reached.replies.length
    let back := asked.append (addressing report)
    reached.screen.cols ≤ 65535 ∧ reached.screen.rows ≤ 65535 ∧
      reached.parser.inCharacter = false ∧ reached.screen.cursor.originMode = true ∧
      reached.screen.inMargins = true ∧ asked.screen = reached.screen ∧
      report = [0x1B, 0x5B, 0x32, 0x3B, 0x31, 0x52] ∧
      reached.screen.cursor.row = 1 ∧ back.screen.cursor.row = 2 := by
  decide +kernel

end Emulator

end Teletype

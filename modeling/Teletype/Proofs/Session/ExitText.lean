import Teletype.Session
import Teletype.Proofs.Parser.Plain

/-!
# The line about the end

How the child ended is told by plain text, which goes through the parser that
read what the child printed. Where the child left nothing half read the text is
typed out as it is. Behind anything half read it is taken for the rest of that:
there is no state but the ground in which it always comes out
(`exit_typed_iff`).
-/

namespace Teletype

/-! ## The text -/

/-- What the text says in between of how the child ended. -/
def exitReason (code : Int) : String :=
  if 0 < code then " (code " ++ toString code ++ ")"
  else if code < 0 then " (signal " ++ toString (-code) ++ ")"
  else ""

theorem exitDescription_eq (code : Int) : exitDescription code =
    "\r\n[Process completed" ++ exitReason code ++ " - press Enter]" := rfl

theorem isPlain_of_all {text : String} {c : Char} (hall : text.toList.all Text.isPlain = true)
    (h : c ∈ text.toList) : Text.isPlain c = true :=
  List.all_eq_true.mp hall c h

theorem isPlain_of_mem_exitReason {code : Int} {c : Char} (h : c ∈ (exitReason code).toList) :
    Text.isPlain c = true := by
  have hdigits : ∀ n : Int, 0 < n → c ∈ (toString n).toList → Text.isPlain c = true := by
    intro n hn hc
    obtain ⟨m, rfl⟩ := Int.eq_ofNat_of_zero_le (Int.le_of_lt hn)
    exact isPlain_of_mem_toString hc
  unfold exitReason at h
  split at h
  next hpos =>
    simp only [String.toList_append, List.mem_append] at h
    rcases h with (h | h) | h
    · exact isPlain_of_all (by decide : (" (code ".toList).all Text.isPlain = true) h
    · exact hdigits code hpos h
    · exact isPlain_of_all (by decide : (")".toList).all Text.isPlain = true) h
  next =>
    split at h
    next hneg =>
      simp only [String.toList_append, List.mem_append] at h
      rcases h with (h | h) | h
      · exact isPlain_of_all (by decide : (" (signal ".toList).all Text.isPlain = true) h
      · exact hdigits (-code) (by omega) h
      · exact isPlain_of_all (by decide : (")".toList).all Text.isPlain = true) h
    next => cases h

/-- **The text about the end is plain**, whatever the code. -/
theorem isPlain_of_mem_exitDescription {code : Int} {c : Char}
    (h : c ∈ (exitDescription code).toList) : Text.isPlain c = true := by
  rw [exitDescription_eq, String.toList_append, String.toList_append, List.mem_append,
    List.mem_append] at h
  rcases h with (h | h) | h
  · exact isPlain_of_all (by decide : ("\r\n[Process completed".toList).all Text.isPlain = true) h
  · exact isPlain_of_mem_exitReason h
  · exact isPlain_of_all (by decide : (" - press Enter]".toList).all Text.isPlain = true) h

namespace Emulator

/-- What decides how plain text comes out. -/
def reading (e : Emulator) : Screen × Parser :=
  (e.screen, e.parser)

variable {e f : Emulator} {text : String}

/-- Where nothing is half read, plain text is typed out. -/
theorem screen_append_plain (hground : e.parser = .ground)
    (h : ∀ c ∈ text.toList, Text.isPlain c = true) :
    (e.append (Text.Utf8.encode text)).screen = e.screen.typeOut text.toList := by
  rw [append_eq, encode_plain h, hground, feed_plain h]
  exact screen_applyAll_typed e _

end Emulator

namespace Session

open Emulator

/-- The emulator once it has taken in all that the child printed. -/
def afterOutput? (s : Session) : Option Emulator :=
  s.emulator.map fun e => (s.fromChild.drain chunkSize).2.foldl append e

/-! ## What is told apart from the screen -/

theorem reading_dispatchEvents (s : Session) :
    s.dispatchEvents.1.emulator.map reading = s.emulator.map reading := by
  unfold dispatchEvents
  split
  next h => rw [h]
  next h => rw [h]; rfl

theorem emulator_send (s : Session) (w : ByteQueue.Writing) :
    (s.send w).emulator = s.emulator := by
  unfold send
  split <;> rfl

theorem emulator_write (s : Session) (bytes : List UInt8) :
    (s.write bytes).emulator = s.emulator := by
  unfold write
  split
  · exact emulator_send s _
  · rfl

/-- Taking in what the child printed shows it, and nothing else. -/
theorem reading_processInput (s : Session) :
    s.processInput.1.emulator.map reading = s.afterOutput?.map reading := by
  unfold processInput afterOutput?
  generalize s.fromChild.drain chunkSize = drained
  obtain ⟨fromChild, chunks⟩ := drained
  cases hs : s.emulator with
  | none => simp [hs]
  | some e =>
    cases chunks with
    | nil => simp [hs]
    | cons chunk chunks =>
      simp only [Step.andThen, notify, reading_dispatchEvents, emulator_write]
      rfl

/-- The text of `announce` comes to what its actions come to. -/
theorem screen_announce (s : Session) (text : String) :
    (s.announce text).1.emulator.map (·.screen) =
      s.emulator.map fun e => (e.append (Text.Utf8.encode text)).screen := by
  have hscreen : ∀ t : Session, t.dispatchEvents.1.emulator.map (·.screen) =
      t.emulator.map (·.screen) := by
    intro t
    have h := congrArg (Option.map Prod.fst) (reading_dispatchEvents t)
    rwa [Option.map_map, Option.map_map] at h
  unfold announce
  simp only [Step.andThen, notify, hscreen, Option.map_map]
  rfl

/-- **The end of the child on the screen**: what its output left there, and then
the text, fed to the parser. -/
theorem screen_handle_exit {s : Session} {e : Emulator} (code : Int)
    (hrunning : s.isRunning = true) (hout : s.processInput.1.emulator = some e) :
    (s.handle (.processExited code)).1.emulator.map (·.screen) =
      some (e.append (Text.Utf8.encode (exitDescription code))).screen := by
  have hhandle : (s.handle (.processExited code)).1 =
      ((s.processInput.1.close code).announce (exitDescription code)).1 := by
    rw [handle, if_pos hrunning]
    rfl
  have hclose : (s.processInput.1.close code).emulator = some e := hout
  rw [hhandle, screen_announce, hclose]
  rfl

end Session

/-! ## Behind something half read -/

section HalfRead

variable (e : Emulator)

/-- A control sequence that a bracket ends does nothing. -/
theorem csi_bracket {c : Csi} (h : c.final = 0x5B) : e.csi c = e := by
  have hcommand : c.command = '[' := by rw [Csi.command, h]; rfl
  have hplain : e.plainCsi c = e := by rw [Emulator.plainCsi, hcommand]; rfl
  have hprivate : e.privateCsi c = e := by rw [Emulator.privateCsi, hcommand]; rfl
  unfold Emulator.csi
  rw [hplain, hprivate, hcommand]
  cases c.marker with
  | none => simp
  | some marker => simp

/-- Nor does a short sequence. -/
theorem short_bracket (intermediates : List UInt8) :
    e.short (Parser.shortSequence intermediates 0x5B) = e := by
  match intermediates with
  | [] => rfl
  | [slot] =>
    have hseq : Parser.shortSequence [slot] 0x5B =
        if slot = 0x23 && '[' = '8' then .alignmentTest
        else if 0x28 ≤ slot && slot ≤ 0x2B then .designateCharset slot 0x5B
        else .unknown [slot, 0x5B] := rfl
    have hother : decide ('[' = '8') = false := rfl
    rw [hseq, hother, Bool.and_false, if_neg Bool.false_ne_true]
    split <;> rfl
  | _ :: _ :: _ => rfl

end HalfRead

/-- Where the beginning of a plain text ends what was half read, the rest of it
is typed out. -/
theorem Emulator.screen_append_behind {e : Emulator} {text : String} {read rest : List Char}
    {actions : List Action} (h : ∀ c ∈ text.toList, Text.isPlain c = true)
    (htext : text.toList = read ++ rest)
    (hfeed : e.parser.feed (plainBytes read) = (.ground, actions)) :
    (e.append (Text.Utf8.encode text)).screen = (e.applyAll actions).screen.typeOut rest := by
  have hrest : ∀ c ∈ rest, Text.isPlain c = true :=
    fun c hc => h c (htext ▸ List.mem_append_right read hc)
  have hbytes : plainBytes (read ++ rest) = plainBytes read ++ plainBytes rest := List.map_append
  rw [screen_append, encode_plain h, htext, hbytes, Parser.feed_append, hfeed, feed_plain hrest,
    applyAll_append]
  exact screen_applyAll_typed _ _

/-- A command takes in plain text. -/
theorem feed_command_plain {text : List Char} (h : ∀ c ∈ text, Text.isPlain c = true)
    (payload : Array UInt8) (overlong : Bool) :
    ((Parser.command payload overlong).feed (plainBytes text)).2 = [] := by
  induction text generalizing payload overlong with
  | nil => rfl
  | cons c rest ih =>
    obtain ⟨hc, hrest⟩ := List.forall_mem_cons.mp h
    have hstep : ∃ payload' overlong', (Parser.command payload overlong).step
        (UInt8.ofNat c.toNat) = (.command payload' overlong', []) := by
      rcases Text.isPlain_iff.mp hc with rfl | rfl | ⟨hlow, hhigh⟩
      · exact ⟨payload, overlong, rfl⟩
      · exact ⟨payload, overlong, rfl⟩
      · have hvisible : 0x20 ≤ (UInt8.ofNat c.toNat).toNat := by
          rw [Text.Utf8.toNat_ofNat_of_lt (by omega)]
          exact hlow
        show ∃ payload' overlong', Parser.plainByte _ _ = _
        rw [Parser.plainByte_visible hvisible]
        show ∃ payload' overlong', Parser.commandByte payload overlong _ = _
        unfold Parser.commandByte
        split
        · exact ⟨_, _, rfl⟩
        · exact ⟨_, _, rfl⟩
    obtain ⟨payload', overlong', hstep⟩ := hstep
    show ((Parser.command payload overlong).feed
      (UInt8.ofNat c.toNat :: plainBytes rest)).2 = []
    rw [Parser.feed_cons, hstep]
    exact ih hrest payload' overlong'

/-- An emulator with nothing on its screen and something half read. -/
def Emulator.leftAt (p : Parser) : Emulator :=
  { Emulator.initial 40 2 0 with parser := p }

/-- The first cells of the two rows of a screen. -/
def Screen.firstColumn (s : Screen) : List (Option String) :=
  [0, 1].map fun row => (s.cell? 0 row).map (·.content)

/-- What such an emulator shows of the text about a child that ended well. -/
def Parser.shownBehind (p : Parser) : List (Option String) :=
  ((Emulator.leftAt p).append (Text.Utf8.encode (exitDescription 0))).screen.firstColumn

/-- A string takes the text in. -/
theorem shownBehind_of_silent {p : Parser}
    (h : (p.feed (plainBytes (exitDescription 0).toList)).2 = []) :
    p.shownBehind = [some "", some ""] := by
  have hblank : (Screen.initial 40 2 0).firstColumn = [some "", some ""] := by decide +kernel
  rw [Parser.shownBehind, Emulator.screen_append,
    encode_plain fun _ => isPlain_of_mem_exitDescription]
  show ((Emulator.leftAt p).applyAll (p.feed _).2).screen.firstColumn = _
  rw [h]
  exact hblank

/-- Where the beginning of the text ends what was half read, the rest of it
shows. -/
theorem shownBehind_of_ends {p : Parser} {read : List Char} (rest : List Char)
    {actions : List Action}
    (htext : (exitDescription 0).toList = read ++ rest)
    (hfeed : p.feed (plainBytes read) = (.ground, actions)) :
    p.shownBehind = (((Emulator.leftAt p).applyAll actions).screen.typeOut rest).firstColumn := by
  have hread : (Emulator.leftAt p).parser = p := rfl
  rw [Parser.shownBehind, Emulator.screen_append_behind
    (fun _ => isPlain_of_mem_exitDescription) htext (hread ▸ hfeed)]

/-- The bracket ends a sequence. -/
theorem shownBehind_of_bracket {p : Parser} {actions : List Action}
    (hfeed : p.feed (plainBytes ['\r', '\n', '[']) =
      (.ground, typedAction '\r' :: typedAction '\n' :: actions))
    (hactions : ∀ f : Emulator, (f.applyAll actions).screen = f.screen) :
    p.shownBehind = [some "", some "P"] := by
  have hbegin : typedAction '\r' :: typedAction '\n' :: actions =
      ['\r', '\n'].map typedAction ++ actions := rfl
  rw [shownBehind_of_ends "Process completed - press Enter]".toList rfl hfeed, hbegin,
    Emulator.applyAll_append, hactions, screen_applyAll_typed]
  show (((Screen.initial 40 2 0).typeOut _).typeOut _).firstColumn = _
  decide +kernel

/-- Behind `ESC` the bracket begins a sequence, which the next letter ends. -/
theorem shownBehind_escape (endsString : Bool) :
    (Parser.escape endsString).shownBehind = [some "", some "r"] := by
  have hfeed : (Parser.escape endsString).feed (plainBytes ['\r', '\n', '[', 'P']) =
      (.ground, [typedAction '\r', typedAction '\n', .csi { final := 0x50 }]) := by
    cases endsString <;> rfl
  have hdelete : ∀ e : Emulator,
      (e.applyAll [typedAction '\r', typedAction '\n', .csi { final := 0x50 }]).screen =
        (e.screen.typeOut ['\r', '\n']).deleteChars 1 := fun _ => rfl
  rw [shownBehind_of_ends "rocess completed - press Enter]".toList rfl hfeed, hdelete]
  show ((((Screen.initial 40 2 0).typeOut _).deleteChars 1).typeOut _).firstColumn = _
  decide +kernel

/-- A character cut short shows before the text. -/
theorem shownBehind_character (bits left least : Nat) :
    (Parser.character bits left least).shownBehind = [some "\uFFFD", some "["] := by
  have hfeed : (Parser.character bits left least).feed (plainBytes ['\r']) =
      (.ground, [.print Text.replacement, typedAction '\r']) := rfl
  have hreplaced : ∀ e : Emulator,
      (e.applyAll [.print Text.replacement, typedAction '\r']).screen =
        (e.screen.print Text.replacement).carriageReturn := fun _ => rfl
  rw [shownBehind_of_ends "\n[Process completed - press Enter]".toList rfl hfeed,
    hreplaced]
  show ((((Screen.initial 40 2 0).print _).carriageReturn).typeOut _).firstColumn = _
  decide +kernel

/-- **Behind anything half read the text does not come out.** The bracket ends a
sequence, the text is swallowed, or a character cut short shows as well. -/
theorem shownBehind_ne {p : Parser} (h : p.isGround = false) :
    p.shownBehind ≠ [some "", some "["] := by
  have hplain : ∀ c ∈ (exitDescription 0).toList, Text.isPlain c = true :=
    fun _ => isPlain_of_mem_exitDescription
  have hended : ∀ actions : List Action,
      p.feed (plainBytes ['\r', '\n', '[']) =
        (.ground, typedAction '\r' :: typedAction '\n' :: actions) →
      (∀ f : Emulator, (f.applyAll actions).screen = f.screen) →
      p.shownBehind ≠ [some "", some "["] := by
    intro actions hfeed hactions
    rw [shownBehind_of_bracket hfeed hactions]
    decide
  cases p with
  | ground => cases h
  | character bits left least =>
    rw [shownBehind_character]
    decide
  | escape endsString =>
    rw [shownBehind_escape]
    decide
  | escapeIntermediate intermediates =>
    exact hended [.escape (Parser.shortSequence intermediates 0x5B)] rfl
      fun f => congrArg Emulator.screen (short_bracket f intermediates)
  | csiEntry => exact hended [.csi { final := 0x5B }] rfl fun f => rfl
  | csiParameters draft =>
    exact hended [.csi (draft.close.sequence 0x5B)] rfl
      fun f => congrArg Emulator.screen (csi_bracket f rfl)
  | csiIntermediates draft =>
    exact hended [.csi (draft.sequence 0x5B)] rfl
      fun f => congrArg Emulator.screen (csi_bracket f rfl)
  | csiIgnored => exact hended [] rfl fun f => rfl
  | command payload overlong =>
    rw [shownBehind_of_silent (feed_command_plain hplain payload overlong)]
    decide
  | skippedString =>
    rw [shownBehind_of_silent (by decide +kernel)]
    decide

namespace Session

/-- A session of a child that has stopped in the middle of something. -/
def leftAt (p : Parser) : Session :=
  { initial {} with state := .running 0, emulator := some (Emulator.leftAt p) }

theorem drain_leftAt (p : Parser) :
    (leftAt p).fromChild.drain chunkSize = ((leftAt p).fromChild, []) := by
  rw [ByteQueue.drain]
  exact dif_neg fun h => Nat.lt_irrefl 0 h.2.1

theorem afterOutput?_leftAt (p : Parser) : (leftAt p).afterOutput? = some (Emulator.leftAt p) := by
  unfold afterOutput?
  rw [drain_leftAt]
  rfl

theorem processInput_leftAt (p : Parser) : (leftAt p).processInput = (leftAt p, []) := by
  unfold processInput
  rw [drain_leftAt]
  rfl

/-- Behind something half read the end of the child does not come out as text. -/
theorem exit_leftAt_ne {p : Parser} (h : p.isGround = false) :
    ((leftAt p).handle (.processExited 0)).1.emulator.map (·.screen) ≠
      some ((Emulator.leftAt p).screen.typeOut (exitDescription 0).toList) := by
  have hout : (leftAt p).processInput.1.emulator = some (Emulator.leftAt p) := by
    rw [processInput_leftAt]
    rfl
  rw [screen_handle_exit 0 rfl hout]
  intro htyped
  refine shownBehind_ne h ?_
  rw [Parser.shownBehind, Option.some.inj htyped]
  show ((Screen.initial 40 2 0).typeOut _).firstColumn = _
  decide +kernel

/-- **The text about the end is typed out behind whatever output leaves the parser
at `p`, exactly if nothing is half read there.** -/
theorem exit_typed_iff (p : Parser) :
    (∀ (s : Session) (e : Emulator) (code : Int), s.isRunning = true →
      s.afterOutput? = some e → e.parser = p →
      (s.handle (.processExited code)).1.emulator.map (·.screen) =
        some (e.screen.typeOut (exitDescription code).toList)) ↔
    p.isGround = true := by
  constructor
  · intro htyped
    cases hground : p.isGround with
    | true => rfl
    | false =>
      exact absurd (htyped (leftAt p) (Emulator.leftAt p) 0 rfl (afterOutput?_leftAt p) rfl)
        (exit_leftAt_ne hground)
  · intro hground s e code hrunning hout hparser
    have hreading := reading_processInput s
    cases hf : s.processInput.1.emulator with
    | none =>
      rw [hf, hout] at hreading
      cases hreading
    | some f =>
      rw [hf, hout] at hreading
      obtain ⟨hscreen, hread⟩ := Prod.mk.inj (Option.some.inj hreading)
      have hnothing : f.parser = .ground := by
        rw [hread, hparser]
        cases p with
        | ground => rfl
        | _ => cases hground
      rw [screen_handle_exit code hrunning hf, Emulator.screen_append_plain hnothing
        fun _ => isPlain_of_mem_exitDescription, hscreen]

/-- A child that opens a command, `ESC ]`, and ends: the text about its end is
taken into the command. -/
theorem exit_swallowed_by_command :
    ¬ ∀ (s : Session) (e : Emulator), s.isRunning = true → s.afterOutput? = some e →
      e = (Emulator.initial 40 2 0).append [0x1B, 0x5D] →
      (s.handle (.processExited 0)).1.emulator.map (·.screen) =
        some (e.screen.typeOut (exitDescription 0).toList) := by
  intro h
  exact exit_leftAt_ne (p := .command #[] false) rfl
    (h (leftAt (.command #[] false)) _ rfl (afterOutput?_leftAt _) rfl)

end Session

end Teletype

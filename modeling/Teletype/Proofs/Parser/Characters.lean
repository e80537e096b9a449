import Teletype.KeyInput
import Teletype.Parser
import Teletype.Proofs.Text.Utf8

/-!
# Characters in a stream

Without an `ESC` a stream is characters and control characters, and all that can
be half read of it is a character. How much of that is to come is seen from the
last bytes alone (`missing`): the parser counts down from the first byte of the
character, and whatever is not a continuation byte ends it.

So the parser finds its way again after any garbage. The first byte of a key that
is typed continues nothing: a character that the garbage left half read is replaced
there, once, and every key behind it is read as the character it stands for
(`feed_keys`).
-/

namespace Teletype

namespace Text.Utf8

/-- How many bytes are to continue a character that begins with this one. -/
def continuationCount (b : UInt8) : Nat :=
  if 0xC2 ≤ b.toNat && b.toNat ≤ 0xDF then 1
  else if 0xE0 ≤ b.toNat && b.toNat ≤ 0xEF then 2
  else if 0xF0 ≤ b.toNat && b.toNat ≤ 0xF4 then 3
  else 0

/-- How many bytes are missing of the character that the bytes end in: those that
its first byte asks for, less the continuation bytes that there are. -/
def missing (bytes : List UInt8) : Nat :=
  match bytes.reverse.dropWhile isContinuation with
  | [] => 0
  | first :: _ => continuationCount first - (bytes.reverse.takeWhile isContinuation).length

/-- A byte continues what is missing, or begins anew. -/
theorem missing_concat (bytes : List UInt8) (b : UInt8) :
    missing (bytes ++ [b]) =
      if isContinuation b then missing bytes - 1 else continuationCount b := by
  unfold missing
  rw [List.reverse_append, List.reverse_singleton, List.singleton_append]
  by_cases hb : isContinuation b = true
  · rw [if_pos hb, List.dropWhile_cons_of_pos hb, List.takeWhile_cons_of_pos hb]
    cases bytes.reverse.dropWhile isContinuation with
    | nil => rfl
    | cons first rest => exact Nat.sub_add_eq ..
  · rw [if_neg hb, List.dropWhile_cons_of_neg hb, List.takeWhile_cons_of_neg hb]
    rfl

theorem continuationCount_of_lt {b : UInt8} (h : b.toNat < 0xC2) : continuationCount b = 0 := by
  simp only [continuationCount, Bool.and_eq_true, decide_eq_true_eq]
  rw [if_neg (by omega), if_neg (by omega), if_neg (by omega)]

end Text.Utf8

open Text Text.Utf8

namespace Parser

/-- Outside any sequence: between two characters or inside one. -/
def InText : Parser → Prop
  | .ground => True
  | .character _ left _ => 0 < left
  | _ => False

/-- How many bytes of a character are to come. -/
def pending : Parser → Nat
  | .character _ left _ => left
  | _ => 0

variable {p : Parser} {b : UInt8} {n : Nat} {c : Char}

/-! ## One byte -/

theorem continues_iff : (0x80 ≤ b && b ≤ 0xBF) = true ↔ isContinuation b = true := by
  rw [isContinuation_iff, Bool.and_eq_true, decide_eq_true_eq, decide_eq_true_eq,
    UInt8.le_iff_toNat_le, UInt8.le_iff_toNat_le]
  rfl

theorem step_continuation {bits left least : Nat} (h : isContinuation b = true) :
    (character bits left least).step b = continuation bits left least b :=
  if_pos (continues_iff.mpr h)

/-- A byte that does not continue a character ends it with a replacement. -/
theorem step_breaks {bits left least : Nat} (h : ¬ isContinuation b = true) :
    (character bits left least).step b =
      ((ground.plainByte b).1, .print replacement :: (ground.plainByte b).2) :=
  if_neg (mt continues_iff.mp h)

/-! ## What is half read -/

theorem pending_groundByte (b : UInt8) :
    (groundByte b).1.InText ∧ (groundByte b).1.pending = continuationCount b := by
  rcases Nat.lt_or_ge b.toNat 0x80 with hascii | hbeyond
  · rw [continuationCount_of_lt (by omega), groundByte]
    rcases Nat.lt_or_eq_of_le (Nat.le_of_lt_succ hascii) with hlt | heq
    · rw [if_pos hlt]
      exact ⟨trivial, rfl⟩
    · rw [if_neg (by omega), if_pos heq]
      exact ⟨trivial, rfl⟩
  · simp only [groundByte, continuationCount]
    rw [if_neg (by omega), if_neg (by omega)]
    split
    · exact ⟨Nat.one_pos, rfl⟩
    · split
      · exact ⟨Nat.two_pos, rfl⟩
      · split
        · exact ⟨Nat.succ_pos 2, rfl⟩
        · exact ⟨trivial, rfl⟩

/-- Between two characters a byte other than `ESC` begins no sequence. -/
theorem pending_plainByte (hb : b ≠ 0x1B) :
    (ground.plainByte b).1.InText ∧ (ground.plainByte b).1.pending = continuationCount b := by
  rcases Nat.lt_or_ge b.toNat 0x20 with hcontrol | hvisible
  · have hlt : b < 0x20 := UInt8.lt_iff_toNat_lt.mpr hcontrol
    rw [continuationCount_of_lt (by omega), plainByte, if_pos hlt]
    unfold control
    split
    · exact ⟨trivial, rfl⟩
    · exact ⟨trivial, rfl⟩
  · rw [plainByte_visible hvisible]
    exact pending_groundByte b

theorem pending_continuation {bits left least : Nat} :
    (continuation bits left least b).1.InText ∧
      (continuation bits left least b).1.pending = left - 1 := by
  unfold continuation
  dsimp only
  split
  next hlast => exact ⟨trivial, (Nat.sub_eq_zero_of_le hlast).symm⟩
  next hmore => exact ⟨Nat.sub_pos_of_lt (Nat.lt_of_not_le hmore), rfl⟩

/-- **What is to come is counted down**, or begins anew. -/
theorem pending_step (hp : p.InText) (hb : b ≠ 0x1B) :
    (p.step b).1.InText ∧ (p.step b).1.pending =
      if isContinuation b then p.pending - 1 else continuationCount b := by
  have hplain := pending_plainByte hb
  cases p with
  | ground =>
    show _ ∧ (ground.plainByte b).1.pending = _
    refine ⟨hplain.1, hplain.2.trans ?_⟩
    split
    next hcont =>
      have hrange := isContinuation_iff.mp hcont
      exact continuationCount_of_lt (by omega)
    next => rfl
  | character bits left least =>
    by_cases hcont : isContinuation b = true
    · rw [if_pos hcont, step_continuation hcont]
      exact pending_continuation
    · rw [if_neg hcont, step_breaks hcont]
      exact hplain
  | _ => exact hp.elim

/-- **A stream without `ESC` leaves half read what is missing of its last character.** -/
theorem pending_feed {bytes : List UInt8} (h : 0x1B ∉ bytes) :
    (ground.feed bytes).1.InText ∧ (ground.feed bytes).1.pending = missing bytes := by
  -- from the end, since that is where `missing` looks
  have hreverse : ∀ ends : List UInt8, 0x1B ∉ ends →
      (ground.feed ends.reverse).1.InText ∧
        (ground.feed ends.reverse).1.pending = missing ends.reverse := by
    intro ends
    induction ends with
    | nil => intro _; exact ⟨trivial, rfl⟩
    | cons b rest ih =>
      intro h
      obtain ⟨htext, hpending⟩ := ih (List.not_mem_of_not_mem_cons h)
      rw [List.reverse_cons, missing_concat, ← hpending, feed_append, feed_cons]
      exact pending_step htext (Ne.symm (List.ne_of_not_mem_cons h))
  have hbytes := hreverse bytes.reverse (fun hmem => h (List.mem_reverse.mp hmem))
  rwa [List.reverse_reverse] at hbytes

/-- **The first byte of a character ends what was half read**, and begins as it does
between two characters. -/
theorem feed_begins (hp : p.InText) (hb : ¬ isContinuation b = true) (rest : List UInt8) :
    p.feed (b :: rest) =
      ((ground.feed (b :: rest)).1,
        (if 0 < p.pending then [.print replacement] else []) ++ (ground.feed (b :: rest)).2) := by
  cases p with
  | ground => rfl
  | character bits left least =>
    have hleft : 0 < (character bits left least).pending := hp
    rw [if_pos hleft, feed_cons, feed_cons, step_breaks hb]
    rfl
  | _ => exact hp.elim

/-! ## Whole characters -/

theorem completed_of_least {least : Nat} (h : least ≤ c.toNat) : completed c.toNat least = c := by
  rw [completed, if_neg (Nat.not_lt.mpr h), scalar?_toNat, Option.getD_some]

/-- **The bytes that continue a character complete it.** -/
theorem feed_continuations (k n least : Nat) :
    (character (above (k + 1) n) (k + 1) least).feed (continuations (k + 1) n) =
      (.ground, [.print (completed n least)]) := by
  have hbits : ∀ k, above (k + 1) n * 64 + (0x80 + above k n % 64 - 0x80) = above k n := by
    intro k
    rw [Nat.add_sub_cancel_left, above_continuation]
  have hcont : ∀ k, isContinuation (UInt8.ofNat (0x80 + above k n % 64)) = true :=
    fun k => isContinuation_of_mem (k := k + 1) List.mem_cons_self
  induction k with
  | zero =>
    rw [continuations, feed_cons, step_continuation (hcont 0), continuation, toNat_continuation,
      hbits, if_pos (Nat.le_refl 1)]
    rfl
  | succ k ih =>
    rw [continuations, feed_cons, step_continuation (hcont _), continuation, toNat_continuation,
      hbits, if_neg (by omega), Nat.add_sub_cancel, ih, List.nil_append]

theorem groundByte_ascii (h : c.toNat < 0x7F) :
    groundByte (UInt8.ofNat c.toNat) = (.ground, [.print c]) := by
  rw [groundByte, toNat_ofNat_of_lt (by omega), if_pos h, Char.ofNat_toNat]

theorem groundByte_lead {f : Form} (hleast : f.least ≤ n) (hlimit : n < f.limit) :
    groundByte (f.lead n) = (.character (above f.count n) f.count f.least, []) := by
  have hlead := toNat_lead hlimit
  simp only [groundByte, Bool.and_eq_true, decide_eq_true_eq]
  cases f with
  | two =>
    change 0x80 ≤ n at hleast
    change n < 0x800 at hlimit
    change (Form.two.lead n).toNat = 0xC0 + above 1 n at hlead
    have hbits := above_one n
    rw [if_neg (by omega), if_neg (by omega), if_pos (by omega), hlead, Nat.add_sub_cancel_left]
    rfl
  | three =>
    change n < 0x10000 at hlimit
    change (Form.three.lead n).toNat = 0xE0 + above 2 n at hlead
    have hbits := above_two n
    rw [if_neg (by omega), if_neg (by omega), if_neg (by omega), if_pos (by omega), hlead,
      Nat.add_sub_cancel_left]
    rfl
  | four =>
    change n < 0x110000 at hlimit
    change (Form.four.lead n).toNat = 0xF0 + above 3 n at hlead
    have hbits := above_three n
    rw [if_neg (by omega), if_neg (by omega), if_neg (by omega), if_neg (by omega),
      if_pos (by omega), hlead, Nat.add_sub_cancel_left]
    rfl

/-- **A character is read as what it is.** -/
theorem feed_encodeChar (h : 0x20 ≤ c.toNat ∧ c.toNat ≠ 0x7F) :
    ground.feed (String.utf8EncodeChar c) = (.ground, [.print c]) := by
  obtain ⟨b, rest, hfirst, -⟩ := exists_first c
  have hvisible : 0x20 ≤ b.toNat :=
    le_of_mem_encodeChar h.1 (hfirst ▸ List.mem_cons_self)
  have hstep : ground.step b = groundByte b := plainByte_visible hvisible ground
  rcases Nat.lt_or_ge c.toNat 0x80 with hascii | hbeyond
  · obtain ⟨rfl, rfl⟩ := List.cons.inj ((encodeChar_ascii hascii).symm.trans hfirst)
    rw [hfirst, feed_cons, hstep, groundByte_ascii (by omega)]
    rfl
  · obtain ⟨f, hleast, hlimit, hbytes⟩ := exists_form hbeyond
    obtain ⟨rfl, rfl⟩ := List.cons.inj (hbytes.symm.trans hfirst)
    obtain ⟨k, hcount⟩ : ∃ k, f.count = k + 1 := by cases f <;> exact ⟨_, rfl⟩
    rw [hfirst, feed_cons, hstep, groundByte_lead hleast hlimit, hcount, feed_continuations,
      completed_of_least hleast]
    rfl

theorem feed_characters {chars : List Char} (h : ∀ c ∈ chars, 0x20 ≤ c.toNat ∧ c.toNat ≠ 0x7F) :
    ground.feed (chars.flatMap String.utf8EncodeChar) = (.ground, chars.map .print) := by
  induction chars with
  | nil => rfl
  | cons c rest ih =>
    obtain ⟨hc, hrest⟩ := List.forall_mem_cons.mp h
    rw [List.flatMap_cons, feed_append, feed_encodeChar hc, ih hrest]
    rfl

/-! ## Keys -/

theorem encode_toNat (c : Char) :
    KeyInput.encode false c.toNat = .ok (String.utf8EncodeChar c) := by
  simp [KeyInput.encode, scalar?_toNat, Text.Utf8.encode]

theorem encode_eq_error_iff {escape : Bool} :
    (∃ e, KeyInput.encode escape n = .error e) ↔ ¬ ∃ c : Char, c.toNat = n := by
  unfold KeyInput.encode
  constructor
  · rintro ⟨e, he⟩ ⟨c, rfl⟩
    rw [scalar?_toNat] at he
    cases he
  · intro hnone
    cases hscalar : scalar? n with
    | some c => exact absurd ⟨c, toNat_of_scalar? hscalar⟩ hnone
    | none => exact ⟨_, rfl⟩

/-- **Keys are read behind anything.** Whatever bytes without `ESC` were read, the keys
typed behind them come to one character each and leave nothing half read; in front of
them stands one replacement exactly if bytes were missing of a character. Every number
that is the code point of a character has a key, and no other has one. -/
theorem feed_keys :
    (∀ (garbage : List UInt8) (values : List Char), 0x1B ∉ garbage → values ≠ [] →
      (∀ c ∈ values, 0x20 ≤ c.toNat ∧ c.toNat ≠ 0x7F) →
      ∃ keys, values.mapM (fun c => KeyInput.encode false c.toNat) = .ok keys ∧
        ground.feed (garbage ++ keys.flatten) =
          (.ground, (ground.feed garbage).2 ++
            (if 0 < missing garbage then [.print replacement] else []) ++ values.map .print)) ∧
    ∀ (escape : Bool) (n : Nat),
      (∃ e, KeyInput.encode escape n = .error e) ↔ ¬ ∃ c : Char, c.toNat = n := by
  refine ⟨fun garbage values hgarbage hne hvalues => ?_, fun _ _ => encode_eq_error_iff⟩
  have hkeys : values.mapM (fun c => KeyInput.encode false c.toNat) =
      .ok (values.map String.utf8EncodeChar) := by
    simp only [encode_toNat]
    exact List.mapM_pure
  refine ⟨_, hkeys, ?_⟩
  obtain ⟨c, rest, rfl⟩ := List.exists_cons_of_ne_nil hne
  obtain ⟨b, bs, hfirst, hbreaks⟩ := exists_first c
  obtain ⟨htext, hpending⟩ := pending_feed hgarbage
  have hread := feed_characters hvalues
  rw [← List.flatMap_def, feed_append]
  rw [List.flatMap_cons, hfirst, List.cons_append] at hread ⊢
  rw [feed_begins htext hbreaks, hread, hpending, List.append_assoc]

/-- Two keys behind the first two of the three bytes of `€`. -/
theorem feed_keys_behind_half :
    (0x1B : UInt8) ∉ [0xE2, 0x82] ∧ ['é', 'x'] ≠ [] ∧
      (∀ c ∈ ['é', 'x'], 0x20 ≤ c.toNat ∧ c.toNat ≠ 0x7F) ∧
      ∃ keys, ['é', 'x'].mapM (fun c => KeyInput.encode false c.toNat) = .ok keys ∧
        ground.feed ([0xE2, 0x82] ++ keys.flatten) =
          (.ground, [.print replacement, .print 'é', .print 'x']) := by
  have hvalues : ∀ c ∈ ['é', 'x'], 0x20 ≤ c.toNat ∧ c.toNat ≠ 0x7F :=
    List.forall_mem_cons.mpr ⟨by decide, List.forall_mem_singleton.mpr (by decide)⟩
  exact ⟨by decide, by decide, hvalues,
    feed_keys.1 [0xE2, 0x82] ['é', 'x'] (by decide) (by decide) hvalues⟩

end Parser

end Teletype

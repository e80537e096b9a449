import Teletype.Text.Utf8

/-!
# Reading what was written

The bytes of a character are a first one, which holds the highest bits and says how
many bytes follow, and continuation bytes of six bits each (`exists_form`). A
reader that takes them in turn has at each of them the bits down to its place, so
it ends up with the whole number. The decoder also keeps the second byte of a
character to a range that depends on the first one; what was written is always in
that range (`exists_start`), so decoding gives back what was encoded
(`decode_encode`).
-/

namespace Teletype.Text.Utf8

/-- Whether a byte continues a character. -/
def isContinuation (b : UInt8) : Bool :=
  0x80 ≤ b.toNat && b.toNat ≤ 0xBF

/-- A number without its lowest groups of six bits. -/
def above : Nat → Nat → Nat
  | 0, n => n
  | k + 1, n => above k n / 64

/-- The lowest groups of six bits in continuation bytes. -/
def continuations : Nat → Nat → List UInt8
  | 0, _ => []
  | k + 1, n => UInt8.ofNat (0x80 + above k n % 64) :: continuations k n

/-- The ways of writing a character in more than one byte. -/
inductive Form where
  | two
  | three
  | four

namespace Form

/-- How many bytes continue the character. -/
def count : Form → Nat
  | two => 1
  | three => 2
  | four => 3

/-- The mark of the form in the first byte. -/
def mark : Form → Nat
  | two => 0xC0
  | three => 0xE0
  | four => 0xF0

/-- The least code point that is written so. -/
def least : Form → Nat
  | two => 0x80
  | three => 0x800
  | four => 0x10000

/-- The least code point beyond those that are written so. -/
def limit : Form → Nat
  | two => 0x800
  | three => 0x10000
  | four => 0x110000

/-- The first byte of a code point. -/
def lead (f : Form) (n : Nat) : UInt8 :=
  UInt8.ofNat (f.mark + above f.count n)

/-- The bytes of a code point. -/
def bytes (f : Form) (n : Nat) : List UInt8 :=
  f.lead n :: continuations f.count n

end Form

variable {b : UInt8} {n : Nat} {f : Form}

/-! ## Groups of six bits -/

/-- A continuation byte brings the next six bits. -/
theorem above_continuation (k n : Nat) : above (k + 1) n * 64 + above k n % 64 = above k n :=
  Nat.div_add_mod' (above k n) 64

theorem above_one (n : Nat) : above 1 n = n / 64 := rfl

theorem above_two (n : Nat) : above 2 n = n / 4096 := Nat.div_div_eq_div_mul n 64 64

theorem above_three (n : Nat) : above 3 n = n / 262144 := by
  show above 2 n / 64 = _
  rw [above_two, Nat.div_div_eq_div_mul]

/-! ## Bytes -/

theorem isContinuation_iff : isContinuation b = true ↔ 0x80 ≤ b.toNat ∧ b.toNat ≤ 0xBF := by
  simp [isContinuation]

theorem toNat_ofNat_of_lt (h : n < 256) : (UInt8.ofNat n).toNat = n := by
  rw [UInt8.toNat_ofNat']
  exact Nat.mod_eq_of_lt h

theorem toNat_continuation (k n : Nat) :
    (UInt8.ofNat (0x80 + above k n % 64)).toNat = 0x80 + above k n % 64 := by
  have hbits : above k n % 64 < 64 := Nat.mod_lt _ (by decide)
  exact toNat_ofNat_of_lt (by omega)

theorem isContinuation_of_mem {k : Nat} (h : b ∈ continuations k n) : isContinuation b = true := by
  induction k with
  | zero => cases h
  | succ k ih =>
    rcases List.mem_cons.mp h with rfl | h
    · have hbits : above k n % 64 < 64 := Nat.mod_lt _ (by decide)
      rw [isContinuation_iff, toNat_continuation]
      omega
    · exact ih h

theorem toNat_lead (h : n < f.limit) : (f.lead n).toNat = f.mark + above f.count n := by
  refine toNat_ofNat_of_lt ?_
  cases f with
  | two =>
    show 0xC0 + above 1 n < 256
    have : n < 0x800 := h
    rw [above_one]
    omega
  | three =>
    show 0xE0 + above 2 n < 256
    have : n < 0x10000 := h
    rw [above_two]
    omega
  | four =>
    show 0xF0 + above 3 n < 256
    have : n < 0x110000 := h
    rw [above_three]
    omega

/-! ## Characters -/

theorem encode_append (s t : String) : encode (s ++ t) = encode s ++ encode t := by
  rw [encode, String.toList_append, List.flatMap_append]
  rfl

theorem encodeChar_ascii {c : Char} (h : c.toNat < 0x80) :
    String.utf8EncodeChar c = [UInt8.ofNat c.toNat] :=
  if_pos (Nat.le_of_lt_succ h)

/-- **Every character beyond ASCII is written in one of the forms.** -/
theorem exists_form {c : Char} (h : 0x80 ≤ c.toNat) :
    ∃ f : Form, f.least ≤ c.toNat ∧ c.toNat < f.limit ∧
      String.utf8EncodeChar c = f.bytes c.toNat := by
  have hvalid : c.toNat < 0x110000 := by
    rcases c.valid with hlow | ⟨-, hhigh⟩
    · exact Nat.lt_trans hlow (by decide)
    · exact hhigh
  unfold String.utf8EncodeChar
  unfold Char.toNat at h hvalid ⊢
  generalize c.val.toNat = n at h hvalid
  dsimp only
  rw [if_neg (by omega)]
  rcases Nat.lt_or_ge n 0x800 with htwo | htwo
  · have hbytes : Form.two.bytes n =
        [UInt8.ofNat (0xC0 + above 1 n), UInt8.ofNat (0x80 + n % 64)] := rfl
    have hlead : n / 64 % 32 + 192 = 0xC0 + above 1 n := by rw [above_one]; omega
    refine ⟨.two, h, htwo, ?_⟩
    rw [if_pos (by omega), hlead, Nat.add_comm (n % 64), hbytes]
  · rw [if_neg (by omega)]
    rcases Nat.lt_or_ge n 0x10000 with hthree | hthree
    · have hbytes : Form.three.bytes n = [UInt8.ofNat (0xE0 + above 2 n),
          UInt8.ofNat (0x80 + n / 64 % 64), UInt8.ofNat (0x80 + n % 64)] := rfl
      have hlead : n / 4096 % 16 + 224 = 0xE0 + above 2 n := by rw [above_two]; omega
      refine ⟨.three, htwo, hthree, ?_⟩
      rw [if_pos (by omega), hlead, Nat.add_comm (n / 64 % 64), Nat.add_comm (n % 64), hbytes]
    · have hbytes : Form.four.bytes n = [UInt8.ofNat (0xF0 + above 3 n),
          UInt8.ofNat (0x80 + above 2 n % 64), UInt8.ofNat (0x80 + n / 64 % 64),
          UInt8.ofNat (0x80 + n % 64)] := rfl
      have hlead : n / 262144 % 8 + 240 = 0xF0 + above 3 n := by rw [above_three]; omega
      refine ⟨.four, hthree, hvalid, ?_⟩
      rw [if_neg (by omega), hlead, ← above_two, Nat.add_comm (above 2 n % 64),
        Nat.add_comm (n / 64 % 64), Nat.add_comm (n % 64), hbytes]

theorem le_toNat_lead (h : n < f.limit) : 0xC0 ≤ (f.lead n).toNat := by
  have hmark : 0xC0 ≤ f.mark := by cases f <;> decide
  rw [toNat_lead h]
  exact Nat.le_add_right_of_le hmark

/-- A character begins with a byte that continues nothing. -/
theorem exists_first (c : Char) :
    ∃ b rest, String.utf8EncodeChar c = b :: rest ∧ ¬ isContinuation b = true := by
  rcases Nat.lt_or_ge c.toNat 0x80 with hascii | hbeyond
  · refine ⟨_, [], encodeChar_ascii hascii, ?_⟩
    rw [isContinuation_iff, toNat_ofNat_of_lt (by omega)]
    omega
  · obtain ⟨f, -, hlimit, hbytes⟩ := exists_form hbeyond
    have hlead := le_toNat_lead hlimit
    refine ⟨_, _, hbytes, ?_⟩
    rw [isContinuation_iff]
    omega

/-- No byte of a character from space on is a control character. -/
theorem le_of_mem_encodeChar {c : Char} (hc : 0x20 ≤ c.toNat)
    (hb : b ∈ String.utf8EncodeChar c) : 0x20 ≤ b.toNat := by
  rcases Nat.lt_or_ge c.toNat 0x80 with hascii | hbeyond
  · rw [encodeChar_ascii hascii] at hb
    rw [List.mem_singleton.mp hb, toNat_ofNat_of_lt (by omega)]
    exact hc
  · obtain ⟨f, -, hlimit, hbytes⟩ := exists_form hbeyond
    rw [hbytes] at hb
    rcases List.mem_cons.mp hb with rfl | hb
    · have hlead := le_toNat_lead hlimit
      omega
    · have hrange := isContinuation_iff.mp (isContinuation_of_mem hb)
      omega

/-! ## Decoding -/

theorem decodeFrom_cons (p : Option Partial) (text : String) (b : UInt8) (rest : List UInt8) :
    decodeFrom (p, text) (b :: rest) =
      decodeFrom ((step p b).1, (step p b).2.foldl String.push text) rest := rfl

/-- Where a continuation byte is welcome it brings its bits. -/
theorem step_continuation {k low high : Nat}
    (hlow : low ≤ 0x80 + above k n % 64) (hhigh : 0x80 + above k n % 64 ≤ high) :
    step (some ⟨above (k + 1) n, k + 1, low, high⟩) (UInt8.ofNat (0x80 + above k n % 64)) =
      if k = 0 then (none, [Char.ofNat n]) else (some ⟨above k n, k, 0x80, 0xBF⟩, []) := by
  have hbits : above (k + 1) n * 64 + (0x80 + above k n % 64 - 0x80) = above k n := by
    rw [Nat.add_sub_cancel_left, above_continuation]
  have hrange : (low ≤ 0x80 + above k n % 64 && 0x80 + above k n % 64 ≤ high) = true := by
    rw [Bool.and_eq_true, decide_eq_true_eq, decide_eq_true_eq]
    exact ⟨hlow, hhigh⟩
  simp only [step, toNat_continuation, hrange, if_true, hbits]
  cases k with
  | zero => rfl
  | succ k => simp

/-- **The bytes that continue a character complete it.** -/
theorem decodeFrom_continuations {k low high : Nat} (text : String)
    (hlow : low ≤ 0x80 + above k n % 64) (hhigh : 0x80 + above k n % 64 ≤ high) :
    decodeFrom (some ⟨above (k + 1) n, k + 1, low, high⟩, text) (continuations (k + 1) n) =
      (none, text.push (Char.ofNat n)) := by
  induction k generalizing low high with
  | zero =>
    rw [continuations, decodeFrom_cons, step_continuation hlow hhigh, if_pos rfl]
    rfl
  | succ k ih =>
    have hbits : above k n % 64 < 64 := Nat.mod_lt _ (by decide)
    rw [continuations, decodeFrom_cons, step_continuation hlow hhigh, if_neg (Nat.succ_ne_zero k)]
    exact ih (by omega) (by omega)

/-- The first byte of a character is read as such, and its second one is in the
range that it allows. -/
theorem exists_start (hvalid : n.isValidChar) (hleast : f.least ≤ n) (hlimit : n < f.limit) :
    ∃ k low high, f.count = k + 1 ∧
      start (f.lead n).toNat = (some ⟨above f.count n, f.count, low, high⟩, []) ∧
      low ≤ 0x80 + above k n % 64 ∧ 0x80 + above k n % 64 ≤ high := by
  rw [toNat_lead hlimit]
  have hone := above_one n
  cases f with
  | two =>
    change 0x80 ≤ n at hleast
    change n < 0x800 at hlimit
    refine ⟨0, 0x80, 0xBF, rfl, ?_, by omega, by omega⟩
    show start (0xC0 + above 1 n) = (some ⟨above 1 n, 1, 0x80, 0xBF⟩, [])
    rw [start, if_neg (by omega), if_neg (by omega), if_pos (by omega), Nat.add_sub_cancel_left]
  | three =>
    change 0x800 ≤ n at hleast
    change n < 0x10000 at hlimit
    have hbits := above_two n
    -- the ranges that keep out the overlong forms and the surrogates
    by_cases hoverlong : above 2 n = 0
    · refine ⟨1, 0xA0, 0xBF, rfl, ?_, by omega, by omega⟩
      show start (0xE0 + above 2 n) = (some ⟨above 2 n, 2, 0xA0, 0xBF⟩, [])
      rw [hoverlong]
      rfl
    · by_cases hsurrogate : above 2 n = 0xD
      · have hbelow : n < 0xD800 := by
          rcases hvalid with hbelow | ⟨habove, -⟩
          · exact hbelow
          · omega
        refine ⟨1, 0x80, 0x9F, rfl, ?_, by omega, by omega⟩
        show start (0xE0 + above 2 n) = (some ⟨above 2 n, 2, 0x80, 0x9F⟩, [])
        rw [hsurrogate]
        rfl
      · refine ⟨1, 0x80, 0xBF, rfl, ?_, by omega, by omega⟩
        show start (0xE0 + above 2 n) = (some ⟨above 2 n, 2, 0x80, 0xBF⟩, [])
        rw [start, if_neg (by omega), if_neg (by omega), if_neg (by omega), if_neg (by omega),
          if_neg (by omega), if_pos (by omega), Nat.add_sub_cancel_left]
  | four =>
    change 0x10000 ≤ n at hleast
    change n < 0x110000 at hlimit
    have hnext := above_two n
    have hbits := above_three n
    -- and those that keep out what is too large
    by_cases hoverlong : above 3 n = 0
    · refine ⟨2, 0x90, 0xBF, rfl, ?_, by omega, by omega⟩
      show start (0xF0 + above 3 n) = (some ⟨above 3 n, 3, 0x90, 0xBF⟩, [])
      rw [hoverlong]
      rfl
    · by_cases hlast : above 3 n = 4
      · refine ⟨2, 0x80, 0x8F, rfl, ?_, by omega, by omega⟩
        show start (0xF0 + above 3 n) = (some ⟨above 3 n, 3, 0x80, 0x8F⟩, [])
        rw [hlast]
        rfl
      · refine ⟨2, 0x80, 0xBF, rfl, ?_, by omega, by omega⟩
        show start (0xF0 + above 3 n) = (some ⟨above 3 n, 3, 0x80, 0xBF⟩, [])
        rw [start, if_neg (by omega), if_neg (by omega), if_neg (by omega), if_neg (by omega),
          if_neg (by omega), if_neg (by omega), if_neg (by omega), if_pos (by omega),
          Nat.add_sub_cancel_left]

theorem decodeFrom_encodeChar (c : Char) (text : String) :
    decodeFrom (none, text) (String.utf8EncodeChar c) = (none, text.push c) := by
  rcases Nat.lt_or_ge c.toNat 0x80 with hascii | hbeyond
  · have hstep : step none (UInt8.ofNat c.toNat) = (none, [c]) := by
      rw [step, toNat_ofNat_of_lt (by omega), start, if_pos hascii, Char.ofNat_toNat]
    rw [encodeChar_ascii hascii, decodeFrom_cons, hstep]
    rfl
  · obtain ⟨f, hleast, hlimit, hbytes⟩ := exists_form hbeyond
    obtain ⟨k, low, high, hcount, hstart, hlow, hhigh⟩ :=
      exists_start (n := c.toNat) c.valid hleast hlimit
    have hstep : step none (f.lead c.toNat) =
        (some ⟨above (k + 1) c.toNat, k + 1, low, high⟩, []) := hcount ▸ hstart
    have hrest := decodeFrom_continuations text hlow hhigh
    rw [Char.ofNat_toNat] at hrest
    rw [hbytes, Form.bytes, hcount, ← hrest, decodeFrom_cons, hstep]
    rfl

/-- **What was encoded is decoded again.** -/
theorem decode_encode (s : String) : decode (encode s) = s := by
  have hfrom : ∀ (chars : List Char) (text : String),
      decodeFrom (none, text) (chars.flatMap String.utf8EncodeChar) =
        (none, chars.foldl String.push text) := by
    intro chars
    induction chars with
    | nil => intro text; rfl
    | cons c rest ih =>
      intro text
      rw [List.flatMap_cons, decodeFrom_append, decodeFrom_encodeChar, ih, List.foldl_cons]
  have hpush : ∀ (chars : List Char) (text : String),
      (chars.foldl String.push text).toList = text.toList ++ chars := by
    intro chars
    induction chars with
    | nil => intro text; rw [List.foldl_nil, List.append_nil]
    | cons c rest ih =>
      intro text
      rw [List.foldl_cons, ih, String.toList_push, List.append_assoc, List.singleton_append]
  unfold decode encode
  rw [hfrom]
  exact String.toList_inj.mp (hpush s.toList "")

end Teletype.Text.Utf8

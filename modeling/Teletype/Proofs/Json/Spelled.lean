import Teletype.Json.Writer
import Teletype.Proofs.Json.Tokens

/-!
# What is written is read

A text spells tokens if scanning it in front of anything that ends a number comes to
scanning on behind these tokens (`Spells`). Both layouts of a value spell its tokens, so
whatever is written in either of them is read as the value that it was
(`parse?_compact`, `parse?_pretty`).
-/

namespace Teletype.Json

open Text

/-- Values as this library writes them: numbers are natural, and strings and keys are texts. -/
inductive Writable : Json → Prop
  | null : Writable .null
  | bool (b : Bool) : Writable (.bool b)
  | nat (n : Nat) : Writable (nat n)
  | text (s : String) : Writable (text s)
  | array {elements : List Json} (h : ∀ value ∈ elements, Writable value) :
    Writable (.array elements)
  | record {members : List (String × Json)} (h : ∀ member ∈ members, Writable member.2) :
    Writable (record members)

attribute [simp] Writable.null Writable.bool Writable.nat Writable.text Writable.record

theorem run?_singleton (s : Scan) (c : Char) : s.run? [c] = s.step? c := by
  simp [Scan.run?]

/-! ## Strings -/

/-- A number below space has two digits behind two zeros. -/
theorem digits_paddedHex (n : Fin 32) :
    (Numeral.paddedHex 4 n).toList.map Numeral.digit? =
      [some 0, some 0, some (n.val / 16), some (n.val % 16)] := by
  revert n
  decide +kernel

/-- Inside of a string, behind the text `value`. -/
def quoting (tokens : Array Token) (value : String) : Scan :=
  { tokens, place := .string { value := some value } }

/-- Four digits of a number below space are read as the character. -/
theorem run?_unit (tokens : Array Token) (value : String) {c : Char} (h : c.toNat < 0x20) :
    (quoting tokens value).run? ("\\u" ++ Numeral.paddedHex 4 c.toNat).toList =
      some (quoting tokens (value.push c)) := by
  have hdigits := digits_paddedHex ⟨c.toNat, h⟩
  simp only [List.map_eq_cons_iff, List.map_eq_nil_iff] at hdigits
  obtain ⟨d₀, _, htext, h₀, d₁, _, rfl, h₁, d₂, _, rfl, h₂, d₃, _, rfl, h₃, rfl⟩ := hdigits
  have hunit :
      StringDraft.pushUnit { part := .unit 3 (c.toNat / 16), value := some value } c.toNat =
        { value := some (value.push c) } := by
    rw [StringDraft.pushUnit, if_neg (by grind), if_neg (by grind), Char.ofNat_toNat]
    rfl
  rw [String.toList_append, htext]
  simp [Scan.run?, quoting, Scan.step?, Scan.inString?, StringDraft.afterBackslash?,
    StringDraft.addUnitDigit?, h₀, h₁, h₂, h₃, hunit, Nat.div_add_mod']

theorem run?_escape (tokens : Array Token) (value : String) (c : Char) :
    (quoting tokens value).run? (escape c).toList = some (quoting tokens (value.push c)) := by
  unfold escape
  -- seven characters have an escape of their own
  iterate 7
    split
    · subst_vars
      rfl
  split
  next h => exact run?_unit tokens value h
  next hquote hbackslash _ _ _ _ _ hcontrol =>
    have hstep : (quoting tokens value).step? c = some (quoting tokens (value.push c)) := by
      show (quoting tokens value).inString? { value := some value } c = _
      rw [Scan.inString?, if_neg hquote, if_neg hbackslash, if_neg hcontrol]
      rfl
    rw [Char.toString, String.toList_singleton]
    show ((quoting tokens value).step? c).bind _ = _
    rw [hstep]
    rfl

theorem run?_escapes (tokens : Array Token) (value : String) (text : List Char) :
    (quoting tokens value).run? (String.join (text.map escape)).toList =
      some (quoting tokens (value ++ String.ofList text)) := by
  induction text generalizing value with
  | nil => exact congrArg (fun v => some (quoting tokens v)) (String.append_empty).symm
  | cons c rest ih =>
    have hpush : value.push c ++ String.ofList rest = value ++ String.ofList (c :: rest) := by
      rw [← String.toList_inj]
      simp
    rw [List.map_cons, String.join_cons, String.toList_append, Scan.run?_append, run?_escape,
      Option.bind_some, ih, hpush]

/-- A text is read from between its quotes. -/
theorem run?_quoted (tokens : Array Token) (s : String) :
    Scan.run? { tokens } (quoted (some s)).toList =
      some { tokens := tokens.push (.string (some s)) } := by
  have hread := run?_escapes tokens "" s.toList
  rw [String.ofList_toList, String.empty_append] at hread
  rw [quoted, String.toList_append, String.toList_append, List.append_assoc]
  show (quoting tokens "").run? (_ ++ "\"".toList) = _
  rw [Scan.run?_append, hread]
  rfl

/-! ## Numbers -/

/-- Whether a number ends in front of the character. -/
def endsNumber (c : Char) : Bool :=
  isSpace c || c = ',' || c = ']' || c = '\x7d'

/-- Whether a number ends in front of the text. -/
def Delimits (rest : List Char) : Prop :=
  ∀ c ∈ rest.head?, endsNumber c = true

theorem delimits_cons {c : Char} (h : endsNumber c = true) (rest : List Char) :
    Delimits (c :: rest) := by
  rintro _ ⟨⟩
  exact h

theorem delimits_blanks {blanks rest : List Char} (hblanks : ∀ c ∈ blanks, isSpace c = true)
    (h : Delimits rest) : Delimits (blanks ++ rest) := by
  cases blanks with
  | nil => exact h
  | cons c others =>
    have hc : endsNumber c = true := by simp [endsNumber, hblanks c List.mem_cons_self]
    exact delimits_cons hc _

/-- A natural number that was read to its last digit. -/
def drafted (n : Nat) : NumberDraft :=
  { part := if n = 0 then .zero else .integer, significand := n }

theorem digit?_digitChar {n : Nat} (h : n < 10) : NumberDraft.digit? n.digitChar = some n := by
  have hall : ∀ n : Fin 10, NumberDraft.digit? (Nat.digitChar n) = some n.val := by decide
  exact hall ⟨n, h⟩

theorem begin?_digitChar (s : Scan) {n : Nat} (h : n < 10) :
    s.begin? n.digitChar = some { s with place := .number (drafted n) } := by
  match n, h with
  | 0, _ | 1, _ | 2, _ | 3, _ | 4, _ | 5, _ | 6, _ | 7, _ | 8, _ | 9, _ => rfl

theorem next?_of_digit? {d : NumberDraft} {c : Char} {n : Nat} (h : NumberDraft.digit? c = some n) :
    d.next? c = d.addAny? n := by
  unfold NumberDraft.next?
  rw [h]

/-- A digit behind a number other than zero. -/
theorem next?_drafted {n : Nat} (h : ¬n < 10) :
    (drafted (n / 10)).next? (n % 10).digitChar = some (drafted n) := by
  rw [next?_of_digit? (digit?_digitChar (Nat.mod_lt _ (by decide))), drafted, drafted,
    if_neg (by omega), if_neg (by omega)]
  simp only [NumberDraft.addAny?, NumberDraft.addDigit, Nat.div_add_mod']

theorem next?_eq_none (n : Nat) {c : Char} (h : endsNumber c = true) :
    (drafted n).next? c = none := by
  simp only [endsNumber, isSpace, Bool.or_eq_true, decide_eq_true_eq, or_assoc] at h
  unfold drafted
  rcases h with rfl | rfl | rfl | rfl | rfl | rfl | rfl <;> split <;> rfl

theorem step?_number {d next : NumberDraft} {c : Char} (h : d.next? c = some next)
    (tokens : Array Token) :
    Scan.step? { tokens, place := .number d } c = some { tokens, place := .number next } := by
  simp only [Scan.step?, h]

theorem run?_toDigits (tokens : Array Token) (n : Nat) :
    Scan.run? { tokens } (Nat.toDigits 10 n) = some { tokens, place := .number (drafted n) } := by
  induction n using Nat.strongRecOn with
  | ind n ih =>
  -- the digits in front of the last are those of a tenth, which more digits may follow
  rw [Nat.toDigits_eq_if (by decide)]
  split
  next hn => exact (run?_singleton _ _).trans (begin?_digitChar _ hn)
  next hn =>
    rw [Scan.run?_append, ih _ (by omega), Option.bind_some, run?_singleton,
      step?_number (next?_drafted hn)]

theorem number?_drafted (n : Nat) : (drafted n).number? = some { significand := n } := by
  unfold drafted
  split <;> rfl

/-! ## Scanning on -/

/-- The tokens of a text, behind those of what stands before it. -/
def scanFrom? (before : List Token) (text : List Char) : Option (List Token) :=
  (Scan.run? { tokens := before.toArray } text).bind Scan.finish?

variable {before : List Token} {rest : List Char}

/-- A character that is a token. -/
theorem scanFrom?_cons {c : Char} {token : Token}
    (h : ∀ s : Scan, s.begin? c = some (s.emit token)) (before : List Token) (rest : List Char) :
    scanFrom? before (c :: rest) = scanFrom? (before ++ [token]) rest := by
  have hstep : Scan.step? { tokens := before.toArray } c =
      some { tokens := (before ++ [token]).toArray } := by
    rw [← List.push_toArray]
    exact h _
  rw [scanFrom?, Scan.run?, List.foldlM_cons, hstep]
  rfl

theorem scanFrom?_blanks {blanks : List Char} (h : ∀ c ∈ blanks, isSpace c = true) :
    scanFrom? before (blanks ++ rest) = scanFrom? before rest := by
  induction blanks with
  | nil => rfl
  | cons c others ih =>
    obtain ⟨hc, hothers⟩ := List.forall_mem_cons.mp h
    have hstep : Scan.step? { tokens := before.toArray } c = some { tokens := before.toArray } := by
      simp only [isSpace, Bool.or_eq_true, decide_eq_true_eq] at hc
      rcases hc with ((rfl | rfl) | rfl) | rfl <;> rfl
    rw [List.cons_append, ← ih hothers, scanFrom?, Scan.run?, List.foldlM_cons, hstep]
    rfl

/-- A text that is read from between tokens to between tokens. -/
theorem scanFrom?_append {text : List Char} {token : Token}
    (h : ∀ tokens, Scan.run? { tokens } text = some { tokens := tokens.push token }) :
    scanFrom? before (text ++ rest) = scanFrom? (before ++ [token]) rest := by
  rw [scanFrom?, Scan.run?_append, h, Option.bind_some, List.push_toArray]
  rfl

theorem scanFrom?_nat (h : Delimits rest) (n : Nat) :
    scanFrom? before (Nat.toDigits 10 n ++ rest) =
      scanFrom? (before ++ [.number { significand := n }]) rest := by
  rw [scanFrom?, scanFrom?, Scan.run?_append, run?_toDigits, Option.bind_some, ← List.push_toArray]
  cases rest with
  | nil =>
    show Option.map _ (drafted n).number? = _
    rw [number?_drafted]
    rfl
  | cons c others =>
    -- the character that the number ends at is read as if it came behind a token
    have hstep : Scan.step? { tokens := before.toArray, place := .number (drafted n) } c =
        Scan.step? { tokens := before.toArray.push (.number { significand := n }) } c := by
      simp only [Scan.step?, next?_eq_none n (h c rfl), number?_drafted, Option.bind_some]
      rfl
    rw [Scan.run?, Scan.run?, List.foldlM_cons, List.foldlM_cons, hstep]

/-! ## Spelling -/

/-- Whether a text comes to these tokens wherever it stands. -/
def Spells (text : List Char) (spelled : List Token) : Prop :=
  ∀ before rest, Delimits rest →
    scanFrom? before (text ++ rest) = scanFrom? (before ++ spelled) rest

theorem spells_of_run? {text : List Char} {token : Token}
    (h : ∀ tokens, Scan.run? { tokens } text = some { tokens := tokens.push token }) :
    Spells text [token] :=
  fun _ _ _ => scanFrom?_append h

theorem spells_nat (n : Nat) : Spells (numeral { significand := n }).toList (tokens (nat n)) := by
  intro before rest hrest
  have htext : (numeral { significand := n }).toList = Nat.toDigits 10 n := by
    simp [numeral]
  rw [htext, scanFrom?_nat hrest]
  rfl

theorem spells_text (s : String) : Spells (quoted (some s)).toList (tokens (text s)) :=
  spells_of_run? (run?_quoted · s)

/-- Blanks may stand behind a colon. -/
theorem spells_member {blanks value : List Char} {spelled : List Token}
    (hblanks : ∀ c ∈ blanks, isSpace c = true) (h : Spells value spelled) (key : String) :
    Spells ((quoted (some key)).toList ++ (':' :: (blanks ++ value)))
      (.string (some key) :: .colon :: spelled) := by
  intro before rest hrest
  rw [List.append_assoc, scanFrom?_append (run?_quoted · key), List.cons_append,
    scanFrom?_cons (fun _ => rfl), List.append_assoc, List.append_assoc,
    scanFrom?_blanks hblanks, h _ _ hrest]
  simp only [List.append_assoc, List.cons_append, List.nil_append]

section Items

variable {α : Type} {blanks : List Char} {write : α → List Char} {spell : α → List Token}

/-- A number ends in front of what stands behind an item. -/
theorem delimits_items (blanks : List Char) (texts : List (List Char)) (h : Delimits rest) :
    Delimits (texts.flatMap ((',' :: blanks) ++ ·) ++ rest) := by
  cases texts with
  | nil => exact h
  | cons text others =>
    rw [List.flatMap_cons]
    exact delimits_cons rfl _

/-- Items behind others, each behind a comma and blanks. -/
theorem scanFrom?_items (hblanks : ∀ c ∈ blanks, isSpace c = true) {items : List α}
    (h : ∀ item ∈ items, Spells (write item) (spell item)) (hrest : Delimits rest) :
    scanFrom? before ((items.map write).flatMap ((',' :: blanks) ++ ·) ++ rest) =
      scanFrom? (before ++ (items.map spell).flatMap ([.comma] ++ ·)) rest := by
  induction items generalizing before with
  | nil => simp
  | cons item others ih =>
    obtain ⟨hitem, hothers⟩ := List.forall_mem_cons.mp h
    rw [List.map_cons, List.flatMap_cons, List.append_assoc, List.append_assoc, List.cons_append,
      scanFrom?_cons (fun _ => rfl), scanFrom?_blanks hblanks, hitem _ _ (delimits_items _ _ hrest),
      ih hothers]
    simp only [List.map_cons, List.flatMap_cons, List.append_assoc]

/-- Items between brackets: each behind `lead`, and the last one in front of `trail`. -/
def bracketed (lead trail : List Char) (items : List (List Char)) : List Char :=
  if items.isEmpty then [] else lead ++ (',' :: lead).intercalate items ++ trail

theorem spells_bracketed {opening closing : Char} {openToken closeToken : Token}
    (hopen : ∀ s : Scan, s.begin? opening = some (s.emit openToken))
    (hclose : ∀ s : Scan, s.begin? closing = some (s.emit closeToken))
    (hends : endsNumber closing = true) {lead trail : List Char}
    (hlead : ∀ c ∈ lead, isSpace c = true) (htrail : ∀ c ∈ trail, isSpace c = true)
    {items : List α} (h : ∀ item ∈ items, Spells (write item) (spell item)) :
    Spells (opening :: (bracketed lead trail (items.map write) ++ [closing]))
      (openToken :: ([.comma].intercalate (items.map spell) ++ [closeToken])) := by
  intro before rest _
  rw [List.cons_append, scanFrom?_cons hopen, List.append_assoc, List.singleton_append]
  cases items with
  | nil =>
    show scanFrom? _ (closing :: rest) = _
    rw [scanFrom?_cons hclose, List.append_assoc]
    rfl
  | cons item others =>
    obtain ⟨hitem, hothers⟩ := List.forall_mem_cons.mp h
    -- the last item is in front of blanks or of the bracket, so it may be a number
    have hend : Delimits (trail ++ closing :: rest) :=
      delimits_blanks htrail (delimits_cons hends rest)
    rw [bracketed, if_neg (by simp), List.map_cons, intercalate_cons, List.append_assoc,
      List.append_assoc, List.append_assoc, scanFrom?_blanks hlead,
      hitem _ _ (delimits_items _ _ hend),
      scanFrom?_items hlead hothers hend, scanFrom?_blanks htrail, scanFrom?_cons hclose,
      List.map_cons, intercalate_cons]
    simp only [List.append_assoc, List.cons_append, List.nil_append]

end Items

/-! ## Both layouts -/

theorem isSpace_newRow (level : Nat) : ∀ c ∈ (newRow level).toList, isSpace c = true := by
  simp [newRow, isSpace]

theorem compactElements_eq_map (elements : List Json) :
    compactElements elements = elements.map compact := by
  induction elements with
  | nil => rfl
  | cons value rest ih => rw [compactElements, ih, List.map_cons]

theorem compactMembers_eq_map (members : List (Text × Json)) :
    compactMembers members =
      members.map fun member => quoted member.1 ++ ":" ++ compact member.2 := by
  induction members with
  | nil => rfl
  | cons member rest ih => rw [compactMembers, ih, List.map_cons]

theorem prettyElements_eq_map (level : Nat) (elements : List Json) :
    prettyElements level elements = elements.map (prettyAt level) := by
  induction elements with
  | nil => rfl
  | cons value rest ih => rw [prettyElements, ih, List.map_cons]

theorem prettyMembers_eq_map (level : Nat) (members : List (Text × Json)) :
    prettyMembers level members =
      members.map fun member => quoted member.1 ++ ": " ++ prettyAt level member.2 := by
  induction members with
  | nil => rfl
  | cons member rest ih => rw [prettyMembers, ih, List.map_cons]

theorem toList_intercalate_comma (items : List String) :
    (",".intercalate items).toList = bracketed [] [] (items.map String.toList) := by
  cases items with
  | nil => rfl
  | cons item others => simp [bracketed]

theorem toList_block (level : Nat) (items : List String) :
    (block level items).toList =
      bracketed (newRow (level + 1)).toList (newRow level).toList (items.map String.toList) := by
  cases items with
  | nil => rfl
  | cons item others => simp [bracketed, block]

section Containers

variable {lead trail : List Char} {write : Json → String}

theorem spells_array (hlead : ∀ c ∈ lead, isSpace c = true)
    (htrail : ∀ c ∈ trail, isSpace c = true) {elements : List Json}
    (h : ∀ value ∈ elements, Spells (write value).toList (tokens value)) :
    Spells ('[' :: (bracketed lead trail ((elements.map write).map String.toList) ++ [']']))
      (tokens (.array elements)) := by
  rw [tokens, elementTokens_eq_map, List.map_map]
  exact spells_bracketed (fun _ => rfl) (fun _ => rfl) rfl hlead htrail h

theorem spells_record (hlead : ∀ c ∈ lead, isSpace c = true)
    (htrail : ∀ c ∈ trail, isSpace c = true) {colon : String} {blanks : List Char}
    (hcolon : colon.toList = ':' :: blanks)
    (hblanks : ∀ c ∈ blanks, isSpace c = true) {members : List (String × Json)}
    (h : ∀ member ∈ members, Spells (write member.2).toList (tokens member.2)) :
    Spells
      ('\x7b' ::
        (bracketed lead trail
            (((members.map fun (name, value) => (some name, value)).map fun member =>
              quoted member.1 ++ colon ++ write member.2).map String.toList) ++ ['\x7d']))
      (tokens (record members)) := by
  have hmember : ∀ member ∈ members,
      Spells (quoted (some member.1) ++ colon ++ write member.2).toList
        (.string (some member.1) :: .colon :: tokens member.2) := by
    intro member hmem
    rw [String.toList_append, String.toList_append, hcolon, List.append_assoc]
    exact spells_member hblanks (h member hmem) member.1
  rw [record, tokens, memberTokens_eq_map, List.map_map, List.map_map, List.map_map]
  exact spells_bracketed (fun _ => rfl) (fun _ => rfl) rfl hlead htrail hmember

end Containers

/-- **The compact layout spells the value.** -/
theorem spells_compact {j : Json} (h : Writable j) : Spells (compact j).toList (tokens j) := by
  induction h with
  | null => exact spells_of_run? fun _ => rfl
  | bool b => cases b <;> exact spells_of_run? fun _ => rfl
  | nat n => exact spells_nat n
  | text s => exact spells_text s
  | array _ ih =>
    rw [compact, compactElements_eq_map, String.toList_append, String.toList_append,
      toList_intercalate_comma]
    exact spells_array (List.forall_mem_nil _) (List.forall_mem_nil _) ih
  | record _ ih =>
    rw [record, compact, compactMembers_eq_map, String.toList_append, String.toList_append,
      toList_intercalate_comma]
    exact spells_record (List.forall_mem_nil _) (List.forall_mem_nil _) rfl
      (List.forall_mem_nil _) ih

/-- **The pretty layout spells the value**, inside any number of containers. -/
theorem spells_prettyAt {j : Json} (h : Writable j) (level : Nat) :
    Spells (prettyAt level j).toList (tokens j) := by
  induction h generalizing level with
  | null =>
    rw [prettyAt]
    exact spells_of_run? fun _ => rfl
  | bool b =>
    rw [prettyAt]
    cases b <;> exact spells_of_run? fun _ => rfl
  | nat n => exact spells_nat n
  | text s => exact spells_text s
  | array _ ih =>
    rw [prettyAt, prettyElements_eq_map, String.toList_append, String.toList_append, toList_block]
    exact spells_array (isSpace_newRow _) (isSpace_newRow _) fun value hmem => ih value hmem _
  | record _ ih =>
    rw [record, prettyAt, prettyMembers_eq_map, String.toList_append, String.toList_append,
      toList_block]
    have hblank : ∀ c ∈ [' '], isSpace c = true := List.forall_mem_singleton.mpr rfl
    exact spells_record (isSpace_newRow _) (isSpace_newRow _) rfl hblank
      fun member hmem => ih member hmem _

theorem parse?_of_spells {written : String} {j : Json} (h : Spells written.toList (tokens j)) :
    parse? written = some j := by
  have htokens : tokens? written.toList = some (tokens j) := by
    have hall := h [] [] nofun
    rwa [List.append_nil] at hall
  rw [parse?, htokens, Option.bind_some, ofTokens?_tokens]

/-- **What is written compactly is read.** -/
theorem parse?_compact {j : Json} (h : Writable j) : parse? (compact j) = some j :=
  parse?_of_spells (spells_compact h)

/-- **What is written one item a row is read.** -/
theorem parse?_pretty {j : Json} (h : Writable j) : parse? (pretty j) = some j :=
  parse?_of_spells (spells_prettyAt h 0)

end Teletype.Json

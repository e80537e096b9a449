import Teletype.Proofs.Emulator.Run

/-!
# What events tell

A host that only listens to events knows the title at any time: each change of it is
told with the title before and the title after, the changes follow one upon the other,
and none is told that is no change (`Retitles`). A palette of which it hears nothing is
as it was.

Every step of an emulator queues its events behind the older ones and tells of itself in
this way (`Announces`), and steps that do so one after the other do so together
(`Announces.trans`).
-/

namespace Teletype.Emulator

/-- The changes of the title among events. -/
def titleChanges (events : List Event) : List (String × String) :=
  events.filterMap fun
    | .titleChanged old new => some (old, new)
    | _ => none

/-- The changes lead from one title to another. Each begins with the title that the one
before it has left, and leaves a different one. -/
def Retitles (title : String) : List (String × String) → String → Prop
  | [], current => current = title
  | (old, new) :: rest, current => old = title ∧ old ≠ new ∧ Retitles new rest current

/-- An emulator has become another one, and events tell of it. -/
structure Announces (e : Emulator) (told : List Event) (f : Emulator) : Prop where
  events : f.events = e.events ++ told
  title : Retitles e.title (titleChanges told) f.title
  palette : .colorsChanged ∉ told → f.palette = e.palette

variable {e f g : Emulator} {told more : List Event} {title current : String}

theorem Retitles.append {changes later : List (String × String)} {last : String}
    (h : Retitles title changes current) (hlater : Retitles current later last) :
    Retitles title (changes ++ later) last := by
  induction changes generalizing title with
  | nil =>
    obtain rfl : current = title := h
    exact hlater
  | cons change rest ih =>
    obtain ⟨hold, hne, hrest⟩ := h
    exact ⟨hold, hne, ih hrest⟩

namespace Announces

theorem trans (h : Announces e told f) (h' : Announces f more g) :
    Announces e (told ++ more) g where
  events := by rw [h'.events, h.events, List.append_assoc]
  title := by
    rw [titleChanges, List.filterMap_append]
    exact h.title.append h'.title
  palette hnone := by
    rw [List.mem_append, not_or] at hnone
    rw [h'.palette hnone.2, h.palette hnone.1]

/-- What concerns no host is not told. -/
theorem silent (hevents : f.events = e.events) (htitle : f.title = e.title)
    (hpalette : f.palette = e.palette) : Announces e [] f where
  events := by rw [hevents, List.append_nil]
  title := htitle
  palette := fun _ => hpalette

theorem refl (e : Emulator) : Announces e [] e :=
  silent rfl rfl rfl

/-- A palette that has become another one is told of. -/
theorem recolors (e : Emulator) (palette : Palette) :
    Announces e [.colorsChanged] ({ e with palette }.emit .colorsChanged) where
  events := rfl
  title := rfl
  palette := fun hnone => absurd List.mem_cons_self hnone

/-- An event of its own leaves title and palette alone. -/
theorem emit (e : Emulator) {event : Event} (h : titleChanges [event] = []) :
    Announces e [event] (e.emit event) where
  events := rfl
  title := by rw [h]; rfl
  palette := fun _ => rfl

end Announces

/-! ## Actions -/

/-- A reset makes the palette the first one, and tells of it if it was another. -/
theorem exists_announces_reset (e : Emulator) : ∃ told, Announces e told e.reset := by
  unfold reset
  dsimp only
  split
  next => exact ⟨_, .silent rfl rfl rfl⟩
  next =>
    have hcleared : Announces e [] { e with
        screen := e.screen.reset, parser := .ground, lastPrinted := none } := .silent rfl rfl rfl
    exact ⟨_, hcleared.trans (.recolors _ _)⟩

theorem exists_announces_setTitle (e : Emulator) (title : String) :
    ∃ told, Announces e told (e.setTitle title) := by
  unfold setTitle
  split
  next => exact ⟨_, .refl e⟩
  next hne =>
    refine ⟨[.titleChanged e.title title], rfl, ⟨rfl, fun heq => hne heq.symm, rfl⟩, fun _ => rfl⟩

theorem exists_announces_command (e : Emulator) (command : Osc) :
    ∃ told, Announces e told (e.command command) := by
  cases command with
  | setTitle title => exact e.exists_announces_setTitle title
  | setIconName | unknown => exact ⟨_, .refl e⟩
  | setColor entries =>
    simp only [Emulator.command]
    split
    · exact ⟨_, .recolors e _⟩
    · exact ⟨_, .refl e⟩
  | setDynamicColor which spec =>
    simp only [Emulator.command]
    split
    · exact ⟨_, .recolors e _⟩
    · exact ⟨_, .refl e⟩
  | resetColor indices => exact ⟨_, .recolors e _⟩
  | resetDynamicColor which => exact ⟨_, .recolors e _⟩
  | clipboard selection data =>
    simp only [Emulator.command]
    split
    · exact ⟨_, .emit e rfl⟩
    · exact ⟨_, .refl e⟩

/-- **Whatever an action changes is told.** -/
theorem exists_announces_apply (e : Emulator) (a : Action) :
    ∃ told, Announces e told (e.apply a) := by
  cases a with
  | print c => exact ⟨_, .silent rfl rfl rfl⟩
  | execute byte =>
    simp only [apply, control]
    split
    · exact ⟨_, .emit e rfl⟩
    all_goals exact ⟨_, .silent rfl rfl rfl⟩
  | csi sequence =>
    obtain ⟨screen, replies, heq⟩ := e.exists_csi_eq sequence
    rw [apply, heq]
    exact ⟨_, .silent rfl rfl rfl⟩
  | escape sequence =>
    cases sequence with
    | fullReset => exact e.exists_announces_reset
    | _ => exact ⟨_, .silent rfl rfl rfl⟩
  | osc command => exact e.exists_announces_command command

/-! ## Runs -/

theorem exists_announces_applyAll (e : Emulator) (actions : List Action) :
    ∃ told, Announces e told (e.applyAll actions) := by
  induction actions generalizing e with
  | nil => exact ⟨_, .refl e⟩
  | cons a rest ih =>
    obtain ⟨told, htold⟩ := e.exists_announces_apply a
    obtain ⟨more, hmore⟩ := ih (e.apply a)
    exact ⟨told ++ more, htold.trans hmore⟩

theorem exists_announces_take (e : Emulator) {input : Input} (h : input ≠ .takeEvents) :
    ∃ told, Announces e told (e.take input) := by
  cases input with
  | append bytes =>
    have hread : Announces e [] { e with parser := (e.parser.feed bytes).1 } := .silent rfl rfl rfl
    obtain ⟨told, htold⟩ := exists_announces_applyAll
      { e with parser := (e.parser.feed bytes).1 } (e.parser.feed bytes).2
    exact ⟨_, hread.trans htold⟩
  | resize cols rows => exact ⟨_, .silent rfl rfl rfl⟩
  | reset => exact e.exists_announces_reset
  | takeEvents => exact absurd rfl h
  | takeReplies => exact ⟨_, .silent rfl rfl rfl⟩

theorem exists_announces_takeAll (e : Emulator) {inputs : List Input} (h : .takeEvents ∉ inputs) :
    ∃ told, Announces e told (e.takeAll inputs) := by
  induction inputs generalizing e with
  | nil => exact ⟨_, .refl e⟩
  | cons input rest ih =>
    obtain ⟨hinput, hrest⟩ := List.ne_and_not_mem_of_not_mem_cons h
    obtain ⟨told, htold⟩ := e.exists_announces_take hinput.symm
    obtain ⟨more, hmore⟩ := ih (e.take input) hrest
    exact ⟨told ++ more, htold.trans hmore⟩

/-- **A host can follow title and palette by events alone.** Between two times that it
takes them, whatever reaches the emulator, those that it finds lead from the title of
the first time to the title of the second one, change by change. If none of them is
about colors, the palette is the same both times. -/
theorem events_lead_on (e : Emulator) (inputs : List Input) (h : .takeEvents ∉ inputs) :
    let first := e.takeEvents.2
    let told := (first.takeAll inputs).takeEvents.1
    let last := (first.takeAll inputs).takeEvents.2
    Retitles first.title (titleChanges told) last.title ∧
      (.colorsChanged ∉ told → last.palette = first.palette) := by
  intro first told last
  obtain ⟨told', htold⟩ := first.exists_announces_takeAll h
  have hevents : told = told' := htold.events
  rw [hevents]
  exact ⟨htold.title, htold.palette⟩

/-- Two changes, the second one in two pieces, and the same title once more. -/
theorem events_lead_on_twice :
    let e := (initial 2 1 0).append (Text.Utf8.encode "\x1b]2;old\x07")
    let inputs := [.append (Text.Utf8.encode "\x1b]2;a\x07\x1b]0;"),
      .append (Text.Utf8.encode "b\x07\x07\x1b]2;b\x07"), .resize 3 1]
    let last := e.takeEvents.2.takeAll inputs
    .takeEvents ∉ inputs ∧
      last.takeEvents.1 = [.titleChanged "old" "a", .titleChanged "a" "b", .bell] ∧
      Retitles "old" (titleChanges last.takeEvents.1) "b" ∧
      last.takeEvents.2.palette = e.takeEvents.2.palette := by
  intro e inputs last
  have hinputs : .takeEvents ∉ inputs := by decide +kernel
  have htold : last.takeEvents.1 = [.titleChanged "old" "a", .titleChanged "a" "b", .bell] := by
    decide +kernel
  have hfirst : e.takeEvents.2.title = "old" := by decide +kernel
  have hlast : last.takeEvents.2.title = "b" := by decide +kernel
  have hrun : last = e.takeEvents.2.takeAll inputs := rfl
  -- from here on nothing is to be computed
  clear_value e inputs last
  subst hrun
  obtain ⟨htitle, hpalette⟩ := events_lead_on e inputs hinputs
  rw [hfirst, hlast] at htitle
  rw [htold] at hpalette
  exact ⟨hinputs, htold, htitle, hpalette (by decide)⟩

end Teletype.Emulator

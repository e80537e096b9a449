import Teletype.Screen.Resize

/-!
# Operations on a screen

Everything that can be done to a screen, as one type. A statement about every
run of a screen is a statement about every list of operations, carried out one
after the other by `performAll`; what a run keeps is what every operation keeps
(`performAll_induction`).
-/

namespace Teletype.Screen

/-- A flag of the cursor or of the modes. -/
inductive Flag where
  | visible
  | originMode
  | autowrap
  | insertMode
  | pendingWrap
  | applicationCursor
  | applicationKeypad
  | bracketedPaste
  | linefeedMode
  | reverseVideo
  deriving Repr, DecidableEq

/-- Something to do to a screen. -/
inductive Operation where
  | print (c : Char)
  | linefeed
  | carriageReturn
  | index
  | reverseIndex
  | nextLine
  | tabForward (n : Nat)
  | tabBackward (n : Nat)
  | scrollUp (n : Nat)
  | scrollDown (n : Nat)
  | setMargins (top bottom : Nat)
  | clearMargins
  | setTab
  | clearTab
  | clearTabs
  | eraseInDisplay (mode : Nat)
  | eraseInLine (mode : Nat)
  | eraseChars (n : Nat)
  | insertLines (n : Nat)
  | deleteLines (n : Nat)
  | insertChars (n : Nat)
  | deleteChars (n : Nat)
  | moveTo (row col : Nat)
  | moveToCol (col : Nat)
  | moveToRow (row : Nat)
  | up (n : Nat)
  | down (n : Nat)
  | forward (n : Nat)
  | backward (n : Nat)
  | saveCursor
  | restoreCursor
  | enterAlternate (clear : Bool)
  | exitAlternate (clear : Bool)
  | alignmentTest
  | resize (cols rows : Nat)
  | reset
  | softReset
  | setPen (pen : Pen)
  | setFlag (flag : Flag) (on : Bool)
  deriving Repr, DecidableEq

/-- Sets or clears a flag. -/
def setFlag (s : Screen) (flag : Flag) (on : Bool) : Screen :=
  match flag with
  | .visible => { s with cursor.visible := on }
  | .originMode => { s with cursor.originMode := on }
  | .autowrap => { s with cursor.autowrap := on }
  | .insertMode => { s with cursor.insertMode := on }
  | .pendingWrap => { s with cursor.pendingWrap := on }
  | .applicationCursor => { s with modes.applicationCursor := on }
  | .applicationKeypad => { s with modes.applicationKeypad := on }
  | .bracketedPaste => { s with modes.bracketedPaste := on }
  | .linefeedMode => { s with modes.linefeedMode := on }
  | .reverseVideo => { s with modes.reverseVideo := on }

/-- Takes up a pen. -/
def setPen (s : Screen) (pen : Pen) : Screen :=
  { s with cursor.pen := pen }

/-- Carries out an operation. -/
def perform (s : Screen) : Operation → Screen
  | .print c => s.print c
  | .linefeed => s.linefeed
  | .carriageReturn => s.carriageReturn
  | .index => s.index
  | .reverseIndex => s.reverseIndex
  | .nextLine => s.nextLine
  | .tabForward n => s.tabForward n
  | .tabBackward n => s.tabBackward n
  | .scrollUp n => s.scrollUp n
  | .scrollDown n => s.scrollDown n
  | .setMargins top bottom => s.setMargins top bottom
  | .clearMargins => s.clearMargins
  | .setTab => s.setTab
  | .clearTab => s.clearTab
  | .clearTabs => s.clearTabs
  | .eraseInDisplay mode => s.eraseInDisplay mode
  | .eraseInLine mode => s.eraseInLine mode
  | .eraseChars n => s.eraseChars n
  | .insertLines n => s.insertLines n
  | .deleteLines n => s.deleteLines n
  | .insertChars n => s.insertChars n
  | .deleteChars n => s.deleteChars n
  | .moveTo row col => s.moveTo row col
  | .moveToCol col => s.moveToCol col
  | .moveToRow row => s.moveToRow row
  | .up n => s.up n
  | .down n => s.down n
  | .forward n => s.forward n
  | .backward n => s.backward n
  | .saveCursor => s.saveCursor
  | .restoreCursor => s.restoreCursor
  | .enterAlternate clear => s.enterAlternate clear
  | .exitAlternate clear => s.exitAlternate clear
  | .alignmentTest => s.alignmentTest
  | .resize cols rows => s.resize cols rows
  | .reset => s.reset
  | .softReset => s.softReset
  | .setPen pen => s.setPen pen
  | .setFlag flag on => s.setFlag flag on

/-- Carries out operations in order. -/
def performAll (s : Screen) (ops : List Operation) : Screen :=
  ops.foldl perform s

@[simp] theorem performAll_nil (s : Screen) : s.performAll [] = s := rfl

@[simp] theorem performAll_cons (s : Screen) (op : Operation) (ops : List Operation) :
    s.performAll (op :: ops) = (s.perform op).performAll ops := rfl

theorem performAll_append (s : Screen) (xs ys : List Operation) :
    s.performAll (xs ++ ys) = (s.performAll xs).performAll ys :=
  List.foldl_append

/-- What every operation keeps, every run keeps. -/
theorem performAll_induction {P : Screen → Prop} (step : ∀ s op, P s → P (s.perform op))
    {s : Screen} (hs : P s) (ops : List Operation) : P (s.performAll ops) := by
  induction ops generalizing s with
  | nil => exact hs
  | cons op rest ih => exact ih (step s op hs)

/-! ## Properties of whole runs -/

/-- Whether `P` holds of the screen and of every screen that a run reaches. -/
def Along (P : Screen → Prop) (s : Screen) : List Operation → Prop
  | [] => P s
  | op :: rest => P s ∧ Along P (s.perform op) rest

/-- Whether `Q` holds of every step of a run, a step being an operation and the
screen that it is carried out on. -/
def EachStep (Q : Screen → Operation → Prop) (s : Screen) : List Operation → Prop
  | [] => True
  | op :: rest => Q s op ∧ EachStep Q (s.perform op) rest

instance Along.decidable {P : Screen → Prop} [DecidablePred P] :
    ∀ (s : Screen) (ops : List Operation), Decidable (s.Along P ops)
  | s, [] => inferInstanceAs (Decidable (P s))
  | s, op :: rest =>
    have : Decidable ((s.perform op).Along P rest) := Along.decidable (s.perform op) rest
    inferInstanceAs (Decidable (P s ∧ _))

theorem Along.first {P : Screen → Prop} {s : Screen} {ops : List Operation} (h : s.Along P ops) :
    P s := by
  cases ops with
  | nil => exact h
  | cons op rest => exact h.1

/-- Where a step keeps `P` exactly if `Q` holds of it, a run has `P` throughout
exactly if `Q` holds of all its steps. An invariant of all runs may be used. -/
theorem along_iff_eachStep {I P : Screen → Prop} {Q : Screen → Operation → Prop}
    (keeps : ∀ s op, I s → I (s.perform op))
    (step : ∀ s op, I s → P s → (P (s.perform op) ↔ Q s op)) {s : Screen} (hI : I s) (hP : P s)
    (ops : List Operation) : s.Along P ops ↔ s.EachStep Q ops := by
  induction ops generalizing s with
  | nil => exact ⟨fun _ => trivial, fun _ => hP⟩
  | cons op rest ih =>
    have hop := step s op hI hP
    constructor
    · intro hall
      have hnext := hall.2.first
      exact ⟨hop.mp hnext, (ih (keeps s op hI) hnext).mp hall.2⟩
    · intro hall
      exact ⟨hP, (ih (keeps s op hI) (hop.mpr hall.1)).mpr hall.2⟩

theorem eachStep_append {Q : Screen → Operation → Prop} {s : Screen} {xs ys : List Operation} :
    s.EachStep Q (xs ++ ys) ↔ s.EachStep Q xs ∧ (s.performAll xs).EachStep Q ys := by
  induction xs generalizing s with
  | nil => exact ⟨fun h => ⟨trivial, h⟩, fun h => h.2⟩
  | cons op rest ih =>
    show (Q s op ∧ (s.perform op).EachStep Q (rest ++ ys)) ↔ (_ ∧ _) ∧ _
    rw [ih, and_assoc]
    rfl

/-- Printing a text is printing its characters one after the other. -/
theorem printAll_eq_performAll (s : Screen) (text : List Char) :
    s.printAll text = s.performAll (text.map .print) := by
  simp [printAll, performAll, List.foldl_map, perform]

end Teletype.Screen

import Teletype.Json.Fault
import Teletype.Json.Token

/-!
# Reading a text with faults

A reader takes a text from the front and keeps count of the place. It stops at the
first fault. Which fault comes first is a matter of reading order: a value of the
wrong type counts as soon as it was read, whatever may be wrong further on.

Most faults are noticed at a character before it is read, and are placed behind
its first byte (`stopAt`); the others are placed where the reader stands (`stop`).
-/

namespace Teletype.Json

/-- What is left of a text, and the place where that begins. -/
structure Source where
  rest : List Char
  place : Place := {}
  deriving Repr, DecidableEq

/-- A reader of a text. -/
abbrev Reader (α : Type) := StateT Source (Except Fault) α

namespace Reader

variable {α σ : Type}

/-! ## Stopping -/

/-- Stops some bytes behind where the reader stands, or at the end of the text. -/
def stopBehind (bytes : Nat) (defect : Defect) : Reader α := do
  let s ← get
  throw { defect, place := s.place.forward s.rest bytes }

/-- Stops where the reader stands. -/
def stop (defect : Defect) : Reader α :=
  stopBehind 0 defect

/-- Stops at the next character. -/
def stopAt (defect : Defect) : Reader α :=
  stopBehind 1 defect

/-- Stops because the text does. -/
def stopEnded (inside : Unfinished) : Reader α :=
  stop (.ended inside)

/-! ## Characters -/

/-- The next character, which is not read yet. -/
def peek : Reader (Option Char) := do
  return (← get).rest.head?

/-- Reads a character. -/
def advance : Reader Unit :=
  modify fun s =>
    match s.rest with
    | [] => s
    | c :: rest => { rest, place := s.place.behind c }

/-- The next character behind the blanks, which are read. -/
def peekToken : Reader (Option Char) := do
  modify fun s =>
    { rest := s.rest.dropWhile isSpace
      place := (s.rest.takeWhile isSpace).foldl Place.behind s.place }
  peek

/-! ## Rounds -/

/-- Goes through the rounds of a loop, at most so many. -/
def rounds (round : σ → Reader (σ ⊕ α)) : Nat → σ → Reader α
  | 0, _ => stopEnded .value
  | bound + 1, state => do
    match ← round state with
    | .inl next => rounds round bound next
    | .inr result => return result

/-- Goes through the rounds of a loop until one has a result. Every round before
the last must read a character, so there are not more of them than characters. -/
def loop (round : σ → Reader (σ ⊕ α)) (state : σ) : Reader α := do
  rounds round ((← get).rest.length + 1) state

/-! ## Whole texts -/

/-- Reads a text that holds nothing behind what is read. -/
def whole (read : Reader α) (text : String) : Except Fault α :=
  StateT.run' (s := { rest := text.toList }) do
    let a ← read
    match ← peekToken with
    | none => return a
    | some _ => stopAt .trailingText

end Reader

end Teletype.Json

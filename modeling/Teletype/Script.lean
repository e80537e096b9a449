import Teletype.Config
import Teletype.PtyError
import Teletype.Text.Utf8

/-!
# Scripts

Children here are played: what a child does is a script that its executable and
its arguments name. An executable `fake:NAME` names a script or a way to fail;
no other executable is found.
-/

namespace Teletype

/-- What a child does. -/
inductive Script where
  /-- Prints bytes and exits. -/
  | say (output : List UInt8) (code : Int)
  /-- Waits for so many bytes of input, prints them in base sixteen between
  brackets, and exits. -/
  | read (count : Nat) (code : Int)
  /-- Stays until it is ended. -/
  | hold
  /-- Stays until it is ended, and then its exit code cannot be learned. -/
  | lost
  /-- Stays until it is ended, but no signal reaches it. -/
  | immune
  deriving Repr, DecidableEq

namespace Script

/-- The exit code that an argument names. -/
def exitCode (argument : Option String) : Int :=
  (argument.bind fun a => Text.Numeral.int32? a.toList).getD 0

/-- The script behind `fake:`, with its arguments, or the failure that stands
there. -/
def ofName (name : String) (arguments : List String) : Except PtyError Script :=
  match name with
  | "open_master" => .error (.openMaster .noSpace)
  | "grant" => .error (.grant .accessDenied)
  | "unlock" => .error (.unlock .invalidArgument)
  | "slave_name" => .error (.slaveName .notATerminal)
  | "fork" => .error (.fork .tryAgain)
  | "winsize" => .error (.windowSize .inputOutput)
  | "fcntl" => .error (.configure .badDescriptor)
  | "wait" => .error (.reap .noChildren)
  | "io" => .error (.transfer "broken")
  | "say" => .ok (.say (Text.Utf8.encode (arguments.getD 0 "")) (exitCode arguments[1]?))
  | "read" =>
    let count := Text.Numeral.unsigned? 10 (arguments.getD 0 "").toList
    .ok (.read (count.getD 0) (exitCode arguments[1]?))
  | "lost" => .ok .lost
  | "immune" => .ok .immune
  | _ => .ok .hold

/-- Whether a text holds a NUL. -/
def holdsNul (text : String) : Bool :=
  text.toList.any (·.toNat = 0)

/-- Why an executable that is no script does not start. A path is looked up only
after every text for the child was found to be free of NULs. -/
def failure (c : Config) : PtyError :=
  if c.executable.toList.contains '/' then
    match (c.argv ++ c.env ++ [c.executable] ++ c.cwd.toList).find? holdsNul with
    | some text => .nulByte text
    | none => .execute c.executable .noSuchFile
  else .execute c.executable .noSuchFile

/-- The script that a configuration names. -/
def ofConfig (c : Config) : Except PtyError Script :=
  match c.executable.toList with
  | 'f' :: 'a' :: 'k' :: 'e' :: ':' :: name => ofName (String.ofList name) c.argv.tail
  | _ => .error (failure c)

end Script

end Teletype

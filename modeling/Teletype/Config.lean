import Teletype.ByteQueue
import Teletype.FileError
import Teletype.Json.Fault

/-!
# Configuration

What a session runs and how much it keeps. A configuration that was read from
outside is checked before it is used.
-/

namespace Teletype

/-- What a session runs. -/
structure Config where
  executable : String := "/bin/sh"
  /-- The directory that the program starts in. -/
  cwd : Option String := none
  /-- The argument vector; if it is empty, the executable alone. -/
  args : List String := []
  /-- Entries of the environment, each a name, `=`, and a value. -/
  env : List String := []
  /-- How many rows the scrollback keeps. -/
  transcriptRows : Nat := 2000
  /-- How many bytes each of the two queues has room for. -/
  queueCapacity : Nat := ByteQueue.standardCapacity
  deriving Repr, DecidableEq

/-- Why a configuration cannot be used. -/
inductive ConfigError where
  /-- No text came from the file, or none could be put there. -/
  | file (cause : FileError)
  /-- The text is not the JSON of a configuration. -/
  | malformed (fault : Json.Fault)
  | emptyExecutable
  /-- An entry of the environment has no `=`. -/
  | badEntry (entry : String)
  deriving Repr, DecidableEq

/-- How the error is told. -/
def ConfigError.message : ConfigError → String
  | .file cause => "IO error: " ++ cause.message
  | .malformed fault => "JSON error: " ++ fault.message
  | .emptyExecutable => "Invalid configuration: executable is empty"
  | .badEntry entry =>
    "Invalid configuration: environment entry " ++ Text.Quoted.quote entry ++ " is not KEY=VALUE"

namespace Config

/-- The configuration of a login shell, as the environment names it. -/
def ofShell (shell : Option String) : Config :=
  match shell with
  | none | some "" => {}
  | some executable => { executable }

/-- The configuration of a command, which is its own argument vector. -/
def ofCommand (executable : String) (arguments : List String) : Config :=
  { executable, args := executable :: arguments }

/-- The argument vector. -/
def argv (c : Config) : List String :=
  if c.args.isEmpty then [c.executable] else c.args

/-- Whether an entry of the environment has a name and a value. -/
def isEntry (entry : String) : Bool :=
  entry.toList.contains '='

/-- What is wrong with the configuration. -/
def fault? (c : Config) : Option ConfigError :=
  if c.executable.isEmpty then some .emptyExecutable
  else (c.env.find? (!isEntry ·)).map .badEntry

end Config

end Teletype

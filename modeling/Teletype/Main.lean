import Teletype.CommandLine
import Teletype.Config.Json

/-!
# The program

The outer layer: arguments, the environment and configuration files come in, and
what the command line answers goes out.
-/

namespace Teletype

/-- What a failure to read the file at a path amounts to. That something is of the
wrong kind is noticed of a directory when it is read, and of a file on the way to
it. -/
def FileError.ofReading (path : String) : IO.Error → FileError
  | .permissionDenied _ _ _ => .denied
  | .inappropriateType none _ _ => .isDirectory
  | .inappropriateType (some _) _ _ => .notDirectory
  | .invalidArgument _ _ _ => if path.toList.contains '\x00' then .nulInPath else .nameTooLong
  | .userError _ => .notText
  | _ => .missing

/-- Reads the configuration in a file. -/
def readConfig (path : String) : IO (Except ConfigError Config) := do
  try
    return Config.load (← IO.FS.readFile path)
  catch e =>
    return .error (.file (.ofReading path e))

/-- Runs the program. A configuration file is read before the run if the arguments
name one. -/
def runProgram (arguments : List String) : IO UInt32 := do
  let shell ← IO.getEnv "SHELL"
  let loaded ← match CommandLine.request arguments with
    | .run { configPath := some path, .. } => readConfig path
    | _ => pure (.error (.file .missing))
  let outcome := CommandLine.run arguments shell fun _ => loaded
  (← IO.getStdout).putStr outcome.output
  (← IO.getStderr).putStr outcome.errors
  return outcome.status.toUInt32

end Teletype

/-- Runs the program. -/
def main (arguments : List String) : IO UInt32 :=
  Teletype.runProgram arguments

import Teletype.CommandLine.Options
import Teletype.Host
import Teletype.Snapshot.Json

/-!
# The command line

A command runs on a terminal without a display, and when it has ended what the
terminal shows is printed. The exit status is that of the command.
-/

namespace Teletype.CommandLine

/-- What a run leaves. -/
structure Outcome where
  output : String := ""
  errors : String := ""
  status : UInt8 := 0
  deriving Repr, DecidableEq

/-- The exit status of a run that did not come to start the command. -/
def failureStatus : UInt8 := 1

/-- What `--help` prints. -/
def helpText : String :=
  "\n".intercalate
    ["termsession-run: run a command in a headless terminal session",
      "",
      "Usage: termsession-run [OPTIONS] [--] [COMMAND [ARGS...]]",
      "",
      "Options:",
      "  -c, --cols <N>       Set terminal width (default: 80)",
      "  -r, --rows <N>       Set terminal height (default: 24)",
      "      --config <PATH>  Load the session configuration from a JSON file",
      "  -i, --input <TEXT>   Send TEXT to the command (\\n, \\r, \\t, \\e escapes)",
      "  -a, --all            Print scrollback and screen instead of the screen",
      "  -j, --json           Print a JSON snapshot of the screen",
      "  -h, --help           Show this help message",
      "",
      "Without a command the login shell ($SHELL) is started.",
      "The exit status is the command's exit code.",
      "",
      "Examples:",
      "  termsession-run -- ls --color=always",
      "  termsession-run -i 'echo hi\\nexit\\n' /bin/sh",
      ""]

/-- The exit status for an exit code. A signal counts on from 128, as shells have
it, and what no status can say is the nearest one. -/
def exitStatus (code : Int) : UInt8 :=
  UInt8.ofNat (min (if code < 0 then 128 - code else code).toNat 255)

/-- What is printed of a terminal. -/
def shown (display : Display) (e : Emulator) : String :=
  match display with
  | .screen => e.snapshot.text
  | .transcript => e.screen.transcript ++ "\n"
  | .snapshot => e.snapshot.render ++ "\n"

/-- The configuration of a run: from a file, for a command, or of the shell. -/
def config (o : Options) (shell : Option String) (load : String → Except ConfigError Config) :
    Except (String × ConfigError) Config :=
  match o.configPath, o.command with
  | some path, _ => (load path).mapError (path, ·)
  | none, executable :: arguments => .ok (.ofCommand executable arguments)
  | none, [] => .ok (.ofShell shell)

/-- Runs a configuration to its end. -/
def execute (o : Options) (c : Config) : Outcome :=
  let (h, _, _) := (Host.initial c).updateSize o.cols o.rows
  let h := match o.input with
    | some text => h.write (Text.Utf8.encode (String.ofList (unescape text.toList)))
    | none => h
  let (h, _, code) := h.runUntilFinished
  { output := (h.session.emulator.map (shown o.display)).getD ""
    status := exitStatus (code.getD Session.spawnFailureCode) }

/-- Runs the command line. -/
def run (arguments : List String) (shell : Option String)
    (load : String → Except ConfigError Config) : Outcome :=
  match request arguments with
  | .help => { output := helpText }
  | .unknownOption option =>
    { errors := "Unknown option '" ++ option ++ "'\n", status := failureStatus }
  | .run o =>
    match config o shell load with
    | .ok c => execute o c
    | .error (path, e) =>
      { errors := "Error loading config '" ++ path ++ "': " ++ e.message ++ "\n"
        status := failureStatus }

end Teletype.CommandLine

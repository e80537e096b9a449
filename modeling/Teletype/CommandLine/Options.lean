import Teletype.Text.Numeral

/-!
# Options

The command line of a run without a display. Options come first; the first
argument that is none begins the command, and so does whatever follows `--`. An
option at the very end that lacks its value is passed over.
-/

namespace Teletype.CommandLine

open Text

/-- What is printed when the command has ended. -/
inductive Display where
  /-- The rows of the screen. -/
  | screen
  /-- The scrollback and the screen. -/
  | transcript
  /-- A snapshot in JSON. -/
  | snapshot
  deriving Repr, DecidableEq

/-- What a run was asked for. -/
structure Options where
  cols : UInt16 := 80
  rows : UInt16 := 24
  /-- A file with the configuration, which goes before the command. -/
  configPath : Option String := none
  /-- A text to send to the command. -/
  input : Option String := none
  display : Display := .screen
  command : List String := []
  deriving Repr, DecidableEq

/-- What the arguments come to. -/
inductive Request where
  | help
  | unknownOption (option : String)
  | run (options : Options)
  deriving Repr, DecidableEq

/-- A number of columns or rows; a malformed one counts as `default`. -/
def sizeOr (default : UInt16) (value : String) : UInt16 :=
  ((Numeral.upTo? 65535 value.toList).map UInt16.ofNat).getD default

/-- Whether an argument is written like an option. -/
def isOption (argument : String) : Bool :=
  match argument.toList with
  | '-' :: _ => true
  | _ => false

/-- An option that is followed by a value. -/
inductive ValueOption where
  | cols
  | rows
  | configPath
  | input
  deriving Repr, DecidableEq

/-- The option with a value that an argument names. -/
def valueOption? : String → Option ValueOption
  | "-c" | "--cols" => some .cols
  | "-r" | "--rows" => some .rows
  | "--config" => some .configPath
  | "-i" | "--input" => some .input
  | _ => none

/-- What is printed, as an argument chooses it. -/
def display? : String → Option Display
  | "-j" | "--json" => some .snapshot
  | "-a" | "--all" => some .transcript
  | _ => none

namespace Options

/-- Gives an option its value. -/
def set (o : Options) (option : ValueOption) (value : String) : Options :=
  match option with
  | .cols => { o with cols := sizeOr 80 value }
  | .rows => { o with rows := sizeOr 24 value }
  | .configPath => { o with configPath := some value }
  | .input => { o with input := some value }

/-- What an argument asks for that is neither an option with a value nor a choice of
what is printed. -/
def settle (o : Options) (argument : String) (rest : List String) : Request :=
  if argument = "-h" || argument = "--help" then .help
  else if argument = "--" then .run { o with command := rest }
  else if isOption argument then .unknownOption argument
  else .run { o with command := argument :: rest }

/-- Reads arguments, on top of what was read before. -/
def read (o : Options) : List String → Request
  | [] => .run o
  | argument :: rest =>
    match valueOption? argument, display? argument, rest with
    | some option, _, value :: others => (o.set option value).read others
    | some _, _, [] => .run o
    | none, some display, rest => { o with display }.read rest
    | none, none, rest => o.settle argument rest

end Options

/-- The request that the arguments make. -/
def request (arguments : List String) : Request :=
  ({} : Options).read arguments

/-- The character that a letter behind a backslash stands for. -/
def escapeLetter : Char → Char
  | 'n' => '\n'
  | 'r' => '\r'
  | 't' => '\t'
  | 'e' => '\x1b'
  | c => c

/-- A text with its escapes replaced. A backslash at the very end stays. -/
def unescape : List Char → List Char
  | [] => []
  | '\\' :: c :: rest => escapeLetter c :: unescape rest
  | c :: rest => c :: unescape rest

end Teletype.CommandLine

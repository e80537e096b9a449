import Teletype.Config.Json
import Teletype.Text.Split

/-!
# Directories

A working directory of text files, as far as configurations are kept in one, and
what a path reaches from there: the directory itself, the directory around it, and
of the rest of the system what is always there.

A path is followed step by step. Only a directory can be left by a further step,
an empty one included, so a file with a slash behind its name is none.
-/

namespace Teletype

/-- A working directory of text files. -/
structure Directory where
  files : List (String × String) := []
  deriving Repr, DecidableEq

namespace Directory

/-! ## The system around -/

/-- The directory that holds the working directory. -/
def home : List String :=
  ["tmp"]

/-- The directories that are always there, by the names that lead to them. -/
def systemDirectories : List (List String) :=
  [["bin"], ["boot"], ["dev"], ["dev", "pts"], ["dev", "shm"], ["etc"], ["home"], ["lib"],
    ["media"], ["mnt"], ["opt"], ["proc"], ["proc", "self"], ["root"], ["run"], ["sbin"], ["srv"],
    ["sys"], ["tmp"], ["usr"], ["usr", "bin"], ["usr", "lib"], ["usr", "local"], ["usr", "sbin"],
    ["usr", "share"], ["var"], ["var", "cache"], ["var", "lib"], ["var", "log"], ["var", "tmp"]]

/-- The files that are always there, by the names that lead to them, with their texts:
the device that is empty, the accounts, of which the first is always the same, and
the shell, whose bytes are no text. -/
def systemFiles : List (List String × Option String) :=
  [(["dev", "null"], some ""), (["etc", "passwd"], some "root:x:0:0:root:/root:/bin/sh\n"),
    (["bin", "sh"], none), (["usr", "bin", "sh"], none)]

/-! ## Following paths -/

/-- What a path can lead to. -/
inductive Spot where
  | working
  /-- A directory of the system, by the names that lead to it. -/
  | system (names : List String)
  /-- A file, with its text if it has one. -/
  | file (text : Option String)
  deriving Repr, DecidableEq

/-- The bytes that a name may have. -/
def nameLimit : Nat := 255

/-- The bytes that a path may have. -/
def pathLimit : Nat := 4095

/-- What stands in the working directory under a name. -/
def find (d : Directory) (name : String) : Except FileError Spot :=
  match d.files.lookup name with
  | some text => .ok (.file (some text))
  | none => .error .missing

/-- What stands under a name in a directory of the system. -/
def findAround (names : List String) (name : String) : Except FileError Spot :=
  let names := names ++ [name]
  if systemDirectories.contains names then .ok (.system names)
  else
    match systemFiles.lookup names with
    | some text => .ok (.file text)
    | none => .error .missing

/-- The directory that holds a directory. The root holds itself. -/
def parent : Spot → Spot
  | .system names => .system names.dropLast
  | _ => .system home

/-- Follows a step of a path. -/
def step (d : Directory) (spot : Spot) (name : String) : Except FileError Spot :=
  match spot with
  | .file _ => .error .notDirectory
  | .working | .system _ =>
    if name = "" || name = "." then .ok spot
    else if name = ".." then .ok (parent spot)
    else if nameLimit < name.utf8ByteSize then .error .nameTooLong
    else
      match spot with
      | .system names => findAround names name
      | _ => d.find name

/-- The steps of a path. A path from the root begins with an empty one. -/
def steps (path : String) : List String :=
  (Text.fields '/' path.toList).map String.ofList

/-- Where a path begins. -/
def start (path : String) : Spot :=
  if path.startsWith "/" then .system [] else .working

/-- What is wrong with a path wherever it leads. -/
def pathFault? (path : String) : Option FileError :=
  if path.isEmpty then some .missing
  else if path.toList.contains '\x00' then some .nulInPath
  else if pathLimit < path.utf8ByteSize then some .nameTooLong
  else none

/-- What a path leads to. -/
def follow (d : Directory) (path : String) : Except FileError Spot :=
  match pathFault? path with
  | some fault => .error fault
  | none => (steps path).foldlM d.step (start path)

/-! ## Files -/

/-- The text of the file at a path. -/
def read (d : Directory) (path : String) : Except FileError String :=
  match d.follow path with
  | .ok (.file (some text)) => .ok text
  | .ok (.file none) => .error .notText
  | .ok _ => .error .isDirectory
  | .error e => .error e

/-- Puts a text into the file of this name. -/
def put (d : Directory) (name text : String) : Directory :=
  { files := (name, text) :: d.files.filter fun (other, _) => other ≠ name }

/-- Puts a text into the file at a path, which must be one of the working
directory. -/
def write (d : Directory) (path text : String) : Except FileError Directory :=
  match d.follow path with
  | .ok .working | .ok (.system _) => .error .isDirectory
  | .ok (.file _) | .error .missing =>
    match (steps path).dropLast.foldlM d.step (start path), (steps path).getLast? with
    | .ok .working, some name => if name.isEmpty then .error .missing else .ok (d.put name text)
    | .ok _, _ => .error .denied
    | .error e, _ => .error e
  | .error e => .error e

/-- The configuration in the file at a path. -/
def loadConfig (d : Directory) (path : String) : Except ConfigError Config :=
  match d.read path with
  | .error cause => .error (.file cause)
  | .ok source => Config.load source

/-- Puts a configuration into the file at a path. -/
def saveConfig (d : Directory) (path : String) (c : Config) : Except ConfigError Directory :=
  (d.write path c.render).mapError .file

end Directory

end Teletype

/-!
# Failures of files

Why no text comes from a path or goes there, and how that is told.
-/

namespace Teletype

/-- What is wrong with a path or the file that it leads to. -/
inductive FileError where
  | missing
  | denied
  /-- The path goes on behind a file. -/
  | notDirectory
  | isDirectory
  | nameTooLong
  /-- The path holds a NUL, which no name has. -/
  | nulInPath
  /-- The bytes of the file are no text. -/
  | notText
  deriving Repr, DecidableEq

/-- How the failure is told. -/
def FileError.message : FileError → String
  | .missing => "No such file or directory (os error 2)"
  | .denied => "Permission denied (os error 13)"
  | .notDirectory => "Not a directory (os error 20)"
  | .isDirectory => "Is a directory (os error 21)"
  | .nameTooLong => "File name too long (os error 36)"
  | .nulInPath => "file name contained an unexpected NUL byte"
  | .notText => "stream did not contain valid UTF-8"

end Teletype

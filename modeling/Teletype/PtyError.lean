import Teletype.Text.Quoted

/-!
# Failures of the terminal device

What can go wrong between a session and the device that its child runs on, with
what the system had to say about it.
-/

namespace Teletype

/-- What the system says when a call fails. -/
inductive SystemError where
  | noSuchFile
  | inputOutput
  | badDescriptor
  | noChildren
  | tryAgain
  | accessDenied
  | invalidArgument
  | notATerminal
  | noSpace
  deriving Repr, DecidableEq

/-- How the system tells it. -/
def SystemError.message : SystemError → String
  | .noSuchFile => "ENOENT: No such file or directory"
  | .inputOutput => "EIO: I/O error"
  | .badDescriptor => "EBADF: Bad file number"
  | .noChildren => "ECHILD: No child processes"
  | .tryAgain => "EAGAIN: Try again"
  | .accessDenied => "EACCES: Permission denied"
  | .invalidArgument => "EINVAL: Invalid argument"
  | .notATerminal => "ENOTTY: Not a typewriter"
  | .noSpace => "ENOSPC: No space left on device"

/-- What went wrong with a device or its child. -/
inductive PtyError where
  | openMaster (cause : SystemError)
  | grant (cause : SystemError)
  | unlock (cause : SystemError)
  | slaveName (cause : SystemError)
  | fork (cause : SystemError)
  | windowSize (cause : SystemError)
  | configure (cause : SystemError)
  | reap (cause : SystemError)
  | transfer (cause : String)
  /-- A text that is handed to the child holds a NUL. -/
  | nulByte (text : String)
  | execute (executable : String) (cause : SystemError)
  deriving Repr, DecidableEq

/-- How the error is told. -/
def PtyError.message : PtyError → String
  | .openMaster cause => "Failed to open PTY master: " ++ cause.message
  | .grant cause => "Failed to grant access to the slave side: " ++ cause.message
  | .unlock cause => "Failed to unlock the slave side: " ++ cause.message
  | .slaveName cause => "Failed to resolve the slave device path: " ++ cause.message
  | .fork cause => "Failed to fork child process: " ++ cause.message
  | .windowSize cause => "Failed to apply terminal size: " ++ cause.message
  | .configure cause => "Failed to configure master descriptor: " ++ cause.message
  | .reap cause => "Failed to reap child process: " ++ cause.message
  | .transfer cause => "PTY I/O error: " ++ cause
  | .nulByte text => "Argument contains an interior NUL byte: " ++ Text.Quoted.quote text
  | .execute executable cause => "Failed to execute " ++ executable ++ ": " ++ cause.message

end Teletype

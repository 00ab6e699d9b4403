import AuditShell.Text.Quoted
/-!
# Failures of the operating system

What a request to the machine can fail with, and how each failure is worded.
-/
namespace AuditShell

/-- Why a request about a path fails. -/
inductive OsError.Cause where
  | notFound
  | absent
  | isDirectory
  | notDirectory
  | invalidArgument
  | nameTooLong
  | permissionDenied
  deriving DecidableEq, Repr

/-- The words for a cause. A store in memory says of a missing file that it does not exist. -/
def OsError.Cause.words : OsError.Cause → Bytes
  | .notFound => text "no such file or directory"
  | .absent => text "file does not exist"
  | .isDirectory => text "is a directory"
  | .notDirectory => text "not a directory"
  | .invalidArgument => text "invalid argument"
  | .nameTooLong => text "file name too long"
  | .permissionDenied => text "permission denied"

/-- A failed request. -/
inductive OsError where
  /-- An operation on a path. -/
  | path (operation path : Bytes) (cause : OsError.Cause)
  /-- A program name that no directory of the search path holds. -/
  | notInPath (name : Bytes)
  /-- An empty program name. -/
  | noCommand
  /-- Any other failure. -/
  | other (words : Bytes)
  deriving DecidableEq, Repr

namespace OsError

/-- The message of a failed request. -/
def message : OsError → Bytes
  | .path op p c => op ++ text " " ++ p ++ text ": " ++ c.words
  | .notInPath name => text "exec: " ++ quoted name ++ text ": executable file not found in $PATH"
  | .noCommand => text "exec: no command"
  | .other w => w

/-- Whether the request failed because the file is missing. -/
def isMissing : OsError → Bool
  | .path _ _ .notFound => true
  | .path _ _ .absent => true
  | _ => false

end OsError

end AuditShell

import MailSpool.Errno

/-!
# Failed input and output

Why a file could not be created, opened, read, written, linked or removed: the system call failed,
the path or the content is not what it has to be, or the failure was reported by the caller.
-/

namespace MailSpool

/-- The kinds of failed input and output that make a difference. -/
inductive IoKind where
  | notFound
  | permissionDenied
  | wouldBlock
  | alreadyExists
  | other
  deriving DecidableEq, Repr

/-- A failed input or output operation. -/
inductive IoError where
  /-- A system call failed. -/
  | system (errno : Errno)
  /-- The content is not UTF-8. -/
  | notUtf8
  /-- The path holds a NUL character. -/
  | nulInPath
  /-- A failure told by its kind and in words. -/
  | reported (kind : IoKind) (text : String)
  deriving DecidableEq, Repr

def Errno.kind (errno : Errno) : IoKind :=
  if errno = notFound then .notFound
  else if errno = accessDenied ∨ errno = operationNotPermitted then .permissionDenied
  else if errno = tryAgain then .wouldBlock
  else if errno = alreadyExists then .alreadyExists
  else .other

namespace IoError

def kind : IoError → IoKind
  | system errno => errno.kind
  | notUtf8 => .other
  | nulInPath => .other
  | reported kind _ => kind

def message : IoError → String
  | system errno => errno.message ++ " (os error " ++ toString errno.number.toInt ++ ")"
  | notUtf8 => "stream did not contain valid UTF-8"
  | nulInPath => "file name contained an unexpected NUL byte"
  | reported _ text => text

end IoError

end MailSpool

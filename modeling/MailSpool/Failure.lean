import MailSpool.IoError
import MailSpool.Json.Fault
import MailSpool.Status

/-!
# Failures

Why an operation on locks, access times or settings failed. A failure has a message, a coarse
status, and the code with which a command that meets it exits.
-/

namespace MailSpool

/-- What is wrong with settings. -/
inductive SettingsProblem where
  | negativeOffset (offset : Int32)
  | relativeSpool (directory : String)
  | zeroStaleAfter
  | zeroRefreshInterval
  | slowRefresh (refreshInterval staleAfter : UInt64)
  | retryLimitBelowStep (limit step : UInt64)
  | unreadable (path : String) (error : IoError)
  | malformed (fault : Json.Fault)
  | nulInPath (path : String)
  /-- A problem told in words. -/
  | reported (text : String)
  deriving DecidableEq, Repr

def SettingsProblem.message : SettingsProblem → String
  | negativeOffset offset =>
    "descriptor_offset must not be negative, got " ++ toString offset.toInt
  | relativeSpool directory => "spool_dir must be absolute, got " ++ directory
  | zeroStaleAfter => "stale_after_secs must be greater than zero"
  | zeroRefreshInterval => "refresh_interval_secs must be greater than zero"
  | slowRefresh refreshInterval staleAfter =>
    "refresh_interval_secs (" ++ toString refreshInterval.toNat ++
      ") must be shorter than stale_after_secs (" ++ toString staleAfter.toNat ++ ")"
  | retryLimitBelowStep limit step =>
    "retry_max_ms (" ++ toString limit.toNat ++ ") is below retry_step_ms (" ++
      toString step.toNat ++ ")"
  | unreadable path error => "Failed to read config file " ++ path ++ ": " ++ error.message
  | malformed fault => "Failed to parse config JSON: " ++ fault.message
  | nulInPath path => "Path contains NUL byte: " ++ path
  | reported text => text

/-- Why an operation failed. -/
inductive Failure where
  /-- Another process holds a conflicting lock. -/
  | wouldBlock (descriptor : Int32)
  /-- Waiting would never end. -/
  | deadlock (descriptor : Int32)
  /-- The descriptor is not open, or not in a mode that suits the lock. -/
  | badDescriptor (descriptor : Int32)
  | interrupted
  | permissionDenied (details : String)
  | notFound (path : String)
  | mailLock (status : MailLockStatus)
  | settings (problem : SettingsProblem)
  | io (error : IoError)
  | system (errno : Errno)
  deriving DecidableEq, Repr

namespace Failure

/-- The failure that an error number stands for when a record lock was asked for. A conflict may
be told by either of two numbers. -/
def ofLockErrno (errno : Errno) (descriptor : Int32) : Failure :=
  if errno = .tryAgain ∨ errno = .accessDenied then wouldBlock descriptor
  else if errno = .deadlock then deadlock descriptor
  else if errno = .badDescriptor then badDescriptor descriptor
  else if errno = .interrupted then interrupted
  else system errno

/-- The failure that an error number stands for when a path was looked at or touched. -/
def ofPathErrno (errno : Errno) (path : String) : Failure :=
  if errno = .notFound ∨ errno = .notDirectory then notFound path
  else if errno = .accessDenied ∨ errno = .operationNotPermitted then
    permissionDenied (path ++ ": " ++ errno.named)
  else system errno

def message : Failure → String
  | wouldBlock descriptor => "Lock on fd " ++ toString descriptor.toInt ++ " would block"
  | deadlock descriptor =>
    "Deadlock detected while waiting on fd " ++ toString descriptor.toInt
  | badDescriptor descriptor =>
    "Descriptor " ++ toString descriptor.toInt ++ " is not open with a suitable mode"
  | interrupted => "Interrupted by signal"
  | permissionDenied details => "Permission denied: " ++ details
  | notFound path => "Not found: " ++ path
  | mailLock status => "Mail lock failed: " ++ status.message
  | settings problem => "Configuration error: " ++ problem.message
  | io error => "IO error: " ++ error.message
  | system errno => "System error: " ++ errno.named

def status : Failure → OperationStatus
  | wouldBlock _ => .wouldBlock
  | permissionDenied _ => .permissionDenied
  | notFound _ => .notFound
  | mailLock .maxTries => .wouldBlock
  | io error =>
    match error.kind with
    | .notFound => .notFound
    | .permissionDenied => .permissionDenied
    | .wouldBlock => .wouldBlock
    | .alreadyExists => .unknown
    | .other => .unknown
  | _ => .unknown

def exitCode : Failure → UInt32
  | wouldBlock _ => 2
  | deadlock _ => 2
  | interrupted => 3
  | notFound _ => 66
  | permissionDenied _ => 77
  | settings _ => 78
  | mailLock .maxTries => 75
  | mailLock _ => 1
  | badDescriptor _ => 74
  | io _ => 74
  | system _ => 74

end Failure

def OperationStatus.ofResult {Value : Type} : Except Failure Value → OperationStatus
  | .ok _ => .success
  | .error failure => failure.status

end MailSpool

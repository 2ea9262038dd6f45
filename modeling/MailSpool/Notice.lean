import MailSpool.Failure
import MailSpool.LockMode
import MailSpool.Text.Quoted

/-!
# Notices

What locks tell the administrator: which locks were taken and given back, and what went wrong
although the operation may go on. Each notice has a level and says one sentence.
-/

namespace MailSpool

/-- How grave a notice is. -/
inductive Level where
  | information
  | warning
  deriving DecidableEq, Repr

/-- Something worth telling. -/
inductive Notice where
  | rejected (user : String) (status : MailLockStatus)
  | temporaryNotCreated (temporary : String) (error : IoError)
  | temporaryNotWritten (temporary : String) (error : IoError)
  | notLinked (temporary lock : String) (error : IoError)
  | staleRemoved (lock : String)
  | staleNotRemoved (lock : String) (error : IoError)
  | acquired (lock user : String)
  | notAcquired (lock : String) (status : MailLockStatus)
  | released (lock user : String)
  | alreadyRemoved (lock : String)
  | notReleased (lock : String) (error : IoError)
  | notRefreshed (lock : String) (failure : Failure)
  | spoolLocked (path : String) (mode : LockMode)
  | spoolNotLocked (path : String) (failure : Failure)
  | spoolUnlocked (path : String)
  | spoolNotUnlocked (path : String)
  | signalsHandled
  deriving DecidableEq, Repr

namespace Notice

def level : Notice → Level
  | acquired _ _ => .information
  | released _ _ => .information
  | spoolLocked _ _ => .information
  | spoolUnlocked _ => .information
  | signalsHandled => .information
  | _ => .warning

def message : Notice → String
  | rejected user status =>
    "Rejected mail lock for user " ++ Text.quoted user ++ ": " ++ status.message
  | temporaryNotCreated temporary error =>
    "Cannot create temporary lock " ++ temporary ++ ": " ++ error.message
  | temporaryNotWritten temporary error =>
    "Cannot write temporary lock " ++ temporary ++ ": " ++ error.message
  | notLinked temporary lock error =>
    "Cannot link " ++ temporary ++ " to " ++ lock ++ ": " ++ error.message
  | staleRemoved lock => "Removed stale mail lock " ++ lock
  | staleNotRemoved lock error =>
    "Cannot remove stale mail lock " ++ lock ++ ": " ++ error.message
  | acquired lock user => "Acquired mail lock " ++ lock ++ " for " ++ user
  | notAcquired lock status => "Mail lock " ++ lock ++ " not acquired: " ++ status.message
  | released lock user => "Released mail lock " ++ lock ++ " for " ++ user
  | alreadyRemoved lock => "Mail lock " ++ lock ++ " was already removed"
  | notReleased lock error => "Cannot remove mail lock " ++ lock ++ ": " ++ error.message
  | notRefreshed lock failure => "Cannot refresh mail lock " ++ lock ++ ": " ++ failure.message
  | spoolLocked path mode => "Locked spool " ++ path ++ " for " ++ mode.name
  | spoolNotLocked path failure => "Cannot lock spool " ++ path ++ ": " ++ failure.message
  | spoolUnlocked path => "Unlocked spool " ++ path
  | spoolNotUnlocked path => "Cannot unlock spool " ++ path
  | signalsHandled => "Signal handlers installed (SIGINT, SIGTERM, SIGHUP)"

end Notice

end MailSpool

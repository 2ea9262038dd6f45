import MailSpool.Failure
import MailSpool.Path

/-!
# Settings

The settings of mailbox locks and of a bridge, their usual values, and the rules that keep locks
usable: a spool has an absolute path, a lock is refreshed before it counts as stale, and the
waiting time between two attempts is not limited below its first step.
-/

namespace MailSpool

/-- Settings of mailbox locks. -/
structure MailSettings where
  /-- The directory of the mailboxes. -/
  spoolDirectory : String := "/var/mail"
  /-- Whether the lock of a user lies next to the mailbox that `$MAIL` names, if it is theirs. -/
  honorMail : Bool := true
  /-- By how many milliseconds the waiting time grows with each attempt. -/
  retryStep : UInt64 := 5000
  /-- The longest waiting time in milliseconds, but for a random part. -/
  retryLimit : UInt64 := 60000
  /-- After how many seconds without a touch a lock is stale. -/
  staleAfter : UInt64 := 300
  /-- Whether a lock is also stale when the process that it names is gone. -/
  checkOwner : Bool := true
  /-- How many seconds pass between two touches of a lock that is kept fresh. -/
  refreshInterval : UInt64 := 60
  deriving DecidableEq, Repr

/-- Settings of a bridge. -/
structure Settings where
  /-- What is taken from a descriptor number before it reaches the system. -/
  descriptorOffset : Int32 := 0
  /-- Whether access times are told with milliseconds. -/
  preciseAccessTime : Bool := false
  mail : MailSettings := {}
  deriving DecidableEq, Repr

namespace MailSettings

/-- The first rule that mail settings break, if they break one. -/
def problem? (settings : MailSettings) : Option SettingsProblem :=
  if !Path.isAbsolute settings.spoolDirectory then some (.relativeSpool settings.spoolDirectory)
  else if settings.staleAfter = 0 then some .zeroStaleAfter
  else if settings.refreshInterval = 0 then some .zeroRefreshInterval
  else if settings.staleAfter ≤ settings.refreshInterval then
    some (.slowRefresh settings.refreshInterval settings.staleAfter)
  else if settings.retryLimit < settings.retryStep then
    some (.retryLimitBelowStep settings.retryLimit settings.retryStep)
  else none

def retryStepMilliseconds (settings : MailSettings) : Nat := settings.retryStep.toNat

/-- The limit of the waiting time in milliseconds. -/
def retryLimitMilliseconds (settings : MailSettings) : Nat := settings.retryLimit.toNat

/-- The age at which a lock becomes stale, in milliseconds. -/
def staleAfterMilliseconds (settings : MailSettings) : Nat := settings.staleAfter.toNat * 1000

/-- The time between two touches, in milliseconds. -/
def refreshIntervalMilliseconds (settings : MailSettings) : Nat :=
  settings.refreshInterval.toNat * 1000

end MailSettings

namespace Settings

/-- The first rule that settings break, if they break one. -/
def problem? (settings : Settings) : Option SettingsProblem :=
  if settings.descriptorOffset < 0 then some (.negativeOffset settings.descriptorOffset)
  else settings.mail.problem?

/-- Settings that break no rule, or the failure that tells the first rule broken. -/
def validate (settings : Settings) : Except Failure Settings :=
  match settings.problem? with
  | none => .ok settings
  | some problem => .error (.settings problem)

def Valid (settings : Settings) : Prop :=
  settings.problem? = none

instance (settings : Settings) : Decidable settings.Valid :=
  inferInstanceAs (Decidable (settings.problem? = none))

end Settings

end MailSpool

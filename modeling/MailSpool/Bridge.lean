import MailSpool.Descriptor
import MailSpool.Dotlock.Acquisition
import MailSpool.Host.Locks

/-!
# Bridges

A bridge gives a caller that numbers its descriptors in its own way the locks of the host: record
locks on descriptors, corrected by the offset of its settings, access times of paths, and the
mailbox lock of a user through a locker of its own. Failures tell their cause; an access time that
must be a number is minus one on failure.
-/

namespace MailSpool

/-- A bridge: its settings, and the locker of mailbox locks. -/
structure Bridge where
  settings : Settings
  locker : Locker
  deriving DecidableEq, Repr

namespace Bridge

/-- A bridge of a process, with a locker that has the mail settings of the bridge. -/
def ofSettings (process : ProcessId) (settings : Settings) : Bridge where
  settings := settings
  locker := { process := process, settings := settings.mail }

/-- A bridge whose offset is the number that the caller gives to the standard input. -/
def ofReference (process : ProcessId) (reference : Int32) (settings : Settings) : Bridge :=
  ofSettings process { settings with descriptorOffset := reference }

/-- A bridge for a caller that numbers its descriptors as the system does, from the standard input
on. -/
def ofStandardInput (process : ProcessId) (settings : Settings) : Bridge :=
  ofReference process 0 settings

def process (bridge : Bridge) : ProcessId :=
  bridge.locker.process

/-- Another locker takes the place of the one of a bridge, which gives back its lock before. -/
def withLocker (bridge : Bridge) (host : Host) (locker : Locker) : Bridge × Host :=
  ({ bridge with locker := locker }, bridge.locker.drop host)

def systemDescriptor (bridge : Bridge) (descriptor : Int32) : Except Failure Int32 :=
  MailSpool.systemDescriptor bridge.settings.descriptorOffset descriptor

/-- The result of a call on record locks, as that of an operation on a descriptor. -/
def locking {Value : Type} (descriptor : Int32) (result : Except Errno Value) :
    Except Failure Value :=
  result.mapError fun errno => .ofLockErrno errno descriptor

/-- Asks for a record lock of the mode that a tag tells, and does not wait for it. -/
def tryLock (bridge : Bridge) (host : Host) (descriptor : Int32) (tag : String) :
    Except Failure Host :=
  (bridge.systemDescriptor descriptor).bind fun number =>
    locking number (host.setLock bridge.process number (.ofTag tag))

/-- Asks for a record lock of the mode that a tag tells, and waits for it. Nothing is given when it
would wait for ever. -/
def awaitLock (bridge : Bridge) (host : Host) (descriptor : Int32) (tag : String) :
    Option (Except Failure Unit × Host) :=
  match bridge.systemDescriptor descriptor with
  | .error failure => some (.error failure, host)
  | .ok number =>
    (host.setLockWaiting bridge.process number (.ofTag tag)).map fun (result, after) =>
      (locking number result, after)

/-- Asks for a record lock, and waits for it if it may. -/
def lock (bridge : Bridge) (host : Host) (descriptor : Int32) (tag : String) (blocking : Bool) :
    Option (Except Failure Unit × Host) :=
  if blocking then bridge.awaitLock host descriptor tag
  else
    match bridge.tryLock host descriptor tag with
    | .ok after => some (.ok (), after)
    | .error failure => some (.error failure, host)

def unlock (bridge : Bridge) (host : Host) (descriptor : Int32) : Except Failure Host :=
  (bridge.systemDescriptor descriptor).bind fun number =>
    locking number (host.removeLock bridge.process number)

/-- Who holds a lock that stands against a record lock of the mode that a tag tells. -/
def probe (bridge : Bridge) (host : Host) (descriptor : Int32) (tag : String) :
    Except Failure (Option LockHolder) :=
  (bridge.systemDescriptor descriptor).bind fun number =>
    locking number (host.probe bridge.process number (.ofTag tag))

/-- The time of the last access to the file that a path leads to, in milliseconds. -/
def accessMilliseconds (bridge : Bridge) (host : Host) (path : String) : Except Failure Int64 :=
  (host.accessTime path).map fun time => time.milliseconds bridge.settings.preciseAccessTime

/-- The time of the last access in milliseconds, or minus one if it is not known. -/
def accessNumber (bridge : Bridge) (host : Host) (path : String) : Int64 :=
  match bridge.accessMilliseconds host path with
  | .ok time => time
  | .error _ => -1

def spoolPath (bridge : Bridge) (user : String) : String :=
  bridge.settings.mail.spoolPath user

def lockMail (bridge : Bridge) (host : Host) (user : String) (retries : UInt32) :
    MailLockStatus × Bridge × Host :=
  let (status, locker, after) := bridge.locker.acquire host user retries
  (status, { bridge with locker := locker }, after)

/-- Gives back the mailbox lock that is held, if there is one. -/
def unlockMail (bridge : Bridge) (host : Host) : Bridge × Host :=
  let (locker, after) := bridge.locker.release host
  ({ bridge with locker := locker }, after)

/-- Touches the mailbox lock that is held, if there is one. -/
def touchMail (bridge : Bridge) (host : Host) : Host :=
  bridge.locker.refresh host

/-- Keeps the mailbox lock that is held fresh from now on, if there is one. -/
def startRefresher (bridge : Bridge) (host : Host) : Option RefreshTask × Host :=
  match bridge.locker.refreshTask? with
  | none => (none, host)
  | some task => (some task, task.start host bridge.settings.mail.refreshInterval.toNat)

def stopRefresher (refresher : Option RefreshTask) (host : Host) : Host :=
  refresher.elim host fun task => task.stop host

/-- The end of a bridge: the mailbox lock that it holds is given back. -/
def drop (bridge : Bridge) (host : Host) : Host :=
  bridge.locker.drop host

end Bridge

end MailSpool

import MailSpool.Dotlock.Path
import MailSpool.Host.Files

/-!
# Lockers

A locker takes the lock of one user after another for a process and holds at most one lock at a
time. What it knows of the lock it holds is its path alone: giving it back removes whatever the
path then names, and refreshing it touches that. A locker counts what it has done.

Everything in this file is a single call on a file; taking a lock, which is many, is told by
`MailSpool.Dotlock.Acquisition`.
-/

namespace MailSpool

/-- A lock that a locker holds. -/
structure HeldLock where
  user : String
  path : String
  deriving DecidableEq, Repr

/-- What a locker has done. The counts are plain numbers: each starts at zero and grows by one at a
time, at most once for each link that is tried or lock that is asked for, so in no run do they come
near the size of a word. -/
structure LockerCounts where
  /-- Locks taken. -/
  acquisitions : Nat := 0
  /-- Attempts that found the lock taken and had to wait. -/
  contentions : Nat := 0
  /-- Stale locks removed. -/
  staleRemoved : Nat := 0
  /-- Locks not obtained. -/
  failures : Nat := 0
  deriving DecidableEq, Repr

/-- A locker of a process. -/
structure Locker where
  process : ProcessId
  settings : MailSettings
  /-- The owner that is written into locks, if it is not the process itself. -/
  owner : Option UInt32 := none
  held : Option HeldLock := none
  counts : LockerCounts := {}
  deriving DecidableEq, Repr

/-- The touching of a lock, apart from the locker that holds it. -/
structure RefreshTask where
  process : ProcessId
  path : String
  deriving DecidableEq, Repr

/-- A task is done: the file that its path leads to is touched, and a failure is told. -/
def RefreshTask.run (task : RefreshTask) (host : Host) : Host :=
  match host.touch task.path with
  | .ok touched => touched
  | .error failure => host.tell task.process (.notRefreshed task.path failure)

namespace RefreshTask

/-- The time between two times at which a task is done, given in seconds: at least a
millisecond. -/
def pause (period : Nat) : Nat :=
  max (seconds period) (milliseconds 1)

def appointment (task : RefreshTask) (host : Host) (period : Nat) : Appointment where
  due := host.now + pause period
  period := some (pause period)
  deed := .touch task.path

def start (task : RefreshTask) (host : Host) (period : Nat) : Host :=
  host.appoint (task.appointment host period)

def stop (task : RefreshTask) (host : Host) : Host :=
  host.cancel (.touch task.path)

end RefreshTask

namespace Locker

def recordedOwner (locker : Locker) : UInt32 :=
  locker.owner.getD (.ofNat locker.process)

def lockPath (locker : Locker) (host : Host) (user : String) : Except MailLockStatus String :=
  locker.settings.lockPath (host.valueOf locker.process "MAIL") user

def adopt (locker : Locker) (host : Host) (user : String) : MailLockStatus × Locker :=
  match locker.lockPath host user with
  | .error status => (status, locker)
  | .ok path =>
    match host.lstat path with
    | .error _ => (.error, locker)
    | .ok _ => (.success, { locker with held := some { user := user, path := path } })

def persist (locker : Locker) : Option String × Locker :=
  (locker.held.map HeldLock.path, { locker with held := none })

/-- Gives back the lock that is held, if there is one. -/
def release (locker : Locker) (host : Host) : Locker × Host :=
  match locker.held with
  | none => (locker, host)
  | some held =>
    let freed := { locker with held := none }
    match host.unlink held.path with
    | .ok removed => (freed, removed.tell locker.process (.released held.path held.user))
    | .error error =>
      let notice :=
        if error.kind = .notFound then .alreadyRemoved held.path
        else .notReleased held.path error
      (freed, host.tell locker.process notice)

/-- Whatever becomes of the file, `release` leaves nothing held, and all else about the locker as it
was. -/
theorem locker_release (locker : Locker) (host : Host) :
    (locker.release host).1 = { locker with held := none } := by
  unfold release
  split
  case h_1 free => rw [← free]
  case h_2 => split <;> rfl

def refreshTask? (locker : Locker) : Option RefreshTask :=
  locker.held.map fun held => { process := locker.process, path := held.path }

/-- Touches the lock that is held, if there is one. -/
def refresh (locker : Locker) (host : Host) : Host :=
  match locker.refreshTask? with
  | none => host
  | some task => task.run host

def drop (locker : Locker) (host : Host) : Host :=
  (locker.release host).2

end Locker

end MailSpool

import MailSpool.Bridge

/-!
# Guards of a spool

A guard holds both locks of a user's mailbox: the lock file next to it, which other mail programs
see, and a record lock on the mailbox itself. It is taken in that order and never waits for the
record lock; if that is refused, the lock file is given back. While it lives, a refresher touches
the lock file again and again. How it is given back is told by `MailSpool.SpoolGuard.Drop`.
-/

namespace MailSpool

/-- A guard of a mailbox. -/
structure SpoolGuard where
  bridge : Bridge
  /-- The mailbox. -/
  path : String
  mode : LockMode
  /-- The descriptor of the open mailbox. -/
  descriptor : Nat
  /-- What the refresher does, if there is one. -/
  refresher : Option RefreshTask
  deriving DecidableEq, Repr

namespace SpoolGuard

/-- Why a file that was to be opened was not: a missing one is told by its path. -/
def openFailure (path : String) (error : IoError) : Failure :=
  if error.kind = .notFound then .notFound path else .io error

/-- Opens a mailbox and takes the record lock on it. A mailbox that cannot be locked is closed. -/
def openLocked (bridge : Bridge) (host : Host) (path : String) (mode : LockMode) :
    Except Failure Nat × Host :=
  match host.openFile bridge.process path (mode = .write) with
  | .error error => (.error (openFailure path error), host)
  | .ok (descriptor, opened) =>
    match bridge.tryLock opened (.ofNat descriptor) mode.tag with
    | .ok locked => (.ok descriptor, locked)
    | .error failure => (.error failure, opened.close bridge.process descriptor)

/-- Takes both locks of a user's mailbox, in the mode that a tag tells. On failure the bridge is
given back. -/
def acquire (bridge : Bridge) (host : Host) (user tag : String) (retries : UInt32) :
    Except (Failure × Bridge) SpoolGuard × Host :=
  let mode := LockMode.ofTag tag
  let path := bridge.spoolPath user
  match bridge.lockMail host user retries with
  | (.success, held, locked) =>
    match openLocked held locked path mode with
    | (.error failure, after) =>
      let (freed, released) :=
        held.unlockMail (after.tell bridge.process (.spoolNotLocked path failure))
      (.error (failure, freed), released)
    | (.ok descriptor, after) =>
      let (refresher, started) := held.startRefresher after
      (.ok
        { bridge := held
          path := path
          mode := mode
          descriptor := descriptor
          refresher := refresher },
        started.tell bridge.process (.spoolLocked path mode))
  | (status, refused, after) => (.error (.mailLock status, refused), after)

def touch (guard : SpoolGuard) (host : Host) : Host :=
  guard.bridge.touchMail host

def file? (guard : SpoolGuard) (host : Host) : Option File :=
  (host.descriptor? guard.bridge.process guard.descriptor).bind fun opened =>
    host.files.file opened.file

end SpoolGuard

end MailSpool

import MailSpool.Host.Time

/-!
# Record locks on a host

A process locks the file behind one of its descriptors, which must be open for reading to share a
lock and for writing to hold it alone. A request that waits ends when the lock is granted, when
waiting for it would have no end any more, or when a handled signal interrupts it; time passes
meanwhile.
-/

namespace MailSpool

def OpenFile.suits (opened : OpenFile) : LockMode → Bool
  | .read => opened.readable
  | .write => opened.writable

/-- A process that holds a lock, and the mode of the lock. -/
structure LockHolder where
  owner : ProcessId
  mode : LockMode
  deriving DecidableEq, Repr

/-- What the system tells of a lock that was tested: the type of a lock, and the process that holds
it. -/
structure LockReport where
  lockType : Nat
  process : ProcessId
  deriving DecidableEq, Repr

namespace LockReport

/-- The type that stands for no lock. -/
def unlockedType : Nat := 2

/-- What is told of a lock that stands in the way, or of none. -/
def ofConflict : Option RecordLock → LockReport
  | none => { lockType := unlockedType, process := 0 }
  | some lock => { lockType := lock.mode.lockType, process := lock.owner }

/-- The holder that a report tells of. Every type but two is taken for that of a shared lock. -/
def holder? (report : LockReport) : Option LockHolder :=
  if report.lockType = unlockedType then none
  else if report.lockType = LockMode.write.lockType then
    some { owner := report.process, mode := .write }
  else some { owner := report.process, mode := .read }

end LockReport

def Deed.interrupts (deed : Deed) (process : ProcessId) : Bool :=
  match deed with
  | .signal receiver _ => receiver = process
  | _ => false

namespace Host

def withLocks (host : Host) (locks : LockTable) : Host :=
  { host with locks := locks }

def wanted (host : Host) (process : ProcessId) (descriptor : Int32) (mode : LockMode) :
    Except Errno RecordLock :=
  match host.descriptor? process descriptor.toInt with
  | none => .error .badDescriptor
  | some opened =>
    if opened.suits mode then .ok { file := opened.file, owner := process, mode := mode }
    else .error .badDescriptor

def setLock (host : Host) (process : ProcessId) (descriptor : Int32) (mode : LockMode) :
    Except Errno Host :=
  match host.wanted process descriptor mode with
  | .error errno => .error errno
  | .ok request =>
    match host.locks.request request with
    | none => .error .tryAgain
    | some locks => .ok (host.withLocks locks)

/-- A process asks for a lock; the reply tells whether it has to wait. -/
def requestLock (host : Host) (process : ProcessId) (descriptor : Int32) (mode : LockMode) :
    Except Errno (LockTable.Reply × Host) :=
  (host.wanted process descriptor mode).map fun request =>
    let (reply, locks) := host.locks.await request
    (reply, host.withLocks locks)

def waitingEnded (host : Host) (process : ProcessId) : Except Errno Unit :=
  if process ∈ host.locks.refused then .error .deadlock else .ok ()

/-- Time passes until a waiting process is granted its lock, refused it or interrupted. Nothing is
given when none of these can happen within a number of appointments. -/
def awaitGrant (process : ProcessId) : Nat → Host → Option (Except Errno Unit × Host)
  | 0, _ => none
  | steps + 1, host =>
    if !host.locks.isWaiting process then some (host.waitingEnded process, host)
    else
      match Appointment.earliest? host.agenda with
      | none => none
      | some appointment =>
        let after := host.keep appointment
        if appointment.deed.interrupts process && after.locks.isWaiting process then
          some (.error .interrupted, after.withLocks (after.locks.withdraw process))
        else awaitGrant process steps after

/-- A process asks for a lock and waits for it. Nothing is given when it would wait for ever. -/
def setLockWaiting (host : Host) (process : ProcessId) (descriptor : Int32) (mode : LockMode) :
    Option (Except Errno Unit × Host) :=
  match host.requestLock process descriptor mode with
  | .error errno => some (.error errno, host)
  | .ok (.granted, after) => some (.ok (), after)
  | .ok (.deadlock, _) => some (.error .deadlock, host)
  | .ok (.waits, after) => awaitGrant process (after.patience + 1) after

def removeLock (host : Host) (process : ProcessId) (descriptor : Int32) : Except Errno Host :=
  match host.descriptor? process descriptor.toInt with
  | none => .error .badDescriptor
  | some opened => .ok (host.loseLock process opened.file)

/-- A process tests whether it could have a lock on the file behind a descriptor. For a test the
descriptor may be open in any mode. -/
def testLock (host : Host) (process : ProcessId) (descriptor : Int32) (mode : LockMode) :
    Except Errno LockReport :=
  match host.descriptor? process descriptor.toInt with
  | none => .error .badDescriptor
  | some opened =>
    .ok (.ofConflict
      (host.locks.conflict? { file := opened.file, owner := process, mode := mode }))

/-- Who holds the first lock of another process that stands against a lock on the file behind a
descriptor. -/
def probe (host : Host) (process : ProcessId) (descriptor : Int32) (mode : LockMode) :
    Except Errno (Option LockHolder) :=
  (host.testLock process descriptor mode).map LockReport.holder?

end Host

end MailSpool

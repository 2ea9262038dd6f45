import MailSpool.Dotlock.Backoff
import MailSpool.Dotlock.Locker
import MailSpool.Dotlock.Owner
import MailSpool.Host.Time

/-!
# Taking a lock

A lock is taken by making a private file next to it, writing the owner into that file and linking
it to the path of the lock, which succeeds for one locker only. Whether it did is seen by comparing
the two files, so that a link whose success was not reported counts too. If the lock is there
already, it is judged: a stale one is removed, after another look whether it is still the same
file, and the link is tried again; for any other the locker rests, as often as it may retry. In the
end the private file is removed.

Taking a lock is a machine. Each step makes at most one call on a file, so any number of lockers
and others may act between two steps.
-/

namespace MailSpool

/-- What an acquisition does next. -/
inductive AcquisitionStage where
  /-- It gives back the lock that the locker still holds. -/
  | releasing
  /-- It makes the temporary file. -/
  | creating
  /-- It writes the owner into the temporary file. -/
  | writing (file : FileId)
  /-- It removes the temporary file, which could not be written. -/
  | discarding
  /-- It links the temporary file to the path of the lock. -/
  | linking
  /-- It asks which file the temporary one is; the link may have been refused. -/
  | comparing (refusal : Option IoError)
  /-- It asks whether the lock is the temporary file. -/
  | comparingLock (refusal : Option IoError) (file : FileId)
  /-- It looks at the age of the lock. -/
  | judging
  /-- It reads the owner of the lock. -/
  | readingOwner (lock : FileId)
  /-- It asks whether the owner of the lock is alive. -/
  | askingOwner (lock : FileId) (owner : ProcessId)
  /-- It looks once more whether the lock is the file that was judged stale. -/
  | rechecking (stale : FileId)
  /-- It removes the lock. -/
  | breaking (stale : FileId)
  /-- It rests until a time. -/
  | resting (wake : Instant)
  /-- It removes the temporary file. -/
  | clearing (status : MailLockStatus)
  | finished (status : MailLockStatus)
  deriving DecidableEq, Repr

/-- The taking of a lock by a locker. -/
structure Acquisition where
  locker : Locker
  user : String
  /-- The path of the lock. -/
  lock : String
  /-- The path of the temporary file. -/
  temporary : String
  retries : UInt32
  /-- How often it has rested so far. -/
  attempt : UInt32 := 0
  stage : AcquisitionStage
  deriving DecidableEq, Repr

def padded (length : Nat) (text : List Char) : List Char :=
  List.replicate (length - text.length) '0' ++ text

/-- The name of a temporary file of a process: a mark, the number of the process, and eight
hexadecimal digits. -/
def temporaryName (process : ProcessId) (tag : Nat) : String :=
  ".lk" ++ String.ofList
    (padded 5 (Nat.toDigits 10 process) ++ padded 8 (Nat.toDigits 16 (tag % UInt32.size)))

def temporaryPath (lock : String) (process : ProcessId) (tag : Nat) : String :=
  Path.join ((Path.parent lock).getD ".") (temporaryName process tag)

/-- Whether a lock is stale by its age: its last change is longer ago than the limit. A change in
the future is not. -/
def MailSettings.isOutdated (settings : MailSettings) (now : Instant) (file : File) : Bool :=
  (seconds settings.staleAfter.toNat : Int) < now - file.modified

namespace Acquisition

def atStage (work : Acquisition) (stage : AcquisitionStage) : Acquisition :=
  { work with stage := stage }

def counting (work : Acquisition) (count : LockerCounts → LockerCounts) : Acquisition :=
  { work with locker := { work.locker with counts := count work.locker.counts } }

def tell (work : Acquisition) (host : Host) (notice : Notice) : Host :=
  host.tell work.locker.process notice

def begin (locker : Locker) (host : Host) (user lock : String) (retries : UInt32) :
    Acquisition × Host :=
  let (tag, drawn) := host.draw UInt32.size
  ({ locker := locker
     user := user
     lock := lock
     temporary := temporaryPath lock locker.process tag
     retries := retries
     stage := if locker.held.isSome then .releasing else .creating }, drawn)

/-- The end of an acquisition before its temporary file was of any use. -/
def giveUp (work : Acquisition) (status : MailLockStatus) : Acquisition :=
  (work.counting fun counts => { counts with failures := counts.failures + 1 }).atStage
    (.finished status)

/-- The lock was found taken and not stale: the locker rests, or has tried often enough. -/
def wait (work : Acquisition) (host : Host) : Acquisition × Host :=
  if work.retries ≤ work.attempt then (work.atStage (.clearing .maxTries), host)
  else
    let attempt := work.attempt + 1
    let (jitter, drawn) := host.draw (work.locker.settings.jitterLimit.toNat + 1)
    let delay := work.locker.settings.backoff attempt (.ofNat jitter)
    let waiting := work.counting fun counts => { counts with contentions := counts.contentions + 1 }
    ({ waiting with
        attempt := attempt
        stage := .resting (host.now + milliseconds delay.toNat) }, drawn)

/-- The temporary file is not the lock: the lock is there already, or the link has failed. -/
def notLinked (work : Acquisition) (host : Host) (refusal : Option IoError) : Acquisition × Host :=
  match refusal with
  | none => (work.atStage .judging, host)
  | some error =>
    if error.kind = .alreadyExists then (work.atStage .judging, host)
    else
      (work.atStage (.clearing .error),
        work.tell host (.notLinked work.temporary work.lock error))

/-- The stale lock could not be removed: it is gone already, or the acquisition fails. -/
def notBroken (work : Acquisition) (host : Host) (error : IoError) : Acquisition × Host :=
  if error.kind = .notFound then (work.atStage .linking, host)
  else (work.atStage (.clearing .error), work.tell host (.staleNotRemoved work.lock error))

def finish (work : Acquisition) (host : Host) (status : MailLockStatus) : Acquisition × Host :=
  if status.isSuccess then
    let done := work.counting fun counts => { counts with acquisitions := counts.acquisitions + 1 }
    ({ done with
        locker := { done.locker with held := some { user := work.user, path := work.lock } }
        stage := .finished status },
      work.tell host (.acquired work.lock work.user))
  else (work.giveUp status, work.tell host (.notAcquired work.lock status))

def step (work : Acquisition) (host : Host) : Acquisition × Host :=
  match work.stage with
  | .releasing =>
    let (locker, released) := work.locker.release host
    ({ work with locker := locker, stage := .creating }, released)
  | .creating =>
    match host.create work.temporary with
    | .ok (file, created) => (work.atStage (.writing file), created)
    | .error error =>
      (work.giveUp .temporaryLock, work.tell host (.temporaryNotCreated work.temporary error))
  | .writing file =>
    match host.fill file (ownerRecord work.locker.recordedOwner) with
    | .ok written => (work.atStage .linking, written)
    | .error error =>
      (work.atStage .discarding, work.tell host (.temporaryNotWritten work.temporary error))
  | .discarding =>
    (work.giveUp .temporaryWrite, (host.unlink work.temporary).toOption.getD host)
  | .linking =>
    match host.link work.temporary work.lock with
    | .ok linked => (work.atStage (.comparing none), linked)
    | .error error => (work.atStage (.comparing (some error)), host)
  | .comparing refusal =>
    match host.stat work.temporary with
    | .ok (file, _) => (work.atStage (.comparingLock refusal file), host)
    | .error _ => work.notLinked host refusal
  | .comparingLock refusal file =>
    match host.lstat work.lock with
    | .ok (found, _) =>
      if found = file then (work.atStage (.clearing .success), host)
      else work.notLinked host refusal
    | .error _ => work.notLinked host refusal
  | .judging =>
    match host.lstat work.lock with
    | .ok (found, file) =>
      if work.locker.settings.isOutdated host.now file then (work.atStage (.rechecking found), host)
      else if work.locker.settings.checkOwner then (work.atStage (.readingOwner found), host)
      else work.wait host
    | .error _ => work.wait host
  | .readingOwner found =>
    match host.read work.locker.process work.lock with
    | (.ok content, closed) =>
      match ownerOfContent content with
      | some owner => (work.atStage (.askingOwner found owner), closed)
      | none => work.wait closed
    | (.error _, closed) => work.wait closed
  | .askingOwner found owner =>
    if host.isAlive owner then work.wait host else (work.atStage (.rechecking found), host)
  | .rechecking stale =>
    match host.lstat work.lock with
    | .ok (found, _) =>
      (work.atStage (if found = stale then .breaking stale else .linking), host)
    | .error error => work.notBroken host error
  | .breaking _ =>
    match host.unlink work.lock with
    | .ok removed =>
      ((work.counting fun counts => { counts with staleRemoved := counts.staleRemoved + 1 }).atStage
        .linking, work.tell removed (.staleRemoved work.lock))
    | .error error => work.notBroken host error
  | .resting wake => (if wake ≤ host.now then work.atStage .linking else work, host)
  | .clearing status => work.finish ((host.unlink work.temporary).toOption.getD host) status
  | .finished _ => (work, host)

theorem step_of_finished {work : Acquisition} {status : MailLockStatus} (host : Host)
    (ended : work.stage = .finished status) : work.step host = (work, host) := by
  simp [step, ended]

def status? (work : Acquisition) : Option MailLockStatus :=
  match work.stage with
  | .finished status => some status
  | _ => none

/-- Makes steps until the end, with time passing while the locker rests. -/
def run : Nat → Acquisition → Host → Acquisition × Host
  | 0, work, host => (work, host)
  | steps + 1, work, host =>
    match work.stage with
    | .finished _ => (work, host)
    | .resting wake =>
      let (next, later) := work.step (host.elapseUntil wake)
      run steps next later
    | _ =>
      let (next, later) := work.step host
      run steps next later

/-- How many steps an acquisition takes at most when nobody makes a lock meanwhile: no attempt to
link takes more than ten, and there is one attempt more for each lock that goes away. -/
def stepLimit (work : Acquisition) (host : Host) : Nat :=
  10 * (work.retries.toNat + host.agenda.length + 4)

end Acquisition

namespace Locker

/-- The name of a user makes no lock: the lock that is held stays, and nothing is done. -/
def reject (locker : Locker) (host : Host) (user : String) (status : MailLockStatus) :
    MailLockStatus × Locker × Host :=
  let counts := { locker.counts with failures := locker.counts.failures + 1 }
  (status, { locker with counts := counts }, host.tell locker.process (.rejected user status))

/-- Takes the lock of a user, trying again for a number of times while another one has it. A lock
that is still held is given back before. -/
def acquire (locker : Locker) (host : Host) (user : String) (retries : UInt32) :
    MailLockStatus × Locker × Host :=
  match locker.lockPath host user with
  | .error status => locker.reject host user status
  | .ok lock =>
    let (work, drawn) := Acquisition.begin locker host user lock retries
    let (done, after) := Acquisition.run (work.stepLimit host) work drawn
    (done.status?.getD .error, done.locker, after)

end Locker

end MailSpool

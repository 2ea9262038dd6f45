import MailSpool.Refresher
import MailSpool.SpoolGuard

/-!
# Dropping a guard

The owner of a guard stops its refresher, waits for the end of the refresher's thread, gives up the
record lock, gives back the lock file and closes the mailbox, in this order. Until the thread has
ended it takes steps of its own between those of the owner, so a touch of the lock file that was
due already may still come after the drop has begun.

Here a drop is a machine of single steps, of the owner or of the thread, in any order in which they
are possible; dropping a guard on a host takes one such order.
-/

namespace MailSpool

/-- What the owner of a guard that is dropped does next. -/
inductive DropStage where
  /-- It stops the refresher. -/
  | stopping
  /-- It waits for the end of the thread. -/
  | joining
  /-- It gives up the record lock. -/
  | unlocking
  /-- It gives back the lock file. -/
  | releasing
  /-- It closes the mailbox. -/
  | closing
  | finished
  deriving DecidableEq, Repr

/-- The drop of a guard, and the thread of the guard's refresher. -/
structure GuardDrop where
  guard : SpoolGuard
  refresher : Option Refresher
  stage : DropStage := .stopping
  deriving DecidableEq, Repr

/-- Who takes the next step of a drop. -/
inductive DropEvent where
  | owner
  /-- The thread of the refresher. -/
  | thread (event : RefresherEvent)
  deriving DecidableEq, Repr

namespace GuardDrop

/-- The drop of a guard whose thread rests until its next task. The thread is no longer among what
is going to happen on the host: it is a part of the drop. -/
def begin (guard : SpoolGuard) (host : Host) : GuardDrop × Host :=
  match guard.refresher with
  | none => ({ guard := guard, refresher := none }, host)
  | some task =>
    let pause := RefreshTask.pause guard.bridge.settings.mail.refreshInterval.toNat
    let next := host.agenda.find? fun appointment => appointment.deed = .touch task.path
    let wake := next.elim (host.now + pause) Appointment.due
    ({ guard := guard, refresher := some { rest := pause, thread := .resting wake } },
      task.stop host)

def atStage (work : GuardDrop) (stage : DropStage) : GuardDrop :=
  { work with stage := stage }

/-- A drop at another stage, once its refresher has been through an event of the owner, if it has a
refresher. -/
def throughEvent (work : GuardDrop) (now : Instant) (event : RefresherEvent) (stage : DropStage) :
    Option GuardDrop :=
  match work.refresher with
  | none => some (work.atStage stage)
  | some refresher =>
    (refresher.step? now event).map fun next => { work with refresher := some next, stage := stage }

/-- The next step of the owner, if it need not wait. -/
def ownerStep? (work : GuardDrop) (host : Host) : Option (GuardDrop × Host) :=
  let guard := work.guard
  let process := guard.bridge.process
  match work.stage with
  | .stopping => (work.throughEvent host.now .stop .joining).map fun next => (next, host)
  | .joining => (work.throughEvent host.now .join .unlocking).map fun next => (next, host)
  | .unlocking =>
    match guard.bridge.unlock host (.ofNat guard.descriptor) with
    | .ok unlocked => some (work.atStage .releasing, unlocked)
    | .error _ => some (work.atStage .releasing, host.tell process (.spoolNotUnlocked guard.path))
  | .releasing =>
    let (bridge, released) := guard.bridge.unlockMail host
    some ({ work with guard := { guard with bridge := bridge }, stage := .closing },
      released.tell process (.spoolUnlocked guard.path))
  | .closing => some (work.atStage .finished, host.close process guard.descriptor)
  | .finished => none

/-- A step of the thread, if it is possible. The task is done when it ends. -/
def threadStep? (work : GuardDrop) (host : Host) (event : RefresherEvent) :
    Option (GuardDrop × Host) :=
  match work.guard.refresher, work.refresher with
  | some task, some refresher =>
    if event.isOfThread then
      (refresher.step? host.now event).map fun next =>
        ({ work with refresher := some next },
          if event = .rest then host.perform (.touch task.path) else host)
    else none
  | _, _ => none

def step? (work : GuardDrop) (host : Host) : DropEvent → Option (GuardDrop × Host)
  | .owner => work.ownerStep? host
  | .thread event => work.threadStep? host event

/-- The steps of a drop in an order; those that are not possible are left out. -/
def run (work : GuardDrop) (host : Host) : List DropEvent → GuardDrop × Host
  | [] => (work, host)
  | event :: others =>
    let (next, after) := (work.step? host event).getD (work, host)
    next.run after others

/-- An order of steps in which the thread, at rest when the drop begins, ends as soon as it is to
stop. -/
def direct : List DropEvent :=
  [.owner, .thread .receive, .owner, .owner, .owner, .owner]

end GuardDrop

def SpoolGuard.drop (guard : SpoolGuard) (host : Host) : Bridge × Host :=
  let (work, quiet) := GuardDrop.begin guard host
  let (done, after) := work.run quiet GuardDrop.direct
  (done.guard.bridge, after)

end MailSpool

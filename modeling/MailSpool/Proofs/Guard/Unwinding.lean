import MailSpool.Proofs.Dotlock.Reacquiring
import MailSpool.Proofs.Guard.BothLocks
import MailSpool.Proofs.Guard.Exclusion
import MailSpool.Proofs.Guard.Thread
import MailSpool.Proofs.Locks.Queues
import MailSpool.Proofs.Spool.Shared

/-!
# How a guard unwinds

A guard is dropped in the reverse order of its taking. The thread of the refresher has ended before
the record lock is given up, and the record lock is given up before the lock file is. So whoever
sees the record lock sees the lock file, and no touch of the thread can come after the removal of
the lock file, where it would refresh the lock of somebody else.

The owner and the thread take their steps in any order, and others act between any two of them. One
invariant, `Unwinding.Holds`, tells of every stage what the thread can still do and what the process
still has.
-/

namespace MailSpool

open FileSystem

/-- A stage of a drop at which the lock file was given back. -/
def DropStage.IsReleased : DropStage → Prop
  | .closing | .finished => True
  | .stopping | .joining | .unlocking | .releasing => False

theorem DropStage.IsLocked.not_isReleased {stage : DropStage} (locked : stage.IsLocked) :
    ¬stage.IsReleased := by
  cases stage with
  | stopping | joining | unlocking => exact id
  | releasing | closing | finished => exact False.elim locked

/-- What the thread of the refresher can be about at a stage of the drop. -/
def DropStage.Fits (stage : DropStage) (refresher : Refresher) : Prop :=
  match stage with
  | .stopping => refresher.Working
  | .joining => refresher.Stopping
  | .unlocking | .releasing | .closing | .finished => refresher.thread = .exited

namespace Host

/-- The record locks on all files but one are as they were. -/
def SameElsewhere (mailbox : FileId) (before after : Host) : Prop :=
  ∀ record : RecordLock, record.file ≠ mailbox →
    (record ∈ after.locks.held ↔ record ∈ before.locks.held)

variable {host after : Host} {mailbox : FileId}

theorem SameElsewhere.of_locks (same : after.locks = host.locks) :
    SameElsewhere mailbox host after := by
  intro record _
  rw [same]

theorem sameWorld_perform_touch (host : Host) (touched : String) :
    host.SameWorld (host.perform (.touch touched)) := by
  simp only [perform]
  cases result : host.touch touched with
  | error failure => exact .refl host
  | ok later => exact sameWorld_touch result

theorem SameWorld.descriptor? (world : host.SameWorld after) (id : ProcessId) (number : Int) :
    after.descriptor? id number = host.descriptor? id number := by
  simp only [Host.descriptor?, world.process]

end Host

namespace SpoolGuard

/-- A guard whose lock file is there and that has its mailbox open, over a bridge without an
offset. The process waits for no record lock. -/
structure Lives (guard : SpoolGuard) (mailbox lock : FileId) (path : String) (host : Host) :
    Prop where
  zero : guard.bridge.settings.descriptorOffset = 0
  fits : (Int32.ofNat guard.descriptor).toInt = guard.descriptor
  opened : ∃ opened, host.descriptor? guard.bridge.process guard.descriptor = some opened ∧
    opened.file = mailbox
  held : guard.bridge.locker.heldPath? = some path
  named : host.named? path = some lock
  idle : host.locks.isWaiting guard.bridge.process = false

end SpoolGuard

/-- A drop and the host on which it is made. -/
structure Unwinding where
  work : GuardDrop
  host : Host

/-- What happens in the course of a drop. -/
inductive UnwindingEvent where
  /-- A step of the owner or of the thread, if it is possible. -/
  | step (event : DropEvent)
  /-- Time passes, or others act. -/
  | change (next : Host)

namespace Unwinding

/-- A guard that is about to be dropped, and the refresher that works for it. -/
def begin (guard : SpoolGuard) (refresher : Option Refresher) (host : Host) : Unwinding where
  work := { guard := guard, refresher := refresher }
  host := host

def step (unwinding : Unwinding) : UnwindingEvent → Unwinding
  | .step event =>
    match unwinding.work.step? unwinding.host event with
    | some (work, host) => { work := work, host := host }
    | none => unwinding
  | .change next => { unwinding with host := next }

def run (unwinding : Unwinding) (events : List UnwindingEvent) : Unwinding :=
  events.foldl step unwinding

def process (unwinding : Unwinding) : ProcessId :=
  unwinding.work.guard.bridge.process

/-- What others may do: they leave the process the descriptor of the mailbox and its record locks,
and they leave the lock file as long as the guard holds it. -/
structure Tolerates (unwinding : Unwinding) (next : Host) : Prop where
  opened : next.descriptor? unwinding.process unwinding.work.guard.descriptor =
    unwinding.host.descriptor? unwinding.process unwinding.work.guard.descriptor
  own : ∀ record : RecordLock, record.owner = unwinding.process →
    (record ∈ next.locks.held ↔ record ∈ unwinding.host.locks.held)
  idle : next.locks.isWaiting unwinding.process = false
  queued : LockTable.Queued ([], next.locks)
  lockFile : ∀ path file, unwinding.work.guard.bridge.locker.heldPath? = some path →
    unwinding.host.named? path = some file → next.named? path = some file

/-- Each change in a run is one that the state it finds `Tolerates`. -/
def Permits : Unwinding → List UnwindingEvent → Prop
  | _, [] => True
  | unwinding, event :: later =>
    (∀ next, event = .change next → unwinding.Tolerates next) ∧ (unwinding.step event).Permits later

end Unwinding

namespace GuardDrop

variable {work next : GuardDrop} {now : Instant} {event : RefresherEvent} {stage : DropStage}

/-- By `throughEvent` a drop comes to another stage once its refresher has been through an event. -/
theorem throughEvent_spec (through : work.throughEvent now event stage = some next) :
    next.guard = work.guard ∧ next.stage = stage ∧
      next.refresher.isSome = work.refresher.isSome ∧
      ∀ later ∈ next.refresher, ∃ earlier ∈ work.refresher,
        earlier.step? now event = some later := by
  unfold throughEvent at through
  split at through
  case h_1 none =>
    cases through
    simp [atStage, none]
  case h_2 refresher isRefresher =>
    rcases Option.map_eq_some_iff.mp through with ⟨later, stepped, rfl⟩
    refine ⟨rfl, rfl, by simp [isRefresher], ?_⟩
    rintro _ ⟨⟩
    exact ⟨refresher, isRefresher, stepped⟩

/-- A `threadStep?` touches the path of the refresher when its task ends. -/
theorem threadStep?_spec {host after : Host}
    (stepped : work.threadStep? host event = some (next, after)) :
    ∃ refresher later path, work.refresher = some refresher ∧ event.isOfThread = true ∧
      refresher.step? host.now event = some later ∧
      next = { work with refresher := some later } ∧
      (after = host ∨ after = host.perform (.touch path)) := by
  unfold threadStep? at stepped
  split at stepped
  case h_1 task refresher _ isRefresher =>
    split at stepped
    case isTrue ofThread =>
      rcases Option.map_eq_some_iff.mp stepped with ⟨later, through, same⟩
      cases same
      refine ⟨refresher, later, task.path, isRefresher, ofThread, through, rfl, ?_⟩
      split
      · exact Or.inr rfl
      · exact Or.inl rfl
    case isFalse => simp at stepped
  case h_2 => simp at stepped

theorem threadStep?_of_exited (host : Host)
    (exited : ∀ refresher ∈ work.refresher, refresher.thread = .exited) :
    work.threadStep? host event = none := by
  cases stepped : work.threadStep? host event with
  | none => rfl
  | some result =>
      rcases threadStep?_spec stepped with ⟨refresher, _, _, isRefresher, ofThread, through, _⟩
      rw [Refresher.step?_of_exited (exited refresher isRefresher) ofThread] at through
      simp at through

theorem ownerStep?_unlocking {host : Host} {opened : OpenFile} (isStage : work.stage = .unlocking)
    (zero : work.guard.bridge.settings.descriptorOffset = 0)
    (fits : (Int32.ofNat work.guard.descriptor).toInt = work.guard.descriptor)
    (isOpen : host.descriptor? work.guard.bridge.process work.guard.descriptor = some opened) :
    work.ownerStep? host = some (work.atStage .releasing,
      host.loseLock work.guard.bridge.process opened.file) := by
  have unlocked : work.guard.bridge.unlock host (.ofNat work.guard.descriptor) =
      .ok (host.loseLock work.guard.bridge.process opened.file) := by
    unfold Bridge.unlock
    rw [Bridge.systemDescriptor_of_zero zero]
    simp only [Except.bind, Host.removeLock, fits, isOpen]
    rfl
  simp only [ownerStep?, isStage, unlocked]

/-- A drop of a guard: what the owner still has of the guard at a stage, and what the thread of the
refresher can be about. -/
structure Drops (work : GuardDrop) (guard : SpoolGuard) (path : String) : Prop where
  process : work.guard.bridge.process = guard.bridge.process
  descriptor : work.guard.descriptor = guard.descriptor
  zero : work.guard.bridge.settings.descriptorOffset = 0
  refresher : work.refresher.isSome = work.guard.refresher.isSome
  thread : ∀ refresher ∈ work.refresher, work.stage.Fits refresher
  held : ¬work.stage.IsReleased → work.guard.bridge.locker.heldPath? = some path
  released : work.stage.IsReleased → work.guard.bridge.locker.held = none

end GuardDrop

/-- What is so on the host at a stage of the drop of a guard. -/
structure Host.Secures (host : Host) (guard : SpoolGuard) (mailbox lock : FileId) (path : String)
    (start : Host) (stage : DropStage) : Prop where
  opened : stage ≠ .finished → ∃ opened,
    host.descriptor? guard.bridge.process guard.descriptor = some opened ∧ opened.file = mailbox
  unlocked : ¬stage.IsLocked → ∀ record ∈ host.locks.held,
    record.isOf mailbox guard.bridge.process = false
  named : ¬stage.IsReleased → host.named? path = some lock
  idle : host.locks.isWaiting guard.bridge.process = false
  queued : LockTable.Queued ([], host.locks)
  others : ∀ record : RecordLock, record.owner = guard.bridge.process → record.file ≠ mailbox →
    (record ∈ host.locks.held ↔ record ∈ start.locks.held)

namespace GuardDrop

variable {work next : GuardDrop} {now : Instant} {guard : SpoolGuard} {path : String}
  {host after : Host}

theorem Drops.of_guard (drops : work.Drops guard path) (sameGuard : next.guard = work.guard)
    (refresher : next.refresher.isSome = work.refresher.isSome)
    (thread : ∀ refresher ∈ next.refresher, next.stage.Fits refresher)
    (unreleased : ¬work.stage.IsReleased) (stillUnreleased : ¬next.stage.IsReleased) :
    next.Drops guard path where
  process := by
    rw [sameGuard]
    exact drops.process
  descriptor := by
    rw [sameGuard]
    exact drops.descriptor
  zero := by
    rw [sameGuard]
    exact drops.zero
  refresher := by
    rw [sameGuard, refresher]
    exact drops.refresher
  thread := thread
  held _ := by
    rw [sameGuard]
    exact drops.held unreleased
  released released := absurd released stillUnreleased

theorem Drops.exited (drops : work.Drops guard path) (notStopping : work.stage ≠ .stopping)
    (notJoining : work.stage ≠ .joining) (refresher : Refresher)
    (isRefresher : refresher ∈ work.refresher) : refresher.thread = .exited := by
  have fits := drops.thread refresher isRefresher
  cases stage : work.stage with
  | stopping => exact absurd stage notStopping
  | joining => exact absurd stage notJoining
  | unlocking | releasing | closing | finished =>
      rw [stage] at fits
      exact fits

theorem Drops.stopping (drops : work.Drops guard path) (stage : work.stage = .stopping)
    (through : work.throughEvent now .stop .joining = some next) : next.Drops guard path := by
  rcases throughEvent_spec through with ⟨sameGuard, isJoining, isSome, steps⟩
  refine drops.of_guard sameGuard isSome ?_ (by simp [stage, DropStage.IsReleased])
    (by simp [isJoining, DropStage.IsReleased])
  intro later isLater
  rcases steps later isLater with ⟨earlier, isEarlier, stepped⟩
  have working := drops.thread earlier isEarlier
  rw [stage] at working
  rcases Refresher.Working.exists_stop working now with ⟨stopped, stopsTo, stopping, _⟩
  rw [stepped, Option.some.injEq] at stopsTo
  rw [isJoining, stopsTo]
  exact stopping

theorem Drops.joining (drops : work.Drops guard path) (stage : work.stage = .joining)
    (through : work.throughEvent now .join .unlocking = some next) : next.Drops guard path := by
  rcases throughEvent_spec through with ⟨sameGuard, isUnlocking, isSome, steps⟩
  refine drops.of_guard sameGuard isSome ?_ (by simp [stage, DropStage.IsReleased])
    (by simp [isUnlocking, DropStage.IsReleased])
  intro later isLater
  rcases steps later isLater with ⟨earlier, _, stepped⟩
  rw [isUnlocking]
  exact Refresher.thread_of_join stepped

theorem Drops.releasing (drops : work.Drops guard path) (stage : work.stage = .releasing)
    (stepped : work.ownerStep? host = some (next, after)) :
    next.Drops guard path ∧ next.stage = .closing ∧ host.SameWorld after := by
  simp only [ownerStep?, stage, Option.some.injEq, Prod.mk.injEq] at stepped
  rcases stepped with ⟨rfl, rfl⟩
  have freed := work.guard.bridge.locker.locker_release host
  refine ⟨⟨?_, drops.descriptor, drops.zero, drops.refresher, ?_, fun unreleased => absurd trivial
    unreleased, fun _ => congrArg Locker.held freed⟩, rfl, ?_⟩
  · exact (congrArg Locker.process freed).trans drops.process
  · exact drops.exited (by simp [stage]) (by simp [stage])
  · exact (work.guard.bridge.locker.sameWorld_release host).trans (Host.sameWorld_tell _ _ _)

end GuardDrop

namespace Host

variable {guard : SpoolGuard} {mailbox lock : FileId} {path : String} {start host after : Host}
  {stage next : DropStage}

/-- What leaves the `SameWorld` leaves a guard what it `Secures` at a stage of the same kind. -/
theorem Secures.of_world (secures : host.Secures guard mailbox lock path start stage)
    (world : host.SameWorld after) (going : stage ≠ .finished)
    (locked : ¬next.IsLocked → ¬stage.IsLocked)
    (named : ¬next.IsReleased → after.named? path = some lock) :
    after.Secures guard mailbox lock path start next where
  opened _ := by
    rcases secures.opened going with ⟨opened, isOpen, isMailbox⟩
    exact ⟨opened, (world.descriptor? _ _).trans isOpen, isMailbox⟩
  unlocked notLocked := by
    rw [world.locks]
    exact secures.unlocked (locked notLocked)
  named := named
  idle := by
    rw [world.locks]
    exact secures.idle
  queued := by
    rw [world.locks]
    exact secures.queued
  others := by
    rw [world.locks]
    exact secures.others

/-- The `release` of the record lock on the mailbox leaves all other locks, and the lock file. -/
theorem Secures.of_release (secures : host.Secures guard mailbox lock path start stage)
    (locks : after.locks = host.locks.release mailbox guard.bridge.process)
    (opened : next ≠ .finished → ∃ opened,
      after.descriptor? guard.bridge.process guard.descriptor = some opened ∧
        opened.file = mailbox)
    (named : ¬next.IsReleased → after.named? path = some lock) :
    after.Secures guard mailbox lock path start next ∧ host.SameElsewhere mailbox after := by
  rcases LockTable.elsewhere_release secures.queued mailbox guard.bridge.process with
    ⟨queued, elsewhere⟩
  rw [← locks] at queued elsewhere
  refine ⟨⟨opened, ?_, named, ?_, queued, ?_⟩, elsewhere⟩
  · intro _ record member
    rw [locks] at member
    exact LockTable.isOf_eq_false_of_mem_release mailbox secures.idle member
  · rw [locks]
    exact (LockTable.alters_release _ mailbox guard.bridge.process).isWaiting secures.idle
  · intro record isOwner different
    exact (elsewhere record different).trans (secures.others record isOwner different)

end Host

namespace GuardDrop

variable {work next : GuardDrop} {path : String} {host after : Host}

theorem files_of_ownerStep? (held : work.guard.bridge.locker.heldPath? = some path)
    (stepped : work.ownerStep? host = some (next, after)) (unreleased : ¬work.stage.IsReleased)
    (released : next.stage.IsReleased) : after.files = host.remaining path := by
  have through : ∀ event stage, ¬stage.IsReleased →
      work.throughEvent host.now event stage ≠ some next := by
    intro event stage early isNext
    rw [(throughEvent_spec isNext).2.1] at released
    exact early released
  cases stage : work.stage with
  | stopping =>
      simp only [ownerStep?, stage, Option.map_eq_some_iff] at stepped
      rcases stepped with ⟨_, isNext, same⟩
      cases same
      exact absurd isNext (through _ _ (by simp [DropStage.IsReleased]))
  | joining =>
      simp only [ownerStep?, stage, Option.map_eq_some_iff] at stepped
      rcases stepped with ⟨_, isNext, same⟩
      cases same
      exact absurd isNext (through _ _ (by simp [DropStage.IsReleased]))
  | unlocking =>
      simp only [ownerStep?, stage] at stepped
      split at stepped
      · cases stepped
        exact False.elim released
      · cases stepped
        exact False.elim released
  | releasing =>
      simp only [ownerStep?, stage, Option.some.injEq, Prod.mk.injEq] at stepped
      rw [← stepped.2]
      exact Locker.files_release_of_heldPath? host held
  | closing | finished => simp [stage, DropStage.IsReleased] at unreleased

end GuardDrop

namespace Unwinding

/-- The lock file of a guard is there, and a step takes it away. -/
structure Removes (path : String) (lock : FileId) (before after : Unwinding) : Prop where
  named : before.host.named? path = some lock
  files : after.host.files = before.host.remaining path

/-- What holds at any time in the course of a drop. -/
structure Holds (guard : SpoolGuard) (mailbox lock : FileId) (path : String) (start : Host)
    (unwinding : Unwinding) : Prop where
  fits : (Int32.ofNat guard.descriptor).toInt = guard.descriptor
  drops : unwinding.work.Drops guard path
  secures : unwinding.host.Secures guard mailbox lock path start unwinding.work.stage

variable {guard : SpoolGuard} {mailbox lock : FileId} {path : String} {start host : Host}
  {unwinding : Unwinding} {work : GuardDrop}

/-- A step of a drop: what holds still does, and no record lock on another file is lost or got. -/
structure Goes (guard : SpoolGuard) (mailbox lock : FileId) (path : String)
    (start : Host) (unwinding next : Unwinding) : Prop where
  holds : Holds guard mailbox lock path start next
  elsewhere : unwinding.host.SameElsewhere mailbox next.host

namespace Holds

theorem threadStep (holds : Holds guard mailbox lock path start unwinding)
    {event : RefresherEvent}
    (stepped : unwinding.work.threadStep? unwinding.host event = some (work, host)) :
    Goes guard mailbox lock path start unwinding { work := work, host := host } := by
  rcases GuardDrop.threadStep?_spec stepped with
    ⟨refresher, later, touched, isRefresher, ofThread, through, rfl, result⟩
  have world : unwinding.host.SameWorld host := by
    rcases result with rfl | rfl
    · exact .refl _
    · exact unwinding.host.sameWorld_perform_touch touched
  have named : unwinding.host.named? path = some lock → host.named? path = some lock := by
    intro isNamed
    rcases result with rfl | rfl
    · exact isNamed
    · exact unwinding.host.named?_perform (by simp) isNamed
  have early : unwinding.work.stage = .stopping ∨ unwinding.work.stage = .joining := by
    by_contra late
    rw [not_or] at late
    have exited := holds.drops.exited late.1 late.2 refresher isRefresher
    rw [Refresher.step?_of_exited exited ofThread] at through
    simp at through
  have unreleased : ¬unwinding.work.stage.IsReleased := by
    rcases early with stage | stage
    · simp [stage, DropStage.IsReleased]
    · simp [stage, DropStage.IsReleased]
  have going : unwinding.work.stage ≠ .finished := by
    rcases early with stage | stage
    · simp [stage]
    · simp [stage]
  refine ⟨⟨holds.fits, ?_, ?_⟩, .of_locks world.locks⟩
  · refine holds.drops.of_guard rfl (by simp [isRefresher]) ?_ unreleased unreleased
    rintro _ ⟨⟩
    have fits := holds.drops.thread refresher isRefresher
    rcases early with stage | stage
    · simp only [stage, DropStage.Fits] at fits ⊢
      exact fits.step ofThread through
    · simp only [stage, DropStage.Fits] at fits ⊢
      exact fits.step ofThread through
  · exact holds.secures.of_world world going id fun _ => named (holds.secures.named unreleased)

theorem unlocking (holds : Holds guard mailbox lock path start unwinding)
    (stage : unwinding.work.stage = .unlocking) :
    unwinding.work.ownerStep? unwinding.host = some (unwinding.work.atStage .releasing,
        unwinding.host.loseLock guard.bridge.process mailbox) ∧
      Goes guard mailbox lock path start unwinding
        { work := unwinding.work.atStage .releasing
          host := unwinding.host.loseLock guard.bridge.process mailbox } := by
  have drops := holds.drops
  have secures := holds.secures
  rcases secures.opened (by simp [stage]) with ⟨opened, isOpen, isMailbox⟩
  have named := secures.named (by simp [stage, DropStage.IsReleased])
  have fits : (Int32.ofNat unwinding.work.guard.descriptor).toInt =
      unwinding.work.guard.descriptor := by
    rw [drops.descriptor]
    exact holds.fits
  have isTarget : unwinding.host.descriptor? unwinding.work.guard.bridge.process
      unwinding.work.guard.descriptor = some opened := by
    rw [drops.descriptor, drops.process]
    exact isOpen
  have stepped := GuardDrop.ownerStep?_unlocking stage drops.zero fits isTarget
  rw [drops.process, isMailbox] at stepped
  have released : Host.Secures (unwinding.host.loseLock guard.bridge.process mailbox) guard mailbox
      lock path start .releasing ∧
        unwinding.host.SameElsewhere mailbox
          (unwinding.host.loseLock guard.bridge.process mailbox) :=
    secures.of_release rfl (fun _ => ⟨opened, isOpen, isMailbox⟩) fun _ => named
  refine ⟨stepped, ⟨holds.fits, ?_, released.1⟩, released.2⟩
  exact drops.of_guard rfl rfl (drops.exited (by simp [stage]) (by simp [stage]))
    (by simp [stage, DropStage.IsReleased]) (by simp [GuardDrop.atStage, DropStage.IsReleased])

theorem releasing (holds : Holds guard mailbox lock path start unwinding)
    (stage : unwinding.work.stage = .releasing)
    (stepped : unwinding.work.ownerStep? unwinding.host = some (work, host)) :
    Goes guard mailbox lock path start unwinding { work := work, host := host } := by
  rcases holds.drops.releasing stage stepped with ⟨drops, isClosing, world⟩
  refine ⟨⟨holds.fits, drops, ?_⟩, .of_locks world.locks⟩
  refine holds.secures.of_world world (by simp [stage]) ?_ ?_
  · simp [stage, DropStage.IsLocked]
  · simp [isClosing, DropStage.IsReleased]

theorem closing (holds : Holds guard mailbox lock path start unwinding)
    (stage : unwinding.work.stage = .closing)
    (stepped : unwinding.work.ownerStep? unwinding.host = some (work, host)) :
    Goes guard mailbox lock path start unwinding { work := work, host := host } := by
  have drops := holds.drops
  simp only [GuardDrop.ownerStep?, stage, Option.some.injEq, Prod.mk.injEq] at stepped
  rcases stepped with ⟨rfl, rfl⟩
  rcases holds.secures.opened (by simp [stage]) with ⟨opened, isOpen, rfl⟩
  have closed : Host.Secures
      (unwinding.host.close unwinding.work.guard.bridge.process unwinding.work.guard.descriptor)
      guard opened.file lock path start .finished ∧ unwinding.host.SameElsewhere opened.file
        (unwinding.host.close unwinding.work.guard.bridge.process
          unwinding.work.guard.descriptor) := by
    rw [drops.process, drops.descriptor]
    exact holds.secures.of_release (Host.locks_close isOpen) (by simp)
      (by simp [DropStage.IsReleased])
  refine ⟨⟨holds.fits, ?_, closed.1⟩, closed.2⟩
  exact ⟨drops.process, drops.descriptor, drops.zero, drops.refresher,
    drops.exited (by simp [stage]) (by simp [stage]), fun unreleased => absurd trivial unreleased,
    fun _ => drops.released (by simp [stage, DropStage.IsReleased])⟩

theorem ownerStep (holds : Holds guard mailbox lock path start unwinding)
    (stepped : unwinding.work.ownerStep? unwinding.host = some (work, host)) :
    Goes guard mailbox lock path start unwinding { work := work, host := host } := by
  have waits : work.Drops guard path → unwinding.work.stage.IsLocked → work.stage.IsLocked →
      Goes guard mailbox lock path start unwinding { work := work, host := unwinding.host } := by
    intro drops locked stillLocked
    have going : unwinding.work.stage ≠ .finished := by
      intro finished
      rw [finished] at locked
      exact locked
    refine ⟨⟨holds.fits, drops, ?_⟩, .of_locks rfl⟩
    exact holds.secures.of_world (.refl _) going (fun unlocked => absurd stillLocked unlocked)
      fun _ => holds.secures.named locked.not_isReleased
  cases stage : unwinding.work.stage with
  | stopping =>
      simp only [GuardDrop.ownerStep?, stage, Option.map_eq_some_iff] at stepped
      rcases stepped with ⟨_, through, same⟩
      cases same
      refine waits (holds.drops.stopping stage through) (by simp [stage, DropStage.IsLocked]) ?_
      rw [(GuardDrop.throughEvent_spec through).2.1]
      trivial
  | joining =>
      simp only [GuardDrop.ownerStep?, stage, Option.map_eq_some_iff] at stepped
      rcases stepped with ⟨_, through, same⟩
      cases same
      refine waits (holds.drops.joining stage through) (by simp [stage, DropStage.IsLocked]) ?_
      rw [(GuardDrop.throughEvent_spec through).2.1]
      trivial
  | unlocking =>
      rcases holds.unlocking stage with ⟨isNext, goes⟩
      rw [isNext] at stepped
      cases stepped
      exact goes
  | releasing => exact holds.releasing stage stepped
  | closing => exact holds.closing stage stepped
  | finished => simp [GuardDrop.ownerStep?, stage] at stepped

theorem change (holds : Holds guard mailbox lock path start unwinding) {next : Host}
    (tolerates : unwinding.Tolerates next) :
    Holds guard mailbox lock path start { unwinding with host := next } := by
  have process : unwinding.process = guard.bridge.process := holds.drops.process
  have secures := holds.secures
  rcases tolerates with ⟨opened, own, idle, queued, lockFile⟩
  rw [process, holds.drops.descriptor] at opened
  rw [process] at own idle
  refine ⟨holds.fits, holds.drops, ?_, ?_, ?_, idle, queued, ?_⟩
  · intro going
    rw [opened]
    exact secures.opened going
  · intro unlocked record member
    by_cases isOwner : record.owner = guard.bridge.process
    · exact secures.unlocked unlocked record ((own record isOwner).mp member)
    · exact RecordLock.isOf_eq_false_of_owner_ne mailbox isOwner
  · intro unreleased
    exact lockFile path lock (holds.drops.held unreleased) (secures.named unreleased)
  · intro record isOwner different
    exact (own record isOwner).trans (secures.others record isOwner different)

/-- `Holds` is kept by every `DropEvent`. -/
theorem dropStep (holds : Holds guard mailbox lock path start unwinding) {event : DropEvent}
    (stepped : unwinding.work.step? unwinding.host event = some (work, host)) :
    Goes guard mailbox lock path start unwinding { work := work, host := host } := by
  cases event with
  | owner => exact holds.ownerStep stepped
  | thread event => exact holds.threadStep stepped

theorem step (holds : Holds guard mailbox lock path start unwinding) {event : UnwindingEvent}
    (tolerates : ∀ next, event = .change next → unwinding.Tolerates next) :
    Holds guard mailbox lock path start (unwinding.step event) := by
  cases event with
  | change next => exact holds.change (tolerates next rfl)
  | step event =>
      cases stepped : unwinding.work.step? unwinding.host event with
      | none =>
          simp only [Unwinding.step, stepped]
          exact holds
      | some result =>
          simp only [Unwinding.step, stepped]
          exact (holds.dropStep stepped).holds

theorem run (holds : Holds guard mailbox lock path start unwinding) {events : List UnwindingEvent}
    (permits : unwinding.Permits events) :
    Holds guard mailbox lock path start (unwinding.run events) := by
  induction events generalizing unwinding with
  | nil => exact holds
  | cons event later ih => exact ih (holds.step permits.1) permits.2

/-- Only a step of the owner gives the lock file back, which it `Removes`. -/
theorem removes_of_step (holds : Holds guard mailbox lock path start unwinding)
    {event : UnwindingEvent} (unreleased : ¬unwinding.work.stage.IsReleased)
    (released : (unwinding.step event).work.stage.IsReleased) :
    event = .step .owner ∧ Removes path lock unwinding (unwinding.step event) := by
  cases event with
  | change next => exact absurd released unreleased
  | step event =>
      cases stepped : unwinding.work.step? unwinding.host event with
      | none =>
          simp only [Unwinding.step, stepped] at released
          exact absurd released unreleased
      | some result =>
          simp only [Unwinding.step, stepped] at released ⊢
          cases event with
          | thread event =>
              rcases GuardDrop.threadStep?_spec stepped with ⟨_, _, _, _, _, _, same, _⟩
              rw [same] at released
              exact absurd released unreleased
          | owner =>
              have stillNamed := holds.secures.named unreleased
              have isHeld := holds.drops.held unreleased
              exact ⟨rfl, stillNamed,
                GuardDrop.files_of_ownerStep? isHeld stepped unreleased released⟩

/-- A run that comes to a stage that `IsReleased` has an event that `Removes` the lock file. -/
theorem exists_removal (holds : Holds guard mailbox lock path start unwinding)
    {events : List UnwindingEvent} (permits : unwinding.Permits events)
    (unreleased : ¬unwinding.work.stage.IsReleased)
    (released : (unwinding.run events).work.stage.IsReleased) :
    ∃ earlier later, events = earlier ++ .step .owner :: later ∧
      Removes path lock (unwinding.run earlier) (unwinding.run (earlier ++ [.step .owner])) := by
  induction events generalizing unwinding with
  | nil => exact absurd released unreleased
  | cons event later ih =>
      by_cases isReleased : (unwinding.step event).work.stage.IsReleased
      · rcases holds.removes_of_step unreleased isReleased with ⟨rfl, removes⟩
        exact ⟨[], later, rfl, removes⟩
      · rcases ih (holds.step permits.1) permits.2 isReleased released with
          ⟨earlier, others, rfl, removes⟩
        exact ⟨event :: earlier, others, rfl, removes⟩

theorem begin {refresher : Option Refresher} (lives : guard.Lives mailbox lock path host)
    (queued : LockTable.Queued ([], host.locks))
    (attached : refresher.isSome = guard.refresher.isSome)
    (working : ∀ thread ∈ refresher, thread.Working) :
    Holds guard mailbox lock path host (Unwinding.begin guard refresher host) where
  fits := lives.fits
  drops :=
    { process := rfl
      descriptor := rfl
      zero := lives.zero
      refresher := attached
      thread := working
      held := fun _ => lives.held
      released := False.elim }
  secures :=
    { opened := fun _ => lives.opened
      unlocked := fun unlocked => absurd trivial unlocked
      named := fun _ => lives.named
      idle := lives.idle
      queued := queued
      others := fun _ _ _ => Iff.rfl }

end Holds

end Unwinding

/-! ## The end of a drop -/

/-- A bound for the number of steps to the end, given what is left to the thread. -/
def DropStage.rank (left : Nat) : DropStage → Nat
  | .stopping => left + 5
  | .joining => left + 4
  | .unlocking => 3
  | .releasing => 2
  | .closing => 1
  | .finished => 0

namespace GuardDrop

variable {work next : GuardDrop} {guard : SpoolGuard} {path : String} {host after : Host}

/-- The steps that are left to the thread, if there is one. -/
def threadRank (work : GuardDrop) : Nat :=
  (work.refresher.map Refresher.threadRank).getD 0

/-- A bound for the number of steps to the end, once the refresher is told to stop. -/
def rank (work : GuardDrop) : Nat :=
  work.stage.rank work.threadRank

theorem rank_of_stage {stage : DropStage} (isStage : work.stage = stage) :
    work.rank = stage.rank work.threadRank := by
  rw [← isStage]
  rfl

theorem exists_stopping (drops : work.Drops guard path) (host : Host)
    (stage : work.stage = .stopping) :
    ∃ next, work.ownerStep? host = some (next, host) ∧ next.rank < work.rank := by
  rw [rank_of_stage stage]
  simp only [ownerStep?, stage, throughEvent]
  cases isRefresher : work.refresher with
  | none => exact ⟨work.atStage .joining, rfl, Nat.lt_succ_self (work.threadRank + 4)⟩
  | some refresher =>
      have working := drops.thread refresher isRefresher
      rw [stage] at working
      rcases Refresher.Working.exists_stop working host.now with ⟨stopped, stopsTo, _, sameThread⟩
      have sameRank : stopped.threadRank = refresher.threadRank := by
        simp only [Refresher.threadRank, sameThread]
      refine ⟨{ work with refresher := some stopped, stage := .joining }, by simp [stopsTo], ?_⟩
      simp only [rank, DropStage.rank, threadRank, isRefresher, Option.map_some, Option.getD_some,
        sameRank]
      omega

theorem exists_joining (drops : work.Drops guard path) (host : Host)
    (stage : work.stage = .joining) :
    ∃ event next after, work.step? host event = some (next, after) ∧ next.rank < work.rank := by
  rw [rank_of_stage stage]
  cases isRefresher : work.refresher with
  | none =>
      refine ⟨.owner, work.atStage .unlocking, host, ?_, Nat.lt_add_left work.threadRank
        (Nat.lt_succ_self 3)⟩
      simp [step?, ownerStep?, stage, throughEvent, isRefresher]
  | some refresher =>
      have stopping := drops.thread refresher isRefresher
      rw [stage] at stopping
      rcases Refresher.Stopping.exists_step stopping host.now with
        ⟨event, later, ofThread, stepped, less⟩ | ⟨done, joins, _⟩
      · have attached := drops.refresher
        rw [isRefresher, Option.isSome_some] at attached
        rcases Option.isSome_iff_exists.mp attached.symm with ⟨task, isTask⟩
        refine ⟨.thread event, { work with refresher := some later },
          if event = .rest then host.perform (.touch task.path) else host, ?_, ?_⟩
        · simp only [step?, threadStep?, isTask, isRefresher, ofThread, stepped, if_true,
            Option.map_some]
        · simp only [rank, DropStage.rank, stage, threadRank, isRefresher, Option.map_some,
            Option.getD_some]
          omega
      · refine ⟨.owner, { work with refresher := some done, stage := .unlocking }, host, ?_,
          Nat.lt_add_left work.threadRank (Nat.lt_succ_self 3)⟩
        simp [step?, ownerStep?, stage, throughEvent, isRefresher, joins]

theorem exists_unlocking (host : Host) (stage : work.stage = .unlocking) :
    ∃ after, work.ownerStep? host = some (work.atStage .releasing, after) ∧
      after.files = host.files ∧ after.now = host.now := by
  simp only [ownerStep?, stage]
  split
  case h_1 unlocked given =>
      rcases work.guard.bridge.exists_of_unlock given with ⟨file, rfl⟩
      exact ⟨_, rfl, rfl, rfl⟩
  case h_2 => exact ⟨_, rfl, rfl, rfl⟩

/-- A drop that has not ended can always go on to a lower `rank`. -/
theorem exists_step (drops : work.Drops guard path) (host : Host)
    (going : work.stage ≠ .finished) :
    ∃ event next after, work.step? host event = some (next, after) ∧ next.rank < work.rank := by
  cases stage : work.stage with
  | finished => exact absurd stage going
  | stopping =>
      rcases exists_stopping drops host stage with ⟨next, stepped, less⟩
      exact ⟨.owner, next, host, stepped, less⟩
  | joining => exact exists_joining drops host stage
  | unlocking =>
      rcases exists_unlocking host stage with ⟨after, stepped, _⟩
      rw [rank_of_stage stage]
      exact ⟨.owner, work.atStage .releasing, after, stepped, Nat.lt_succ_self 2⟩
  | releasing =>
      rw [rank_of_stage stage]
      simp only [step?, ownerStep?, stage]
      exact ⟨.owner, _, _, rfl, Nat.lt_succ_self 1⟩
  | closing =>
      rw [rank_of_stage stage]
      simp only [step?, ownerStep?, stage]
      exact ⟨.owner, _, _, rfl, Nat.lt_succ_self 0⟩

theorem finished_of_unlocking (host : Host) (stage : work.stage = .unlocking) :
    (work.run host [.owner, .owner, .owner]).1.stage = .finished := by
  rcases exists_unlocking host stage with ⟨after, stepped, _⟩
  simp only [run, step?, stepped, Option.getD_some]
  rfl

theorem files_of_unlocking (host : Host) (stage : work.stage = .unlocking)
    (held : work.guard.bridge.locker.heldPath? = some path) :
    (work.run host [.owner, .owner, .owner]).2.files = host.remaining path := by
  rcases exists_unlocking host stage with ⟨after, stepped, files, now⟩
  have released : (work.guard.bridge.unlockMail after).2.files = host.remaining path := by
    rw [← Host.remaining_congr files now]
    exact Locker.files_release_of_heldPath? after held
  simp only [run, step?, stepped, Option.getD_some]
  rw [← released]
  exact Host.files_close _ _ _

theorem run_cons_of_step {event : DropEvent} (later : List DropEvent)
    (stepped : work.step? host event = some (next, after)) :
    work.run host (event :: later) = next.run after later := by
  simp only [run, stepped, Option.getD_some]

theorem run_cons_of_none {event : DropEvent} (later : List DropEvent)
    (blocked : work.step? host event = none) :
    work.run host (event :: later) = work.run host later := by
  simp only [run, blocked, Option.getD_none]

/-- If the thread is at rest when the drop begins, a `direct` run ends it: the owner stops the
thread, it ends, the owner sees that it has ended, and the rest is the owner's. -/
theorem exists_run_direct (host : Host) (stage : work.stage = .stopping)
    (attached : work.refresher.isSome = work.guard.refresher.isSome)
    (resting : ∀ refresher ∈ work.refresher,
      refresher.Working ∧ ∃ wake, refresher.thread = .resting wake) :
    ∃ joined : GuardDrop, joined.stage = .unlocking ∧ joined.guard = work.guard ∧
      work.run host direct = joined.run host [.owner, .owner, .owner] := by
  unfold direct
  cases isRefresher : work.refresher with
  | none =>
      have stops : work.step? host .owner = some (work.atStage .joining, host) := by
        simp [step?, ownerStep?, stage, throughEvent, isRefresher]
      have rests : (work.atStage .joining).step? host (.thread .receive) = none := by
        simp [step?, threadStep?, atStage, isRefresher]
      have joins : (work.atStage .joining).step? host .owner =
          some ((work.atStage .joining).atStage .unlocking, host) := by
        simp [step?, ownerStep?, throughEvent, atStage, isRefresher]
      rw [run_cons_of_step _ stops, run_cons_of_none _ rests, run_cons_of_step _ joins]
      exact ⟨(work.atStage .joining).atStage .unlocking, rfl, rfl, rfl⟩
  | some refresher =>
      rw [isRefresher, Option.isSome_some] at attached
      rcases Option.isSome_iff_exists.mp attached.symm with ⟨task, isTask⟩
      rcases resting refresher isRefresher with ⟨working, wake, atRest⟩
      rcases Refresher.Working.exists_stop working host.now with
        ⟨stopped, stopsTo, stopping, sameThread⟩
      rw [atRest] at sameThread
      have told : stopped.message = true := stopping.told.resolve_right (by simp [sameThread])
      let ended : Refresher := { stopped with thread := .exited, message := false }
      let joined : GuardDrop :=
        { work with refresher := some { ended with owner := .done }, stage := .unlocking }
      have stops : work.step? host .owner =
          some ({ work with refresher := some stopped, stage := .joining }, host) := by
        simp [step?, ownerStep?, stage, throughEvent, isRefresher, stopsTo]
      have ends : step? { work with refresher := some stopped, stage := .joining } host
          (.thread .receive) =
            some ({ work with refresher := some ended, stage := .joining }, host) := by
        simp [step?, threadStep?, isTask, RefresherEvent.isOfThread, Refresher.step?, sameThread,
          told, ended]
      have joins : step? { work with refresher := some ended, stage := .joining } host .owner =
          some (joined, host) := by
        simp [step?, ownerStep?, throughEvent, Refresher.step?, stopping.owner, ended, joined]
      rw [run_cons_of_step _ stops, run_cons_of_step _ ends, run_cons_of_step _ joins]
      exact ⟨joined, rfl, rfl, rfl⟩

theorem finished_direct (host : Host) (stage : work.stage = .stopping)
    (attached : work.refresher.isSome = work.guard.refresher.isSome)
    (resting : ∀ refresher ∈ work.refresher,
      refresher.Working ∧ ∃ wake, refresher.thread = .resting wake) :
    (work.run host direct).1.stage = .finished := by
  rcases exists_run_direct host stage attached resting with ⟨joined, unlocking, _, ran⟩
  rw [ran]
  exact finished_of_unlocking host unlocking

end GuardDrop

namespace Unwinding

variable {guard : SpoolGuard} {mailbox lock : FileId} {path : String} {start : Host}
  {unwinding : Unwinding}

theorem run_steps (work : GuardDrop) (host : Host) (steps : List DropEvent) :
    run { work := work, host := host } (steps.map .step) =
      { work := (work.run host steps).1, host := (work.run host steps).2 } := by
  induction steps generalizing work host with
  | nil => rfl
  | cons event later ih =>
      have stepsTo : step { work := work, host := host } (.step event) =
          { work := ((work.step? host event).getD (work, host)).1
            host := ((work.step? host event).getD (work, host)).2 } := by
        cases stepped : work.step? host event with
        | none => simp only [step, stepped, Option.getD_none]
        | some result => simp only [step, stepped, Option.getD_some]
      simp only [List.map_cons, run, List.foldl_cons, stepsTo]
      exact ih _ _

theorem permits_steps (unwinding : Unwinding) (steps : List DropEvent) :
    unwinding.Permits (steps.map .step) := by
  induction steps generalizing unwinding with
  | nil => trivial
  | cons event later ih => exact ⟨fun next isChange => by simp at isChange, ih _⟩

theorem tolerates_later (now : Instant) (queued : LockTable.Queued ([], unwinding.host.locks))
    (idle : unwinding.host.locks.isWaiting unwinding.process = false) :
    unwinding.Tolerates { unwinding.host with now := now } where
  opened := rfl
  own _ _ := Iff.rfl
  idle := idle
  queued := queued
  lockFile _ _ _ named := named

/-- After the drop the bridge holds no lock, and the process has none on the mailbox. -/
theorem Holds.given_up (holds : Holds guard mailbox lock path start unwinding)
    (finished : unwinding.work.stage = .finished) :
    unwinding.work.guard.bridge.locker.held = none ∧
      ∀ record ∈ unwinding.host.locks.held, record.isOf mailbox guard.bridge.process = false :=
  ⟨holds.drops.released (by simp [finished, DropStage.IsReleased]),
    holds.secures.unlocked (by simp [finished, DropStage.IsLocked])⟩

/-- From any time in the course of a drop some steps lead to its end. -/
theorem Holds.exists_finished (holds : Holds guard mailbox lock path start unwinding) :
    ∃ steps : List DropEvent, (unwinding.run (steps.map .step)).work.stage = .finished := by
  induction rank : unwinding.work.rank using Nat.strongRecOn generalizing unwinding with
  | ind rank ih =>
      by_cases ended : unwinding.work.stage = .finished
      · exact ⟨[], ended⟩
      · rcases GuardDrop.exists_step holds.drops unwinding.host ended with
          ⟨event, work, host, stepped, less⟩
        have stepsTo : unwinding.step (.step event) = { work := work, host := host } := by
          simp only [Unwinding.step, stepped]
        rcases ih work.rank (by omega) (holds.dropStep stepped).holds rfl with ⟨steps, finished⟩
        refine ⟨event :: steps, ?_⟩
        rw [← stepsTo] at finished
        exact finished

end Unwinding

namespace SpoolGuard

variable {guard : SpoolGuard} {mailbox lock : FileId} {path : String} {host after : Host}

/-- A guard that was just obtained over a bridge without an offset `Lives`, and its refresher
touches its lock file. -/
theorem exists_lives_of_acquire {bridge : Bridge} {user tag : String} {retries : UInt32}
    (ready : host.IsReady bridge.process) (zero : bridge.settings.descriptorOffset = 0)
    (acquired : SpoolGuard.acquire bridge host user tag retries = (.ok guard, after)) :
    ∃ mailbox lock path, guard.Lives mailbox lock path after ∧
      guard.refresher = some { process := guard.bridge.process, path := path } ∧
      { file := mailbox, owner := guard.bridge.process, mode := guard.mode } ∈
        after.locks.held := by
  rcases exists_of_acquire acquired with
    ⟨next, locked, secured, taken, isBridge, _, _, opening, _, _, locks⟩
  rcases exists_lockPath_of_acquire taken with ⟨path, found⟩
  rcases exists_held_of_acquire ready acquired with ⟨_, _, held, isNamed⟩
  rcases exists_mailbox_of_acquire ready acquired with
    ⟨mailbox, target, isMailbox, _, isTarget, member, _⟩
  rcases Option.isSome_iff_exists.mp isNamed with ⟨lock, named⟩
  have leaves := Locker.leaves_of_acquire ready.sound found taken
  have sameProcess : guard.bridge.process = bridge.process := by
    rw [isBridge]
    exact leaves.process
  rcases exists_of_openLocked opening with
    ⟨_, between, _, _, granted, opens, _, _, requested, rfl⟩
  have idle : between.locks.isWaiting guard.bridge.process = false := by
    rw [opens.locks, sameProcess]
    exact leaves.wears.locks.isWaiting ready.idle
  rw [target_eq_mailbox zero isMailbox isTarget, ← sameProcess] at member
  refine ⟨mailbox.file, lock, _, ⟨?_, ?_, ⟨mailbox, ?_, rfl⟩, ?_, named, ?_⟩, ?_, member⟩
  · rw [isBridge]
    exact zero
  · rw [sameProcess] at opens
    exact opens.toInt_number ready leaves.wears
  · rw [sameProcess]
    exact isMailbox
  · simp only [Locker.heldPath?, held, Option.map_some]
  · rw [locks]
    exact LockTable.isWaiting_of_request requested idle
  · rw [refresher_of_acquire acquired]
    simp only [Locker.refreshTask?, held, Option.map_some, Bridge.process]

theorem exists_begin (guard : SpoolGuard) (host : Host) :
    ∃ refresher quiet, GuardDrop.begin guard host =
        ((Unwinding.begin guard refresher quiet).work, quiet) ∧
      refresher.isSome = guard.refresher.isSome ∧
      (∀ thread ∈ refresher, thread.Working ∧ ∃ wake, thread.thread = .resting wake) ∧
      quiet.locks = host.locks ∧ quiet.files = host.files ∧ quiet.now = host.now ∧
      ∀ mailbox lock path, guard.Lives mailbox lock path host →
        guard.Lives mailbox lock path quiet := by
  unfold GuardDrop.begin
  cases guard.refresher with
  | none => exact ⟨none, host, rfl, rfl, by simp, rfl, rfl, rfl, fun _ _ _ lives => lives⟩
  | some task =>
      refine ⟨_, task.stop host, rfl, rfl, ?_, rfl, rfl, rfl, fun _ _ _ lives => ?_⟩
      · rintro _ ⟨⟩
        exact ⟨⟨rfl, rfl, rfl, by simp⟩, _, rfl⟩
      · exact ⟨lives.zero, lives.fits, lives.opened, lives.held, lives.named, lives.idle⟩

/-- `SpoolGuard.drop` removes the lock file at `heldPath?` and nothing else. -/
theorem files_drop (guard : SpoolGuard) (host : Host)
    (held : guard.bridge.locker.heldPath? = some path) :
    (guard.drop host).2.files = host.remaining path := by
  rcases exists_begin guard host with
    ⟨refresher, quiet, isBegun, attached, resting, _, files, now, _⟩
  let begun : GuardDrop := { guard := guard, refresher := refresher }
  have direct := begun.exists_run_direct quiet rfl attached resting
  rcases direct with ⟨joined, unlocking, sameGuard, ran⟩
  have stillHeld : joined.guard.bridge.locker.heldPath? = some path := sameGuard ▸ held
  rw [← Host.remaining_congr files now]
  simp only [drop, isBegun]
  exact (congrArg (fun result => result.2.files) ran).trans
    (GuardDrop.files_of_unlocking quiet unlocking stillHeld)

/-- What the drop of a guard leaves: neither of its locks, no lock file, and what its process has of
other files. -/
structure GivenUp (guard : SpoolGuard) (mailbox : FileId) (path : String) (host : Host)
    (bridge : Bridge) (after : Host) : Prop where
  held : bridge.locker.held = none
  unlocked : ∀ record ∈ after.locks.held, record.isOf mailbox guard.bridge.process = false
  others : ∀ record : RecordLock, record.owner = guard.bridge.process → record.file ≠ mailbox →
    (record ∈ after.locks.held ↔ record ∈ host.locks.held)
  files : after.files = host.remaining path

theorem given_up_of_drop {bridge : Bridge} (lives : guard.Lives mailbox lock path host)
    (queued : LockTable.Queued ([], host.locks)) (dropped : guard.drop host = (bridge, after)) :
    guard.GivenUp mailbox path host bridge after := by
  have files := files_drop guard host lives.held
  rcases exists_begin guard host with
    ⟨refresher, quiet, isBegun, attached, resting, locks, _, _, livesOn⟩
  let begun : GuardDrop := { guard := guard, refresher := refresher }
  have finished : (begun.run quiet GuardDrop.direct).1.stage = .finished :=
    GuardDrop.finished_direct quiet rfl attached resting
  have holds := (Unwinding.Holds.begin (livesOn mailbox lock path lives) (locks ▸ queued) attached
    fun thread isThread => (resting thread isThread).1).run
    (Unwinding.permits_steps _ GuardDrop.direct)
  have reached := Unwinding.run_steps begun quiet GuardDrop.direct
  rw [show Unwinding.begin guard refresher quiet = { work := begun, host := quiet } from rfl,
    reached] at holds
  rw [dropped] at files
  simp only [drop, isBegun, Prod.mk.injEq] at dropped
  rw [← dropped.1, ← dropped.2] at files ⊢
  rcases holds.given_up finished with ⟨released, unlocked⟩
  exact ⟨released, unlocked, fun record owner elsewhere =>
    locks ▸ holds.secures.others record owner elsewhere, files⟩

/-- What is so of the drop of a guard when some events have led to a time in its course. -/
structure Unwinds (guard : SpoolGuard) (mailbox lock : FileId) (path : String) (start : Unwinding)
    (events : List UnwindingEvent) (done : Unwinding) : Prop where
  /-- Whenever the process holds the record lock on the mailbox, the lock file is there. -/
  covered : ∀ record ∈ done.host.locks.held, record.isOf mailbox guard.bridge.process = true →
    done.host.named? path = some lock
  /-- Once the owner has waited for the thread, the refresher touches nothing any more. -/
  silent : done.work.stage ≠ .stopping → done.work.stage ≠ .joining →
    ∀ event, done.work.threadStep? done.host event = none
  /-- No step changes a record lock on another file. -/
  elsewhere : ∀ event work later, done.work.step? done.host event = some (work, later) →
    done.host.SameElsewhere mailbox later
  /-- What the process has of other files is as before. -/
  others : ∀ record : RecordLock, record.owner = guard.bridge.process → record.file ≠ mailbox →
    (record ∈ done.host.locks.held ↔ record ∈ start.host.locks.held)
  /-- When the drop has ended, the bridge holds no lock and the process has none on the mailbox. -/
  freed : done.work.stage = .finished → done.work.guard.bridge.locker.held = none ∧
    ∀ record ∈ done.host.locks.held, record.isOf mailbox guard.bridge.process = false
  /-- When the drop has ended, the owner has removed the lock file, which was there till then. -/
  removed : done.work.stage = .finished → ∃ earlier later,
    events = earlier ++ .step .owner :: later ∧
      Unwinding.Removes path lock (start.run earlier) (start.run (earlier ++ [.step .owner]))
  /-- The drop can come to its end. -/
  ends : ∃ steps : List DropEvent, (done.run (steps.map .step)).work.stage = .finished
  /-- So it does if nobody else acts. -/
  dropped : ∀ bridge after, guard.drop start.host = (bridge, after) →
    guard.GivenUp mailbox path start.host bridge after

/-- However the steps of the thread, those of the drop and the acts of others follow each other, the
drop of a guard that `Lives` is safe at any time in the sense of `Unwinds`. A guard that was just
obtained lives, by `exists_lives_of_acquire`. -/
theorem unwinds_safely {refresher : Option Refresher} {events : List UnwindingEvent}
    {done : Unwinding} (lives : guard.Lives mailbox lock path host)
    (queued : LockTable.Queued ([], host.locks))
    (attached : refresher.isSome = guard.refresher.isSome)
    (working : ∀ thread ∈ refresher, thread.Working)
    (permits : (Unwinding.begin guard refresher host).Permits events)
    (reached : (Unwinding.begin guard refresher host).run events = done) :
    guard.Unwinds mailbox lock path (Unwinding.begin guard refresher host) events done := by
  have begun := Unwinding.Holds.begin lives queued attached working
  have holds := begun.run permits
  have removal := begun.exists_removal permits (by simp [Unwinding.begin, DropStage.IsReleased])
  rw [reached] at holds removal
  constructor
  case covered =>
    intro record member isOf
    refine holds.secures.named ?_
    intro released
    have unlocked : ¬done.work.stage.IsLocked := fun locked => locked.not_isReleased released
    rw [holds.secures.unlocked unlocked record member] at isOf
    simp at isOf
  case silent =>
    intro notStopping notJoining event
    exact GuardDrop.threadStep?_of_exited done.host (holds.drops.exited notStopping notJoining)
  case elsewhere =>
    intro event work later stepped
    exact (holds.dropStep stepped).elsewhere
  case others => exact holds.secures.others
  case freed => exact holds.given_up
  case removed =>
    intro finished
    exact removal (by simp [finished, DropStage.IsReleased])
  case ends => exact holds.exists_finished
  case dropped =>
    intro bridge after dropped
    exact given_up_of_drop lives queued dropped

/-- A refresher that is just touching the lock file. -/
def touching : Refresher :=
  { Refresher.start (seconds 60) 0 with thread := .running, runs := 1 }

def plainEnd : Host :=
  (SpoolGuard.acquire plainBridge readerHost "u" "rw" 0).2

/-- Time passes during a touch that is under way when the drop begins, and the thread ends its task
before it sees that it is to stop. -/
def lateTouch : List UnwindingEvent :=
  .change { plainEnd with now := plainEnd.now + seconds 30 } ::
    [.owner, .thread .rest, .thread .receive, .owner, .owner, .owner, .owner].map .step

theorem queued_plainEnd : LockTable.Queued ([], plainEnd.locks) :=
  LockTable.queued_of_waiting_eq_nil (by decide +kernel)

theorem exists_lives_plainGuard :
    ∃ mailbox lock path, plainGuard.Lives mailbox lock path plainEnd := by
  have ready : readerHost.IsReady plainBridge.process := isReady_readerHost
  rcases exists_lives_of_acquire ready rfl acquire_plainBridge with
    ⟨mailbox, lock, path, lives, _, _⟩
  exact ⟨mailbox, lock, path, lives⟩

theorem idle_plainEnd : plainEnd.locks.isWaiting plainGuard.bridge.process = false := by
  decide +kernel

theorem permits_lateTouch :
    (Unwinding.begin plainGuard (some touching) plainEnd).Permits lateTouch :=
  ⟨fun _ isChange => UnwindingEvent.change.inj isChange ▸
      Unwinding.tolerates_later _ queued_plainEnd idle_plainEnd,
    Unwinding.permits_steps _ _⟩

theorem finished_lateTouch :
    ((Unwinding.begin plainGuard (some touching) plainEnd).run lateTouch).work.stage =
      .finished := by
  decide +kernel

theorem unwinds_safely_lateTouch :
    ∃ mailbox lock path, plainGuard.Lives mailbox lock path plainEnd ∧
      (Unwinding.begin plainGuard (some touching) plainEnd).Permits lateTouch ∧
      (∃ earlier later, lateTouch = earlier ++ .step .owner :: later ∧
        Unwinding.Removes path lock
          ((Unwinding.begin plainGuard (some touching) plainEnd).run earlier)
          ((Unwinding.begin plainGuard (some touching) plainEnd).run
            (earlier ++ [.step .owner]))) ∧
      ∀ record ∈ ((Unwinding.begin plainGuard (some touching) plainEnd).run
        lateTouch).host.locks.held, record.isOf mailbox 1 = false := by
  have working : ∀ thread ∈ some touching, thread.Working := by
    rintro _ ⟨⟩
    exact ⟨rfl, rfl, rfl, by decide⟩
  rcases exists_lives_plainGuard with ⟨mailbox, lock, path, lives⟩
  have unwinds := unwinds_safely lives queued_plainEnd rfl working permits_lateTouch rfl
  exact ⟨mailbox, lock, path, lives, permits_lateTouch, unwinds.removed finished_lateTouch,
    (unwinds.freed finished_lateTouch).2⟩

end SpoolGuard

end MailSpool

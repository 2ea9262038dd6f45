import MailSpool.Proofs.Guard.Clients
import MailSpool.Proofs.Host.Keeps

/-!
# Guards of different processes

The record lock is the second line of defence: whatever becomes of the lock files, two processes
guard one mailbox only to read it. A guard is obtained with a lock that the table of locks grants,
and its process keeps this lock until it gives it up, because nothing that others do costs a process
a lock, and the process itself opens and closes the mailbox for its guard only.

What one process does is told as a relation `Acts` between two hosts from the point of view of
another one, so that each kind of call is looked at once.
-/

namespace MailSpool

/-! ## One process -/

/-- A bridge of a process, without an offset. -/
structure Bridge.IsOf (bridge : Bridge) (id : ProcessId) : Prop where
  process : bridge.process = id
  zero : bridge.settings.descriptorOffset = 0

theorem Bridge.IsOf.unlockMail {bridge : Bridge} {id : ProcessId} (own : bridge.IsOf id)
    (host : Host) : (bridge.unlockMail host).1.IsOf id where
  process := (congrArg Locker.process (bridge.locker.locker_release host)).trans own.process
  zero := own.zero

namespace SpoolGuard

/-- If a guard is one of a mailbox, its process has the record lock on it. -/
def Locks (guard : SpoolGuard) (mailbox : FileId) (host : Host) (id : ProcessId) : Prop :=
  host.isAlive id = true → ∀ file, host.descriptor? id guard.descriptor = some file →
    file.file = mailbox →
    { file := mailbox, owner := id, mode := guard.mode } ∈ host.locks.held

theorem Locks.of_keeps {guard : SpoolGuard} {mailbox : FileId} {before after : Host}
    {id : ProcessId} (locks : guard.Locks mailbox before id) (calm : before.locks.Calm)
    (keeps : Host.Keeps mailbox id before after) : guard.Locks mailbox after id := by
  intro alive file found isMailbox
  have lock := locks (keeps.alive alive) file (keeps.opened alive _ file found isMailbox) isMailbox
  exact keeps.held calm alive _ lock rfl rfl

end SpoolGuard

/-- A taking that is not at its end: its locker is one of the process of the bridge, and the
descriptor of the mailbox has a number of 31 bits. -/
def GuardTaking.Goes (work : GuardTaking) : Prop :=
  match work.stage with
  | .mail acquisition => acquisition.locker.process = work.bridge.process
  | .locking descriptor => (Int32.ofNat descriptor).toInt = descriptor
  | .obtained _ | .refused _ => False
  | .opening | .closing _ _ | .releasing _ => True

/-- What is so of a process that guards a mailbox, whatever it is about. -/
inductive GuardClient.Stands (mailbox : FileId) (host : Host) (id : ProcessId) :
    GuardClient → Prop where
  | idle (bridge : Bridge) (own : bridge.IsOf id) : Stands mailbox host id (.idle bridge)
  | taking (work : GuardTaking) (own : work.bridge.IsOf id) (goes : work.Goes) :
      Stands mailbox host id (.taking work)
  | guarding (guard : SpoolGuard) (own : guard.bridge.IsOf id)
      (locks : guard.Locks mailbox host id) : Stands mailbox host id (.guarding guard)
  | dropping (work : GuardDrop) (own : work.guard.bridge.IsOf id)
      (locks : work.stage.IsLocked → work.guard.Locks mailbox host id) :
      Stands mailbox host id (.dropping work)

namespace GuardClient

variable {mailbox : FileId} {host before after : Host} {id other : ProcessId} {client : GuardClient}

theorem Stands.of_keeps (stands : Stands mailbox before id client) (calm : before.locks.Calm)
    (keeps : Host.Keeps mailbox id before after) : Stands mailbox after id client := by
  cases stands with
  | idle bridge own => exact .idle bridge own
  | taking work own goes => exact .taking work own goes
  | guarding guard own locks => exact .guarding guard own (locks.of_keeps calm keeps)
  | dropping work own locks =>
      exact .dropping work own fun locked => (locks locked).of_keeps calm keeps

theorem Stands.locks (stands : Stands mailbox host id client) {guard : SpoolGuard}
    (live : client.guard? = some guard) : guard.Locks mailbox host id := by
  cases stands with
  | idle | taking => simp [guard?] at live
  | guarding found own locks =>
      cases live
      exact locks
  | dropping work own locks =>
      simp only [guard?] at live
      split at live
      case isTrue locked =>
        cases live
        exact locks locked
      case isFalse => simp at live

/-- What a process does: it `Stands` as before, and what another one has is kept by `Keeps`. -/
structure Acts (mailbox : FileId) (id : ProcessId) (host : Host) (result : GuardClient × Host) :
    Prop where
  stands : Stands mailbox result.2 id result.1
  keeps : ∀ other, other ≠ id → Host.Keeps mailbox other host result.2

/-- There is always another process, so what `Calm` says of the table as a whole is not lost. -/
theorem Acts.calm {result : GuardClient × Host} (acts : Acts mailbox id host result)
    (calm : host.locks.Calm) : result.2.locks.Calm :=
  (acts.keeps (id + 1) id.succ_ne_self).calm calm

theorem ofTaking_of_goes {work : GuardTaking} (goes : work.Goes) :
    ofTaking work = .taking work := by
  rcases work with ⟨bridge, path, mode, stage⟩
  cases stage with
  | mail | opening | locking | closing | releasing => rfl
  | obtained | refused => exact False.elim goes

theorem Acts.of_goes {work : GuardTaking} (own : work.bridge.IsOf id) (goes : work.Goes)
    (keeps : ∀ other, other ≠ id → Host.Keeps mailbox other before after) :
    Acts mailbox id before (ofTaking work, after) where
  stands := by
    rw [ofTaking_of_goes goes]
    exact .taking work own goes
  keeps := keeps

theorem Acts.of_drop {work : GuardDrop} (own : work.guard.bridge.IsOf id)
    (locks : work.stage.IsLocked → work.guard.Locks mailbox after id)
    (keeps : ∀ other, other ≠ id → Host.Keeps mailbox other before after) :
    Acts mailbox id before (ofDrop work, after) where
  stands := by
    unfold ofDrop
    split
    · exact .idle _ own
    · exact .dropping work own locks
  keeps := keeps

end GuardClient

/-! ### Taking a guard -/

namespace GuardTaking

variable {taking : GuardTaking} {mailbox : FileId} {host : Host} {id : ProcessId}

open GuardClient

theorem acts_begin (bridge : Bridge) (user tag : String) (retries : UInt32)
    (own : bridge.IsOf id) :
    Acts mailbox id host (ofTaking (begin bridge host user tag retries).1,
      (begin bridge host user tag retries).2) := by
  unfold begin
  split
  case h_1 status _ =>
    refine ⟨.idle _ ⟨own.process, own.zero⟩, ?_⟩
    intro other _
    exact .of_sameWorld (host.sameWorld_tell bridge.locker.process (.rejected user status))
  case h_2 =>
    refine .of_goes own rfl ?_
    intro other _
    exact .of_sameWorld (host.sameWorld_draw UInt32.size)

/-- A `mailStep` closes a file at most of its own process. -/
theorem acts_mailStep {work : Acquisition} (own : taking.bridge.IsOf id)
    (same : work.locker.process = taking.bridge.process) :
    Acts mailbox id host (ofTaking (taking.mailStep host work).1,
      (taking.mailStep host work).2) := by
  have isProcess : work.locker.process = id := same.trans own.process
  unfold mailStep
  split
  case h_1 =>
    refine .of_goes own ((work.continues_step host).process.trans same) ?_
    intro other different
    refine .of_wears (work.wears_step host) ?_
    rintro lock ⟨_, isOwner, _⟩ isOther _
    exact different (isOther.symm.trans (isOwner.trans isProcess))
  case h_2 => exact .of_goes ⟨isProcess, own.zero⟩ trivial fun other _ => .refl _ _ _
  case h_3 => exact ⟨.idle _ ⟨isProcess, own.zero⟩, fun other _ => .refl _ _ _⟩

theorem acts_opening (stage : taking.stage = .opening) (own : taking.bridge.IsOf id)
    (room : host.HasRoom id) :
    Acts mailbox id host (ofTaking (taking.step host).1, (taking.step host).2) := by
  simp only [step, stage]
  rcases opened : host.openFile taking.bridge.process taking.path (taking.mode = .write) with
    error | ⟨descriptor, after⟩
  · exact .of_goes own trivial fun other _ => .refl _ _ _
  · rcases Host.exists_opens opened with ⟨file, opens⟩
    refine .of_goes own ?_ ?_
    · rcases opens.state with ⟨state, isState, isFree, _⟩
      rw [own.process] at isState
      have small := room state isState
      rw [← isFree] at small
      exact Int32.toInt_ofNat_of_lt small
    · intro other different
      refine .of_opens opens ?_
      intro isActor
      exact absurd (isActor.trans own.process) different

/-- A guard that is obtained has the record lock, for the number of its descriptor is that of the
system. -/
theorem acts_locking {descriptor : Nat} (stage : taking.stage = .locking descriptor)
    (own : taking.bridge.IsOf id) (fits : (Int32.ofNat descriptor).toInt = descriptor)
    (calm : host.locks.Calm) :
    Acts mailbox id host (ofTaking (taking.step host).1, (taking.step host).2) := by
  simp only [step, stage]
  rcases tried : taking.bridge.tryLock host (.ofNat descriptor) taking.mode.tag with
    failure | locked
  · exact .of_goes own trivial fun other _ => .refl _ _ _
  rcases taking.bridge.exists_of_tryLock tried with
    ⟨number, target, locks, numbered, isTarget, granted, rfl⟩
  rw [Bridge.systemDescriptor_of_zero own.zero, Except.ok.injEq] at numbered
  rw [← numbered, fits] at isTarget
  have world : ∀ other, Host.Keeps mailbox other (host.withLocks locks)
      ((taking.bridge.startRefresher (host.withLocks locks)).2.tell taking.bridge.process
        (.spoolLocked taking.path taking.mode)) := by
    intro other
    rw [SpoolGuard.startRefresher_snd]
    exact .of_same rfl rfl
  have process : taking.bridge.process = id := own.process
  rw [process] at isTarget granted
  refine ⟨.guarding _ own (SpoolGuard.Locks.of_keeps ?_ (calm.request granted) (world id)), ?_⟩
  · intro _ file found isMailbox
    have same : file = target := Option.some.inj (found.symm.trans isTarget)
    have member := LockTable.mem_held_of_request granted (calm.idle id)
    rw [← same, isMailbox] at member
    exact member
  · intro other different
    exact (Host.Keeps.of_request granted different).trans (world other)

theorem acts_step (own : taking.bridge.IsOf id) (goes : taking.Goes) (room : host.HasRoom id)
    (calm : host.locks.Calm) :
    Acts mailbox id host (ofTaking (taking.step host).1, (taking.step host).2) := by
  unfold Goes at goes
  cases stage : taking.stage with
  | mail work =>
      rw [stage] at goes
      simp only [step, stage]
      exact acts_mailStep own goes
  | opening => exact acts_opening stage own room
  | locking descriptor =>
      rw [stage] at goes
      exact acts_locking stage own goes calm
  | closing descriptor failure =>
      simp only [step, stage]
      refine .of_goes own trivial ?_
      intro other different
      refine .of_close ?_
      intro isActor
      exact absurd (isActor.trans own.process) different
  | releasing failure =>
      simp only [step, stage]
      refine ⟨.idle _ (own.unlockMail _), ?_⟩
      intro other _
      exact (Host.Keeps.of_sameWorld (host.sameWorld_tell _ _)).trans
        (.of_sameWorld (taking.bridge.locker.sameWorld_release _))
  | obtained | refused =>
      rw [stage] at goes
      exact False.elim goes

end GuardTaking

/-! ### Dropping a guard -/

namespace GuardDrop

variable {work next : GuardDrop} {mailbox : FileId} {host after : Host} {id : ProcessId}

open GuardClient

theorem guard_of_throughEvent {now : Instant} {event : RefresherEvent} {stage : DropStage}
    (through : work.throughEvent now event stage = some next) : next.guard = work.guard := by
  unfold throughEvent at through
  split at through
  case h_1 =>
    cases through
    rfl
  case h_2 =>
    rcases Option.map_eq_some_iff.mp through with ⟨_, _, rfl⟩
    rfl

/-- Until the record lock is given up, the owner is busy with the thread only. -/
theorem acts_throughEvent {now : Instant} {event : RefresherEvent} {stage : DropStage}
    (through : work.throughEvent now event stage = some next)
    (own : work.guard.bridge.IsOf id) (locks : work.guard.Locks mailbox host id) :
    Acts mailbox id host (ofDrop next, host) := by
  have same := guard_of_throughEvent through
  exact .of_drop (same ▸ own) (fun _ => same ▸ locks) fun other _ => .refl _ _ _

theorem acts_unlocking (stage : work.stage = .unlocking) (own : work.guard.bridge.IsOf id)
    (stepped : work.ownerStep? host = some (next, after)) :
    Acts mailbox id host (ofDrop next, after) := by
  simp only [ownerStep?, stage] at stepped
  split at stepped
  case h_1 unlocked given =>
    cases stepped
    refine .of_drop own False.elim ?_
    intro other different
    rcases work.guard.bridge.exists_of_unlock given with ⟨file, rfl⟩
    refine .of_wears (host.wears_loseLock _ file) ?_
    intro lock isOf isOther _
    rcases RecordLock.isOf_eq_true_iff.mp isOf with ⟨_, isOwner⟩
    exact different (isOther.symm.trans (isOwner.trans own.process))
  case h_2 =>
    cases stepped
    refine .of_drop own False.elim ?_
    intro other _
    exact .of_sameWorld (host.sameWorld_tell _ _)

theorem acts_ownerStep (own : work.guard.bridge.IsOf id)
    (locks : work.stage.IsLocked → work.guard.Locks mailbox host id)
    (stepped : work.ownerStep? host = some (next, after)) :
    Acts mailbox id host (ofDrop next, after) := by
  cases stage : work.stage with
  | stopping | joining =>
      simp only [ownerStep?, stage, Option.map_eq_some_iff] at stepped
      rcases stepped with ⟨_, through, same⟩
      cases same
      exact acts_throughEvent through own (locks (by simp [stage, DropStage.IsLocked]))
  | unlocking => exact acts_unlocking stage own stepped
  | releasing =>
      simp only [ownerStep?, stage, Option.some.injEq, Prod.mk.injEq] at stepped
      rcases stepped with ⟨rfl, rfl⟩
      refine .of_drop (own.unlockMail host) False.elim ?_
      intro other _
      exact (Host.Keeps.of_sameWorld (work.guard.bridge.locker.sameWorld_release host)).trans
        (.of_sameWorld (Host.sameWorld_tell _ _ _))
  | closing =>
      simp only [ownerStep?, stage, Option.some.injEq, Prod.mk.injEq] at stepped
      rcases stepped with ⟨rfl, rfl⟩
      refine .of_drop own False.elim ?_
      intro other different
      refine .of_close ?_
      intro isActor
      exact absurd (isActor.trans own.process) different
  | finished => simp [ownerStep?, stage] at stepped

/-- A `threadStep?` only touches a path. -/
theorem acts_threadStep {event : RefresherEvent} (own : work.guard.bridge.IsOf id)
    (locks : work.stage.IsLocked → work.guard.Locks mailbox host id) (calm : host.locks.Calm)
    (stepped : work.threadStep? host event = some (next, after)) :
    Acts mailbox id host (ofDrop next, after) := by
  unfold threadStep? at stepped
  split at stepped
  case h_2 => simp at stepped
  case h_1 task refresher isTask isRefresher =>
    split at stepped
    case isFalse => simp at stepped
    case isTrue =>
      rcases Option.map_eq_some_iff.mp stepped with ⟨later, _, same⟩
      cases same
      have keeps : ∀ other, Host.Keeps mailbox other host
          (if event = .rest then host.perform (.touch task.path) else host) := by
        intro other
        split
        · exact .of_spares (host.wears_perform (.touch task.path))
        · exact .refl _ _ _
      exact .of_drop own (fun locked => (locks locked).of_keeps calm (keeps id))
        fun other _ => keeps other

theorem acts_step {event : DropEvent} (own : work.guard.bridge.IsOf id)
    (locks : work.stage.IsLocked → work.guard.Locks mailbox host id) (calm : host.locks.Calm) :
    Acts mailbox id host (ofDrop ((work.step? host event).getD (work, host)).1,
      ((work.step? host event).getD (work, host)).2) := by
  rcases stepped : work.step? host event with _ | ⟨next, after⟩
  · exact .of_drop own locks fun other _ => .refl _ _ _
  cases event with
  | owner => exact acts_ownerStep own locks stepped
  | thread event => exact acts_threadStep own locks calm stepped

theorem acts_begin {guard : SpoolGuard} (own : guard.bridge.IsOf id)
    (locks : guard.Locks mailbox host id) (calm : host.locks.Calm) :
    Acts mailbox id host (.dropping (begin guard host).1, (begin guard host).2) := by
  have keeps : ∀ other, Host.Keeps mailbox other host (begin guard host).2 := by
    intro other
    unfold begin
    split
    · exact .refl _ _ _
    · exact .of_same rfl rfl
  have same : (begin guard host).1.guard = guard := by
    unfold begin
    split <;> rfl
  refine ⟨.dropping _ ?_ fun _ => ?_, fun other _ => keeps other⟩
  · rw [same]
    exact own
  · rw [same]
    exact locks.of_keeps calm (keeps id)

end GuardDrop

/-- Whatever a process does with its bridge, it `Stands` as before. -/
theorem GuardClient.acts_perform {mailbox : FileId} {host : Host} {id : ProcessId}
    {client : GuardClient} (stands : client.Stands mailbox host id) (deed : GuardDeed)
    (room : host.HasRoom id) (calm : host.locks.Calm) :
    Acts mailbox id host (client.perform host deed) := by
  have idles : Acts mailbox id host (client, host) := ⟨stands, fun other _ => .refl _ _ _⟩
  cases stands with
  | idle bridge own =>
      cases deed with
      | acquire user tag retries => exact GuardTaking.acts_begin bridge user tag retries own
      | step | touch | drop | stepDrop => exact idles
  | taking work own goes =>
      cases deed with
      | step => exact GuardTaking.acts_step own goes room calm
      | acquire | touch | drop | stepDrop => exact idles
  | guarding guard own locks =>
      cases deed with
      | touch =>
          have keeps : ∀ other, Host.Keeps mailbox other host (guard.touch host) :=
            fun other => .of_sameWorld (guard.bridge.locker.sameWorld_refresh host)
          exact ⟨.guarding guard own (locks.of_keeps calm (keeps id)), fun other _ => keeps other⟩
      | drop => exact GuardDrop.acts_begin own locks calm
      | acquire | step | stepDrop => exact idles
  | dropping work own locks =>
      cases deed with
      | stepDrop event => exact GuardDrop.acts_step own locks calm
      | acquire | step | touch | drop => exact idles

/-! ## All processes -/

namespace GuardedHost

variable {mailbox : FileId} {guarded : GuardedHost}

/-- No two record locks stand against each other, and each process `Stands` as it must. -/
structure IsOrderly (mailbox : FileId) (guarded : GuardedHost) : Prop where
  calm : guarded.host.locks.Calm
  stands : ∀ id, (guarded.client id).Stands mailbox guarded.host id

theorem IsOpened.isOrderly (opened : guarded.IsOpened) : guarded.IsOrderly mailbox where
  calm := ⟨opened.compatible, opened.idle⟩
  stands id := by
    rcases opened.client id with ⟨bridge, isIdle, process, zero⟩
    rw [isIdle]
    exact .idle bridge ⟨process, zero⟩

theorem IsOrderly.of_keeps (orderly : guarded.IsOrderly mailbox) {after : Host}
    (keeps : ∀ id, Host.Keeps mailbox id guarded.host after) :
    IsOrderly mailbox { guarded with host := after } where
  calm := (keeps 0).calm orderly.calm
  stands id := (orderly.stands id).of_keeps orderly.calm (keeps id)

theorem isOrderly_step (orderly : guarded.IsOrderly mailbox) {event : GuardEvent}
    (allows : guarded.Allows mailbox event) : (guarded.step event).IsOrderly mailbox := by
  cases event with
  | act id deed =>
      simp only [step]
      split
      case isFalse => exact orderly
      case isTrue =>
        have acts := GuardClient.acts_perform (orderly.stands id) deed allows orderly.calm
        refine ⟨acts.calm orderly.calm, ?_⟩
        intro other
        dsimp only
        by_cases same : other = id
        · subst same
          rw [Function.update_self]
          exact acts.stands
        · rw [Function.update_of_ne same]
          exact (orderly.stands other).of_keeps orderly.calm (acts.keeps other same)
  | openFile id path writable =>
      simp only [step]
      split
      case h_1 number after opened =>
        rcases Host.exists_opens opened with ⟨file, opens⟩
        refine orderly.of_keeps fun other => .of_opens opens ?_
        rintro _ rfl
        rcases opens.stat with ⟨found, looked⟩
        refine allows (file.file, found) ?_ rfl
        rw [looked]
        rfl
      case h_2 => exact orderly
  | close id number =>
      refine orderly.of_keeps fun other => .of_close ?_
      intro _ file found
      exact allows file found
  | exit id => exact orderly.of_keeps fun other => .of_spares (guarded.host.wears_exit id)
  | change files now agenda => exact orderly.of_keeps fun other => .of_same rfl rfl

theorem IsOrderly.mem_held (orderly : guarded.IsOrderly mailbox) {id : ProcessId}
    {guard : SpoolGuard} (live : guarded.IsLive mailbox id guard) :
    { file := mailbox, owner := id, mode := guard.mode } ∈ guarded.host.locks.held := by
  rcases Option.map_eq_some_iff.mp live.file with ⟨file, found, isMailbox⟩
  exact (orderly.stands id).locks live.isGuard live.alive file found isMailbox

/-- Whatever becomes of lock files, in a run that the host `Permits` two processes guard a mailbox
at one time, in the sense of `IsLive`, only to read it. -/
theorem live_guards_read {events : List GuardEvent} {first second : ProcessId}
    {one two : SpoolGuard} (opened : guarded.IsOpened) (permits : guarded.Permits mailbox events)
    (different : first ≠ second) (firstLive : (guarded.run events).IsLive mailbox first one)
    (secondLive : (guarded.run events).IsLive mailbox second two) :
    one.mode = .read ∧ two.mode = .read := by
  have orderly : (guarded.run events).IsOrderly mailbox :=
    run_induction opened.isOrderly (fun _ _ orderly allows => isOrderly_step orderly allows) permits
  have apart := orderly.calm.compatible _ (orderly.mem_held firstLive) _
    (orderly.mem_held secondLive)
  simp only [RecordLock.standsAgainst, decide_true, Bool.true_and, ne_eq, different,
    not_false_eq_true] at apart
  cases oneMode : one.mode with
  | write => simp [oneMode, LockMode.conflicts] at apart
  | read =>
      cases twoMode : two.mode with
      | write => simp [oneMode, twoMode, LockMode.conflicts] at apart
      | read => exact ⟨rfl, rfl⟩

/-- A bridge of a process that reads mailboxes in the root directory. -/
def readingBridge (id : ProcessId) : Bridge :=
  .ofSettings id { mail := { spoolDirectory := "/", honorMail := false } }

def readingGuard (id : ProcessId) : SpoolGuard where
  bridge := { readingBridge id with
    locker := { (readingBridge id).locker with
      held := some { user := "u", path := "/u.lock" }
      counts := { acquisitions := 1 } } }
  path := "/u"
  mode := .read
  descriptor := 3
  refresher := some { process := id, path := "/u.lock" }

/-- Two processes and one mailbox. -/
def readers : GuardedHost where
  host :=
    { Host.boot 0 fun number => number with
      files := ((FileSystem.empty 0).make FileSystem.root "u" (.regular .empty) 0).2
      process := fun id => if id = 1 ∨ id = 2 then some { parent := 0 } else none }
  client id := .idle (readingBridge id)

def reads (id : ProcessId) : List GuardEvent :=
  .act id (.acquire "u" "r" 0) :: .replicate 9 (.act id .step)

/-- The lock file of the first reader is gone when the second one takes its guard. -/
def readTwice : List GuardEvent :=
  reads 1 ++ [.change readers.host.files 0 []] ++ reads 2

theorem live_guards_read_readTwice :
    readers.IsOpened ∧ readers.Permits ⟨1⟩ readTwice ∧
      (readers.run readTwice).IsLive ⟨1⟩ 1 (readingGuard 1) ∧
      (readers.run readTwice).IsLive ⟨1⟩ 2 (readingGuard 2) ∧
      (readingGuard 1).mode = .read ∧ (readingGuard 2).mode = .read := by
  have opened : readers.IsOpened := by
    refine ⟨?_, fun id => rfl, fun id => ⟨readingBridge id, rfl, rfl, rfl⟩⟩
    intro one member
    simp [readers, Host.boot] at member
  have permits : readers.Permits ⟨1⟩ readTwice := by decide +kernel
  have firstLive : (readers.run readTwice).IsLive ⟨1⟩ 1 (readingGuard 1) :=
    ⟨by decide +kernel, by decide +kernel, by decide +kernel⟩
  have secondLive : (readers.run readTwice).IsLive ⟨1⟩ 2 (readingGuard 2) :=
    ⟨by decide +kernel, by decide +kernel, by decide +kernel⟩
  exact ⟨opened, permits, firstLive, secondLive,
    live_guards_read opened permits (by decide) firstLive secondLive⟩

end GuardedHost

end MailSpool

import MailSpool.Proofs.Guard.Acquire
import MailSpool.Proofs.Locks.Holders

/-!
# What probing a lock tells

To probe a lock and to ask for it without waiting are two calls, each with its own words for what it
found. They agree, by `probe_predicts_lock`: a lock is free when it would be granted, and its holder
is named when it would be refused.

That the one named is another process that lives, and has just this lock on the file, is a fact
about the hosts that are `Reached` by processes, whatever they do with locks, and is proved along
their steps.
-/

namespace MailSpool

theorem LockReport.holder?_ofConflict (conflict : Option RecordLock) :
    (ofConflict conflict).holder? =
      conflict.map fun lock => { owner := lock.owner, mode := lock.mode } := by
  rcases conflict with _ | ⟨file, owner, _ | _⟩ <;> rfl

namespace Host

variable {host after : Host} {id : ProcessId} {descriptor : Int32} {mode : LockMode}
  {opened : OpenFile} {wanted : RecordLock}

theorem isAlive_of_descriptor? {number : Int} (found : host.descriptor? id number = some opened) :
    host.isAlive id = true := by
  unfold descriptor? at found
  split at found
  · simp at found
  · rcases Option.bind_eq_some_iff.mp found with ⟨state, isState, _⟩
    exact isAlive_of_process isState

theorem isAlive_of_wanted (isWanted : host.wanted id descriptor mode = .ok wanted) :
    host.isAlive wanted.owner = true := by
  rcases wanted_eq_ok_iff.mp isWanted with ⟨opened, found, _, rfl⟩
  exact isAlive_of_descriptor? found

/-! ## The hosts that processes come to -/

/-- The hosts that processes come to from one without record locks, when they set locks and give
them up, close files and end, as often and in whatever order they like. -/
inductive Reached : Host → Prop where
  | start {host : Host} : host.locks = {} → Reached host
  /-- Anything else happens that touches no lock and ends no process. -/
  | change {host after : Host} : Reached host → after.locks = host.locks →
      (∀ id, host.isAlive id = true → after.isAlive id = true) → Reached after
  | setLock {host after : Host} {id : ProcessId} {descriptor : Int32} {mode : LockMode} :
      Reached host → host.setLock id descriptor mode = .ok after → Reached after
  /-- A process asks for a lock, and has it or waits for it. -/
  | requestLock {host after : Host} {id : ProcessId} {descriptor : Int32} {mode : LockMode}
      {reply : LockTable.Reply} : Reached host →
      host.requestLock id descriptor mode = .ok (reply, after) → reply ≠ .deadlock → Reached after
  /-- A signal ends the waiting of a process. -/
  | interrupt {host : Host} (id : ProcessId) : Reached host →
      Reached (host.withLocks (host.locks.withdraw id))
  | removeLock {host after : Host} {id : ProcessId} {descriptor : Int32} :
      Reached host → host.removeLock id descriptor = .ok after → Reached after
  | close {host : Host} (id : ProcessId) (number : Nat) : Reached host →
      Reached (host.close id number)
  | exit {host : Host} (id : ProcessId) : Reached host → Reached (host.exit id)

theorem Reached.perform (reached : host.Reached) (deed : Deed) : (host.perform deed).Reached := by
  have ofSameWorld : ∀ {later : Host}, host.SameWorld later → later.Reached := by
    intro later world
    refine reached.change world.locks ?_
    intro id alive
    rw [isAlive, world.process]
    exact alive
  cases deed with
  | unlink path => exact ofSameWorld (host.sameWorld_remaining path)
  | touch path =>
      simp only [Host.perform]
      rcases touched : host.touch path with failure | later
      · exact reached
      · exact ofSameWorld (sameWorld_touch touched)
  | exit id => exact reached.exit id
  | signal id number =>
      refine reached.change (host.locks_changeProcess id _) ?_
      intro other alive
      exact (host.isAlive_changeProcess id _ other).trans alive

theorem Reached.awaitGrant {result : Except Errno Unit} {steps : Nat} (reached : host.Reached)
    (waited : awaitGrant id steps host = some (result, after)) : after.Reached := by
  induction steps generalizing host with
  | zero => simp [Host.awaitGrant] at waited
  | succ steps ih =>
      simp only [Host.awaitGrant] at waited
      split at waited
      · cases waited
        exact reached
      split at waited
      · simp at waited
      case h_2 appointment _ =>
        have kept : (host.keep appointment).Reached := by
          dsimp only [keep]
          refine perform ?_ appointment.deed
          exact reached.change rfl fun _ alive => alive
        split at waited
        · cases waited
          exact kept.interrupt id
        · exact ih kept waited

/-- `setLockWaiting` leads to hosts that are `Reached` as well, however the waiting ends and
whatever happens meanwhile. -/
theorem Reached.setLockWaiting {result : Except Errno Unit} (reached : host.Reached)
    (waited : host.setLockWaiting id descriptor mode = some (result, after)) : after.Reached := by
  unfold Host.setLockWaiting at waited
  split at waited
  case h_1 => cases waited; exact reached
  case h_2 asked => cases waited; exact reached.requestLock asked (by simp)
  case h_3 => cases waited; exact reached
  case h_4 asked => exact (reached.requestLock asked (by simp)).awaitGrant waited

/-! ## What holds of them -/

/-- No process has two locks on one file, and those that have locks or wait for one are alive. -/
structure Rightful (host : Host) : Prop where
  single : host.locks.Single
  alive : ∀ owner, LockTable.Concerns ([], host.locks) owner → host.isAlive owner = true

namespace Rightful

theorem change (rightful : host.Rightful) (locks : after.locks = host.locks)
    (alive : ∀ id, host.isAlive id = true → after.isAlive id = true) : after.Rightful where
  single := rightful.single.of_held (congrArg LockTable.held locks)
  alive owner concerned := by
    rw [locks] at concerned
    exact alive owner (rightful.alive owner concerned)

theorem alter {lost : RecordLock → Prop} {locks : LockTable} (rightful : host.Rightful)
    (alters : LockTable.Alters lost host.locks locks) (single : locks.Single) :
    (host.withLocks locks).Rightful where
  single := single
  alive owner concerned := rightful.alive owner (LockTable.Serves.concerns alters concerned)

theorem serve {locks : LockTable} (rightful : host.Rightful)
    (alive : host.isAlive wanted.owner = true)
    (serves : LockTable.Serves (fun _ => False) ([wanted], host.locks) ([], locks))
    (single : locks.Single) : (host.withLocks locks).Rightful where
  single := single
  alive owner concerned := by
    rcases LockTable.concerns_request (serves.concerns concerned) with rfl | old
    · exact alive
    · exact rightful.alive owner old

theorem setLock (rightful : host.Rightful) (granted : host.setLock id descriptor mode = .ok after) :
    after.Rightful := by
  rcases exists_of_setLock granted with ⟨opened, locks, found, requested, rfl⟩
  exact rightful.serve (isAlive_of_descriptor? found) (LockTable.serves_request requested)
    (rightful.single.request requested)

theorem requestLock {reply : LockTable.Reply} (rightful : host.Rightful)
    (asked : host.requestLock id descriptor mode = .ok (reply, after)) : after.Rightful := by
  unfold Host.requestLock at asked
  rcases map_eq_ok_iff.mp asked with ⟨wanted, isWanted, replied⟩
  cases replied
  exact rightful.serve (isAlive_of_wanted isWanted) (host.locks.serves_await wanted)
    (rightful.single.await wanted)

theorem loseLock (rightful : host.Rightful) (id : ProcessId) (file : FileId) :
    (host.loseLock id file).Rightful :=
  rightful.alter (host.locks.alters_release file id) (rightful.single.release file id)

theorem removeLock (rightful : host.Rightful) (given : host.removeLock id descriptor = .ok after) :
    after.Rightful := by
  unfold Host.removeLock at given
  split at given
  · simp at given
  · cases given
    exact rightful.loseLock id _

theorem close (rightful : host.Rightful) (id : ProcessId) (number : Nat) :
    (host.close id number).Rightful := by
  unfold Host.close
  split
  · exact rightful
  · refine loseLock (rightful.change (host.locks_changeProcess id _) ?_) id _
    intro other alive
    exact (host.isAlive_changeProcess id _ other).trans alive

theorem exit (rightful : host.Rightful) (id : ProcessId) : (host.exit id).Rightful where
  single := rightful.single.releaseAll id
  alive owner concerned := by
    have other : owner ≠ id := LockTable.ne_of_concerns_releaseAll concerned
    have old : LockTable.Concerns ([], host.locks) owner :=
      LockTable.Serves.concerns (host.locks.alters_releaseAll id) concerned
    have alive := rightful.alive owner old
    unfold isAlive Host.exit
    rw [process_setProcess_of_ne _ _ other]
    exact alive

end Rightful

theorem Reached.rightful (reached : host.Reached) : host.Rightful := by
  induction reached with
  | start free =>
      refine ⟨by simp [LockTable.Single, free], ?_⟩
      rintro owner ⟨lock, holds, _⟩
      simp [LockTable.Asks, free] at holds
  | change _ locks alive rightful => exact rightful.change locks alive
  | setLock _ granted rightful => exact rightful.setLock granted
  | requestLock _ asked _ rightful => exact rightful.requestLock asked
  | interrupt id _ rightful =>
      exact rightful.alter (LockTable.alters_withdraw _ id) (rightful.single.withdraw id)
  | removeLock _ given rightful => exact rightful.removeLock given
  | close id number _ rightful => exact rightful.close id number
  | exit id _ rightful => exact rightful.exit id

end Host

/-! ## Probing and asking -/

namespace Bridge

variable {bridge : Bridge} {host after : Host} {descriptor number : Int32} {tag : String}
  {opened : OpenFile}

/-- The record lock of the mode that a tag tells, on a file. -/
def wanted (bridge : Bridge) (file : FileId) (tag : String) : RecordLock where
  file := file
  owner := bridge.process
  mode := .ofTag tag

theorem probe_of_numbered (numbered : bridge.systemDescriptor descriptor = .ok number)
    (found : host.descriptor? bridge.process number.toInt = some opened) (tag : String) :
    bridge.probe host descriptor tag =
      .ok ((host.locks.conflict? (bridge.wanted opened.file tag)).map fun lock =>
        { owner := lock.owner, mode := lock.mode }) := by
  simp only [probe, Host.probe, Host.testLock, numbered, Except.bind, found, Except.map,
    LockReport.holder?_ofConflict]
  rfl

theorem probe_eq (zero : bridge.settings.descriptorOffset = 0)
    (found : host.descriptor? bridge.process descriptor.toInt = some opened) (tag : String) :
    bridge.probe host descriptor tag =
      .ok ((host.locks.conflict? (bridge.wanted opened.file tag)).map fun lock =>
        { owner := lock.owner, mode := lock.mode }) :=
  probe_of_numbered (systemDescriptor_of_zero zero) found tag

/-- `Bridge.lock` succeeds or fails as `request` does, and a failure is that of a lock in the way.
-/
theorem lock_of_numbered (numbered : bridge.systemDescriptor descriptor = .ok number)
    (found : host.descriptor? bridge.process number.toInt = some opened)
    (suits : opened.suits (.ofTag tag) = true) :
    bridge.lock host descriptor tag false =
      match host.locks.request (bridge.wanted opened.file tag) with
      | none => some (.error (.wouldBlock number), host)
      | some locks => some (.ok (), host.withLocks locks) := by
  unfold lock wanted
  rw [tryLock_eq numbered found suits]
  rcases host.locks.request
    { file := opened.file, owner := bridge.process, mode := .ofTag tag } with _ | locks
  · rfl
  · rfl

theorem lock_eq (zero : bridge.settings.descriptorOffset = 0)
    (found : host.descriptor? bridge.process descriptor.toInt = some opened)
    (suits : opened.suits (.ofTag tag) = true) :
    bridge.lock host descriptor tag false =
      match host.locks.request (bridge.wanted opened.file tag) with
      | none => some (.error (.wouldBlock descriptor), host)
      | some locks => some (.ok (), host.withLocks locks) :=
  lock_of_numbered (systemDescriptor_of_zero zero) found suits

/-- The lock that `conflict?` finds is one of another process that lives, and the only one that this
process has on the file. -/
theorem standing_of_conflict? {file : FileId} {lock : RecordLock} (reached : host.Reached)
    (conflict : host.locks.conflict? (bridge.wanted file tag) = some lock) :
    lock.owner ≠ bridge.process ∧ host.isAlive lock.owner = true ∧
      host.locks.lock? file lock.owner =
        some { file := file, owner := lock.owner, mode := lock.mode } ∧
      lock.mode.conflicts (.ofTag tag) = true := by
  have member := LockTable.mem_held_of_conflict? conflict
  have stands := LockTable.standsAgainst_of_conflict? conflict
  simp only [RecordLock.standsAgainst, Bool.and_eq_true, decide_eq_true_eq] at stands
  rcases stands with ⟨⟨rfl, other⟩, conflicts⟩
  exact ⟨other, reached.rightful.alive lock.owner ⟨lock, Or.inl member, rfl⟩,
    reached.rightful.single.lock? member, conflicts⟩

/-- A process that is granted a lock and waits for no other one has this lock on the file then. -/
theorem lock?_of_request {file : FileId} {locks : LockTable} (reached : host.Reached)
    (granted : host.locks.request (bridge.wanted file tag) = some locks)
    (idle : host.locks.isWaiting bridge.process = false) :
    locks.lock? file bridge.process = some (bridge.wanted file tag) := by
  have member : bridge.wanted file tag ∈ locks.held := LockTable.mem_held_of_request granted idle
  exact (reached.rightful.single.request granted).lock? member

/-- `Bridge.lock` leads to hosts that are `Reached` as well, whether it waits or not. -/
theorem reached_of_lock {blocking : Bool} {result : Except Failure Unit} (reached : host.Reached)
    (asked : bridge.lock host descriptor tag blocking = some (result, after)) : after.Reached := by
  unfold lock at asked
  split at asked
  case isTrue =>
    unfold awaitLock at asked
    split at asked
    · cases asked
      exact reached
    · rcases Option.map_eq_some_iff.mp asked with ⟨⟨_, later⟩, waited, same⟩
      cases same
      exact reached.setLockWaiting waited
  case isFalse =>
    split at asked
    case h_1 locked =>
      cases asked
      unfold tryLock locking at locked
      rcases numbered : bridge.systemDescriptor descriptor with failure | number
      · simp [numbered, Except.bind] at locked
      rcases granted : host.setLock bridge.process number (.ofTag tag) with errno | given
      · simp [numbered, granted, Except.bind, Except.mapError] at locked
      · simp only [numbered, granted, Except.bind, Except.mapError, Except.ok.injEq] at locked
        subst locked
        exact reached.setLock granted
    case h_2 =>
      cases asked
      exact reached

/-- What `Bridge.probe` for a lock on an open file tells of `Bridge.lock`, which asks for it without
waiting. -/
structure Predicts (bridge : Bridge) (host : Host) (descriptor : Int32) (opened : OpenFile)
    (tag : String) : Prop where
  /-- A lock is told to be free if and only if it would be granted. -/
  granted : bridge.probe host descriptor tag = .ok none ↔
    ∃ after, bridge.lock host descriptor tag false = some (.ok (), after)
  /-- It is free if and only if no lock of another process stands against it. -/
  free : bridge.probe host descriptor tag = .ok none ↔
    ∀ lock ∈ host.locks.held, lock.standsAgainst (bridge.wanted opened.file tag) = false
  /-- A holder is named if and only if the lock would be refused because of a lock. -/
  refused : (∃ holder, bridge.probe host descriptor tag = .ok (some holder)) ↔
    ∃ after, bridge.lock host descriptor tag false =
      some (.error (.wouldBlock descriptor), after)
  /-- The one named is another process that lives, and its lock on the file is of the mode that is
  told and stands against the one that was probed for. -/
  holder : ∀ holder, bridge.probe host descriptor tag = .ok (some holder) →
    holder.owner ≠ bridge.process ∧ host.isAlive holder.owner = true ∧
    host.locks.lock? opened.file holder.owner =
      some { file := opened.file, owner := holder.owner, mode := holder.mode } ∧
    holder.mode.conflicts (.ofTag tag) = true
  /-- What is granted is held then. -/
  held : ∀ after, bridge.lock host descriptor tag false = some (.ok (), after) →
    host.locks.isWaiting bridge.process = false →
    after.locks.lock? opened.file bridge.process = some (bridge.wanted opened.file tag)
  /-- A refusal leaves everything as it was. -/
  unchanged : ∀ failure after, bridge.lock host descriptor tag false =
    some (.error failure, after) → after = host
  /-- Whoever asks, waiting or not, leaves a host of which all this can be said again. -/
  reached : ∀ blocking result after,
    bridge.lock host descriptor tag blocking = some (result, after) → after.Reached

/-- On every host that is `Reached`, `Bridge.probe` and `Bridge.lock` agree on every lock through a
descriptor that is open for reading and writing, in the sense of `Predicts`. -/
theorem probe_predicts_lock (reached : host.Reached)
    (zero : bridge.settings.descriptorOffset = 0)
    (found : host.descriptor? bridge.process descriptor.toInt = some opened)
    (readable : opened.readable = true) (writable : opened.writable = true) (tag : String) :
    bridge.Predicts host descriptor opened tag := by
  have suits : opened.suits (.ofTag tag) = true := by
    cases LockMode.ofTag tag with
    | read => exact readable
    | write => exact writable
  have probed := probe_eq zero found tag
  have asked := lock_eq zero found suits
  have isFree : bridge.probe host descriptor tag = .ok none ↔
      ∀ lock ∈ host.locks.held, lock.standsAgainst (bridge.wanted opened.file tag) = false := by
    rw [probed, ← LockTable.conflict?_eq_none_iff]
    simp
  have stillReached : ∀ blocking result after,
      bridge.lock host descriptor tag blocking = some (result, after) → after.Reached :=
    fun _ _ _ => reached_of_lock reached
  rcases conflict : host.locks.conflict? (bridge.wanted opened.file tag) with _ | lock
  · rcases granted : host.locks.request (bridge.wanted opened.file tag) with _ | locks
    · rw [LockTable.request_eq_none_iff, conflict] at granted
      simp at granted
    rw [conflict] at probed
    rw [granted] at asked
    refine ⟨by simp [probed, asked], isFree, by simp [probed, asked], by simp [probed], ?_,
      by simp [asked], stillReached⟩
    intro after isGranted idle
    rw [asked] at isGranted
    cases isGranted
    exact lock?_of_request reached granted idle
  · have refused : host.locks.request (bridge.wanted opened.file tag) = none := by
      rw [LockTable.request_eq_none_iff, conflict]
      rfl
    rw [conflict] at probed
    rw [refused] at asked
    refine ⟨by simp [probed, asked], isFree, by simp [probed, asked], ?_, by simp [asked],
      by simp [asked], stillReached⟩
    intro holder named
    rw [probed] at named
    cases named
    exact standing_of_conflict? reached conflict

/-- A file that is open for reading and writing. -/
def sharedFile : OpenFile where
  file := FileSystem.root
  readable := true
  writable := true

/-- Three processes that have the same file open. -/
def sharedHost : Host where
  files := .empty 0
  now := 0
  process id :=
    if id = 1 ∨ id = 2 ∨ id = 3 then some { parent := 0, descriptors := [(3, sharedFile)] }
    else none
  nextProcess := 4

def sharedLock (owner : ProcessId) (mode : LockMode) : RecordLock where
  file := sharedFile.file
  owner := owner
  mode := mode

/-- The three processes, of which two have locks for reading, after one of these closed the file. -/
def readerLeft : Host :=
  (sharedHost.withLocks { held := [sharedLock 2 .read, sharedLock 3 .read] }).close 2 3

theorem reached_readerLeft : readerLeft.Reached := by
  have alone : sharedHost.setLock 2 3 .write =
      .ok (sharedHost.withLocks { held := [sharedLock 2 .write] }) := rfl
  have waiting : (sharedHost.withLocks { held := [sharedLock 2 .write] }).requestLock 3 3 .read =
      .ok (.waits, sharedHost.withLocks
        { held := [sharedLock 2 .write]
          waiting := [{ request := sharedLock 3 .read, behind := .lock 2 }] }) := rfl
  have content : (sharedHost.withLocks
      { held := [sharedLock 2 .write]
        waiting := [{ request := sharedLock 3 .read, behind := .lock 2 }] }).setLock 2 3 .read =
      .ok (sharedHost.withLocks { held := [sharedLock 2 .read, sharedLock 3 .read] }) := rfl
  have reached := ((Host.Reached.start rfl).setLock alone).requestLock waiting (by decide)
  exact (reached.setLock content).close 2 3

theorem probe_predicts_lock_readerLeft :
    readerLeft.Reached ∧ readerLeft.locks.held = [sharedLock 3 .read] ∧
      (∃ holder, (ofSettings 1 {}).probe readerLeft 3 "rw" = .ok (some holder) ∧
        holder.owner = 3 ∧ holder.mode = .read ∧ holder.owner ≠ 1) ∧
      (∃ after, (ofSettings 1 {}).lock readerLeft 3 "rw" false =
        some (.error (.wouldBlock 3), after)) ∧
      ∃ after, (ofSettings 1 {}).lock readerLeft 3 "r" false = some (.ok (), after) := by
  have zero : (ofSettings 1 {}).settings.descriptorOffset = 0 := rfl
  have found : readerLeft.descriptor? (ofSettings 1 {}).process (3 : Int32).toInt =
      some sharedFile := rfl
  have forWriting : (ofSettings 1 {}).probe readerLeft 3 "rw" =
      .ok (some { owner := 3, mode := .read }) := by decide
  have forReading : (ofSettings 1 {}).probe readerLeft 3 "r" = .ok none := by decide
  have writing := probe_predicts_lock reached_readerLeft zero found rfl rfl "rw"
  have reading := probe_predicts_lock reached_readerLeft zero found rfl rfl "r"
  exact ⟨reached_readerLeft, rfl, ⟨_, forWriting, rfl, rfl, (writing.holder _ forWriting).1⟩,
    writing.refused.mp ⟨_, forWriting⟩, reading.granted.mp forReading⟩

end Bridge

end MailSpool

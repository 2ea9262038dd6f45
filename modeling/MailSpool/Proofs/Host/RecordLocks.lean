import MailSpool.Host.Locks
import MailSpool.Proofs.Dotlock.Clock
import MailSpool.Proofs.Host.Time
import MailSpool.Proofs.Locks.Table

/-!
# Record locks on a host

Processes end and receive signals, files change and time passes: all this opens and closes no
descriptor of a process that lives on, and costs such a process none of its record locks. What can
cost it one is its own closing of a file. Opening a file, closing a descriptor and asking for a
lock each have a statement of their own.
-/

namespace MailSpool

namespace Host

/-- Processes may have ended, but those that live have the descriptors that they had, and every
lock of theirs that is not among the lost ones and for which they do not wait. -/
structure Wears (lost : RecordLock → Prop) (before after : Host) : Prop where
  process : ∀ id state, after.process id = some state →
    ∃ old, before.process id = some old ∧ old.descriptors = state.descriptors
  locks : LockTable.Alters (fun lock => lost lock ∨ after.isAlive lock.owner = false)
    before.locks after.locks

variable {lost : RecordLock → Prop} {host before between after : Host}

theorem isAlive_of_process {id : ProcessId} {state : Process}
    (found : host.process id = some state) : host.isAlive id = true := by
  simp [isAlive, found]

namespace Wears

theorem isAlive (wears : Wears lost before after) {id : ProcessId}
    (alive : after.isAlive id = true) : before.isAlive id = true := by
  rcases Option.isSome_iff_exists.mp alive with ⟨state, found⟩
  rcases wears.process id state found with ⟨old, isOld, _⟩
  exact isAlive_of_process isOld

theorem refl (lost : RecordLock → Prop) (host : Host) : Wears lost host host where
  process _ state found := ⟨state, found, rfl⟩
  locks := .refl _ _

theorem trans (first : Wears lost before between) (second : Wears lost between after) :
    Wears lost before after where
  process id state found := by
    rcases second.process id state found with ⟨middle, isMiddle, same⟩
    rcases first.process id middle isMiddle with ⟨old, isOld, alsoSame⟩
    exact ⟨old, isOld, alsoSame.trans same⟩
  locks := by
    refine LockTable.Serves.trans (LockTable.Serves.mono first.locks ?_) second.locks
    rintro lock (gone | dead)
    · exact Or.inl gone
    · right
      cases alive : after.isAlive lock.owner with
      | false => rfl
      | true =>
          rw [second.isAlive alive] at dead
          simp at dead

theorem mono {less : RecordLock → Prop} (wears : Wears less before after)
    (implies : ∀ lock, less lock → lost lock) : Wears lost before after where
  process := wears.process
  locks := wears.locks.mono fun lock gone => gone.imp_left (implies lock)

theorem descriptor? (wears : Wears lost before after) {id : ProcessId}
    (alive : after.isAlive id = true) (number : Int) :
    after.descriptor? id number = before.descriptor? id number := by
  rcases Option.isSome_iff_exists.mp alive with ⟨state, found⟩
  rcases wears.process id state found with ⟨old, isOld, same⟩
  simp [Host.descriptor?, found, isOld, same]

theorem mem_held (wears : Wears lost before after) {lock : RecordLock}
    (member : lock ∈ before.locks.held) (stays : ¬lost lock)
    (alive : after.isAlive lock.owner = true)
    (idle : before.locks.isWaiting lock.owner = false) : lock ∈ after.locks.held := by
  refine wears.locks.kept member ?_ idle
  rintro (gone | dead)
  · exact stays gone
  · rw [alive] at dead
    simp at dead

theorem of_same (process : after.process = before.process) (locks : after.locks = before.locks) :
    Wears lost before after where
  process id state found := by
    rw [process] at found
    exact ⟨state, found, rfl⟩
  locks := by
    rw [locks]
    exact .refl _ _

theorem of_sameWorld (world : before.SameWorld after) : Wears lost before after :=
  .of_same world.process world.locks

end Wears

theorem locks_changeProcess (host : Host) (id : ProcessId) (change : Process → Process) :
    (host.changeProcess id change).locks = host.locks := by
  unfold changeProcess
  split <;> rfl

theorem isAlive_changeProcess (host : Host) (id : ProcessId) (change : Process → Process)
    (other : ProcessId) : (host.changeProcess id change).isAlive other = host.isAlive other := by
  unfold changeProcess
  rcases found : host.process id with _ | state
  · rfl
  · by_cases same : other = id
    · simp [isAlive, setProcess, same, found]
    · simp [isAlive, setProcess, same]

/-! ## Time -/

theorem wears_changeProcess (host : Host) (id : ProcessId) (change : Process → Process)
    (keeps : ∀ state, (change state).descriptors = state.descriptors) :
    Wears lost host (host.changeProcess id change) := by
  unfold changeProcess
  rcases found : host.process id with _ | state
  · exact .refl _ _
  · refine ⟨?_, .refl _ _⟩
    intro other changed isChanged
    by_cases same : other = id
    · subst same
      dsimp only at isChanged
      rw [process_setProcess_self] at isChanged
      cases isChanged
      exact ⟨state, found, (keeps state).symm⟩
    · dsimp only at isChanged
      rw [process_setProcess_of_ne _ _ same] at isChanged
      exact ⟨changed, isChanged, rfl⟩

theorem wears_signal (host : Host) (id : ProcessId) (number : Nat) :
    Wears lost host (host.signal id number) := by
  apply wears_changeProcess
  intro state
  split <;> rfl

/-- The `exit` of a process costs no other process a lock. -/
theorem wears_exit (host : Host) (id : ProcessId) : Wears lost host (host.exit id) where
  process other state found := by
    by_cases same : other = id
    · simp [exit, setProcess, same] at found
    · have kept : host.process other = some state := by
        simpa [exit, setProcess, same] using found
      exact ⟨state, kept, rfl⟩
  locks := by
    refine (host.locks.alters_releaseAll id).mono ?_
    intro lock isOwner
    right
    simp [isAlive, exit, setProcess, isOwner]

theorem wears_perform (host : Host) (deed : Deed) : Wears lost host (host.perform deed) := by
  cases deed with
  | unlink path => exact .of_sameWorld (host.sameWorld_remaining path)
  | touch path =>
      simp only [perform]
      rcases touched : host.touch path with failure | after
      · exact .refl _ _
      · exact .of_sameWorld (sameWorld_touch touched)
  | exit id => exact host.wears_exit id
  | signal id number => exact host.wears_signal id number

theorem wears_elapseUntil (host : Host) (time : Instant) :
    Wears lost host (host.elapseUntil time) := by
  refine (elapseUntil_induction (Wears lost host) ?_ ?_ time
    (fun _ _ => trivial) (.refl lost host) : _ ∧ Expects _ fun _ => True).1
  · intro later now agenda wears
    exact wears.trans (.of_same rfl rfl)
  · intro later deed _ wears
    exact wears.trans (later.wears_perform deed)

/-! ## Losing a lock -/

theorem wears_loseLock (host : Host) (id : ProcessId) (file : FileId) :
    Wears (fun lock => lock.isOf file id) host (host.loseLock id file) where
  process _ state found := ⟨state, found, rfl⟩
  locks := (host.locks.alters_release file id).mono fun _ => Or.inl

end Host

namespace Acquisition

/-- The locks of a locker's process on the file that it reads at a step. -/
def Reads (work : Acquisition) (host : Host) (lock : RecordLock) : Prop :=
  (∃ owned, work.stage = .readingOwner owned) ∧ lock.owner = work.locker.process ∧
    ∃ found, host.stat work.lock = .ok (lock.file, found)

/-- A step costs the process of the locker at most its lock on the file that it reads. -/
theorem wears_step (work : Acquisition) (host : Host) :
    Host.Wears (work.Reads host) host (work.step host).2 := by
  have closed : Host.Wears (work.Reads host) host (work.closing host) := by
    unfold closing
    split
    case h_1 owned stage =>
      rcases host.read_snd work.locker.process work.lock with same | ⟨file, found, looked, lost⟩
      · rw [same]
        exact .refl _ _
      · rw [lost]
        refine (host.wears_loseLock _ file).mono ?_
        intro lock isOf
        rcases RecordLock.isOf_eq_true_iff.mp isOf with ⟨isFile, isOwner⟩
        exact ⟨⟨owned, stage⟩, isOwner, found, isFile ▸ looked⟩
    case h_2 => exact .refl _ _
  exact closed.trans (.of_sameWorld (work.sameWorld_step host))

end Acquisition

/-! ## Descriptors -/

theorem Process.freeFrom_le (descriptors : List (Nat × OpenFile)) (steps number : Nat) :
    freeFrom descriptors steps number ≤ number + steps := by
  induction steps generalizing number with
  | zero => simp [freeFrom]
  | succ steps ih =>
      simp only [freeFrom]
      split
      · have later := ih (number + 1)
        omega
      · omega

/-- The number of a file that is opened is bounded by how many are open. -/
theorem Process.freeDescriptor_le (state : Process) :
    state.freeDescriptor ≤ state.descriptors.length + 3 := by
  have bound := freeFrom_le state.descriptors state.descriptors.length 3
  unfold freeDescriptor
  omega

namespace Host

variable {host after : Host} {id : ProcessId} {path : String} {writable : Bool} {number : Nat}

/-- What it means that a file was opened. -/
structure Opens (host : Host) (id : ProcessId) (path : String) (writable : Bool) (number : Nat)
    (opened : OpenFile) (after : Host) : Prop where
  state : ∃ state, host.process id = some state ∧ number = state.freeDescriptor ∧
    after = host.setProcess id
      (some { state with descriptors := (number, opened) :: state.descriptors })
  stat : ∃ found, host.stat path = .ok (opened.file, found)
  readable : opened.readable = true
  writable : opened.writable = writable

theorem exists_opens (opened : host.openFile id path writable = .ok (number, after)) :
    ∃ file, Opens host id path writable number file after := by
  unfold openFile at opened
  rcases called : calling [path] (host.files.openable path writable) with error | file
  · simp [called] at opened
  rcases alive : host.process id with _ | state
  · simp [called, alive] at opened
  simp only [called, alive, Except.ok.injEq, Prod.mk.injEq] at opened
  rcases opened with ⟨rfl, rfl⟩
  refine ⟨{ file := file, readable := true, writable := writable }, ⟨state, alive, rfl, rfl⟩,
    ?_, rfl, rfl⟩
  rcases calling_eq_ok_iff.mp called with ⟨isWritable, openable⟩
  unfold FileSystem.openable at openable
  split at openable
  · simp at openable
  case h_2 other found looked =>
    split at openable
    · simp at openable
    · cases openable
      exact ⟨found, calling_eq_ok_iff.mpr ⟨isWritable, looked⟩⟩

namespace Opens

variable {opened : OpenFile}

theorem files (opens : Opens host id path writable number opened after) :
    after.files = host.files := by
  rcases opens.state with ⟨_, _, _, rfl⟩
  rfl

theorem locks (opens : Opens host id path writable number opened after) :
    after.locks = host.locks := by
  rcases opens.state with ⟨_, _, _, rfl⟩
  rfl

theorem descriptor?_self (opens : Opens host id path writable number opened after) :
    after.descriptor? id number = some opened := by
  rcases opens.state with ⟨state, _, _, rfl⟩
  simp [descriptor?, setProcess]

theorem descriptor?_of_ne (opens : Opens host id path writable number opened after)
    {other : ProcessId} {place : Int} (different : other = id → place ≠ number) :
    after.descriptor? other place = host.descriptor? other place := by
  rcases opens.state with ⟨state, found, _, rfl⟩
  by_cases same : other = id
  · subst same
    have apart := different rfl
    simp only [descriptor?, process_setProcess_self, found, Option.bind_some]
    split
    · rfl
    · have noMatch : (place.toNat == number) = false := by
        apply beq_false_of_ne
        omega
      simp [List.lookup_cons, noMatch]
  · simp [descriptor?, process_setProcess_of_ne _ _ same]

theorem isAlive (opens : Opens host id path writable number opened after) (other : ProcessId) :
    after.isAlive other = host.isAlive other := by
  rcases opens.state with ⟨state, found, _, rfl⟩
  by_cases same : other = id
  · simp [Host.isAlive, setProcess, same, found]
  · simp [Host.isAlive, setProcess, same]

/-- The number fits as long as not too many files are open. -/
theorem number_le (opens : Opens host id path writable number opened after) :
    ∃ state, host.process id = some state ∧ number ≤ state.descriptors.length + 3 := by
  rcases opens.state with ⟨state, found, rfl, _⟩
  exact ⟨state, found, state.freeDescriptor_le⟩

end Opens

/-- To `close` a descriptor costs the process its lock on the file. -/
theorem locks_close {opened : OpenFile} (isOpen : host.descriptor? id number = some opened) :
    (host.close id number).locks = host.locks.release opened.file id := by
  unfold close
  rw [isOpen]
  simp only [loseLock, locks_changeProcess]

theorem alters_close (host : Host) (id : ProcessId) (number : Nat) :
    LockTable.Alters (fun lock => lock.owner = id ∧
        (host.descriptor? id number).map OpenFile.file = some lock.file)
      host.locks (host.close id number).locks := by
  rcases found : host.descriptor? id number with _ | opened
  · have same : host.close id number = host := by simp only [close, found]
    rw [same]
    exact .refl _ _
  · rw [locks_close found]
    refine (host.locks.alters_release opened.file id).mono ?_
    intro lock isOf
    rcases RecordLock.isOf_eq_true_iff.mp isOf with ⟨isFile, isOwner⟩
    exact ⟨isOwner, by simp [isFile]⟩

theorem files_close (host : Host) (id : ProcessId) (number : Nat) :
    (host.close id number).files = host.files := by
  unfold close
  split
  · rfl
  · exact host.files_changeProcess id _

theorem isAlive_close (host : Host) (id : ProcessId) (number : Nat) (other : ProcessId) :
    (host.close id number).isAlive other = host.isAlive other := by
  unfold close
  split
  · rfl
  · exact host.isAlive_changeProcess id _ other

theorem descriptor?_of_close {number : Nat} {other : ProcessId} {place : Int} {file : OpenFile}
    (found : (host.close id number).descriptor? other place = some file) :
    host.descriptor? other place = some file := by
  unfold close at found
  split at found
  · exact found
  · unfold changeProcess at found
    rcases alive : host.process id with _ | state
    · rw [alive] at found
      exact found
    · by_cases same : other = id
      · subst same
        simp only [descriptor?, loseLock, alive, process_setProcess_self, Option.bind_some,
          FileSystem.lookup_filter_ne] at found ⊢
        split at found
        · simp at found
        · split at found
          · simp at found
          case isFalse positive _ =>
            rw [if_neg positive]
            exact found
      · simpa [descriptor?, loseLock, alive, setProcess, same] using found

/-- What it means that `wanted` finds a lock to ask for. -/
theorem wanted_eq_ok_iff {descriptor : Int32} {mode : LockMode} {wanted : RecordLock} :
    host.wanted id descriptor mode = .ok wanted ↔
      ∃ opened, host.descriptor? id descriptor.toInt = some opened ∧ opened.suits mode = true ∧
        wanted = { file := opened.file, owner := id, mode := mode } := by
  unfold Host.wanted
  rcases host.descriptor? id descriptor.toInt with _ | opened
  · simp
  · simp only [Option.some.injEq, exists_eq_left']
    split
    case isTrue suits => simp only [Except.ok.injEq, suits, true_and, eq_comm]
    case isFalse unsuited => simp [unsuited]

/-- What it means that `setLock` was granted. -/
theorem exists_of_setLock {descriptor : Int32} {mode : LockMode}
    (granted : host.setLock id descriptor mode = .ok after) :
    ∃ opened locks, host.descriptor? id descriptor.toInt = some opened ∧
      host.locks.request { file := opened.file, owner := id, mode := mode } = some locks ∧
      after = host.withLocks locks := by
  unfold setLock at granted
  split at granted
  · simp at granted
  case h_2 wanted isWanted =>
    rcases wanted_eq_ok_iff.mp isWanted with ⟨opened, found, _, rfl⟩
    split at granted
    · simp at granted
    case h_2 locks isGranted =>
      cases granted
      exact ⟨opened, locks, found, isGranted, rfl⟩

end Host

end MailSpool

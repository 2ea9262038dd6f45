import MailSpool.Proofs.Dotlock.Leavings
import MailSpool.SpoolGuard

/-!
# The course of taking both locks

A guard is taken in three calls: the locker takes the lock file, the mailbox is opened, and the
record lock is asked for through the number of its descriptor, less the offset of the bridge. What
each of them can do is told once here, for a guard that is obtained, `exists_of_acquire`, and for
one that is not, `cases_of_acquire_error`.
-/

namespace MailSpool

theorem systemDescriptor_eq_ok_iff {offset descriptor number : Int32} :
    systemDescriptor offset descriptor = .ok number ↔
      number.toInt = descriptor.toInt - offset.toInt := by
  unfold systemDescriptor
  dsimp only
  split
  case isTrue fits =>
    have difference : (Int32.ofInt (descriptor.toInt - offset.toInt)).toInt =
        descriptor.toInt - offset.toInt :=
      Int32.toInt_ofInt_of_le (by omega) (by omega)
    rw [Except.ok.injEq, ← Int32.toInt_inj, difference]
    exact eq_comm
  case isFalse wide =>
    have lower := number.le_toInt
    have upper := number.toInt_lt
    refine ⟨fun same => by simp at same, fun same => absurd ?_ wide⟩
    omega

namespace Host

/-- A host on which a process may take a lock: files are sound, the locks of the process are on
known files, it waits for no other one, and the numbers of its descriptors are not used up. -/
structure IsReady (host : Host) (id : ProcessId) : Prop where
  sound : host.files.Sound
  known : ∀ record ∈ host.locks.held, record.owner = id → (host.files.file record.file).isSome
  idle : host.locks.isWaiting id = false
  few : ∀ state, host.process id = some state → state.descriptors.length + 3 < 2147483648

theorem Opens.toInt_number {host opening after : Host} {id : ProcessId} {path : String}
    {writable : Bool} {number : Nat} {opened : OpenFile} {lost : RecordLock → Prop}
    (opens : Opens opening id path writable number opened after) (ready : host.IsReady id)
    (wears : Wears lost host opening) : (Int32.ofNat number).toInt = number := by
  rcases opens.number_le with ⟨state, found, bound⟩
  rcases wears.process id state found with ⟨old, isOld, same⟩
  have few := ready.few old isOld
  rw [same] at few
  exact Int32.toInt_ofNat_of_lt (by omega)

end Host

/-- What it means that `tryLock` was granted: the record lock is on the file behind the
`systemDescriptor` of the number. -/
theorem Bridge.exists_of_tryLock (bridge : Bridge) {host after : Host} {descriptor : Int32}
    {mode : LockMode} (tried : bridge.tryLock host descriptor mode.tag = .ok after) :
    ∃ number target locks, bridge.systemDescriptor descriptor = .ok number ∧
      host.descriptor? bridge.process number.toInt = some target ∧
      host.locks.request { file := target.file, owner := bridge.process, mode := mode } =
        some locks ∧
      after = host.withLocks locks := by
  unfold tryLock at tried
  rcases numbered : bridge.systemDescriptor descriptor with error | number
  · simp [numbered, Except.bind] at tried
  simp only [numbered, Except.bind, LockMode.ofTag_tag, locking] at tried
  rcases granted : host.setLock bridge.process number mode with errno | given
  · simp [granted, Except.mapError] at tried
  simp only [granted, Except.mapError, Except.ok.injEq] at tried
  subst tried
  rcases Host.exists_of_setLock granted with ⟨target, locks, isTarget, requested, rfl⟩
  exact ⟨number, target, locks, rfl, isTarget, requested, rfl⟩

theorem Bridge.systemDescriptor_of_zero {bridge : Bridge} {descriptor : Int32}
    (zero : bridge.settings.descriptorOffset = 0) :
    bridge.systemDescriptor descriptor = .ok descriptor := by
  unfold systemDescriptor
  rw [systemDescriptor_eq_ok_iff, zero]
  exact (Int.sub_zero _).symm

theorem Bridge.tryLock_eq {bridge : Bridge} {host : Host} {descriptor number : Int32} {tag : String}
    {opened : OpenFile} (numbered : bridge.systemDescriptor descriptor = .ok number)
    (found : host.descriptor? bridge.process number.toInt = some opened)
    (suits : opened.suits (.ofTag tag) = true) :
    bridge.tryLock host descriptor tag =
      match host.locks.request
          { file := opened.file, owner := bridge.process, mode := .ofTag tag } with
      | none => .error (.wouldBlock number)
      | some locks => .ok (host.withLocks locks) := by
  have wanted : host.wanted bridge.process number (.ofTag tag) =
      .ok { file := opened.file, owner := bridge.process, mode := .ofTag tag } :=
    Host.wanted_eq_ok_iff.mpr ⟨opened, found, suits, rfl⟩
  simp only [tryLock, Host.setLock, numbered, Except.bind, wanted]
  rcases host.locks.request
    { file := opened.file, owner := bridge.process, mode := .ofTag tag } with _ | locks
  · rfl
  · rfl

theorem Bridge.exists_of_unlock (bridge : Bridge) {host after : Host} {descriptor : Int32}
    (given : bridge.unlock host descriptor = .ok after) :
    ∃ file, after = host.loseLock bridge.process file := by
  unfold unlock Host.removeLock at given
  rcases numbered : bridge.systemDescriptor descriptor with error | number
  · simp [numbered, Except.bind] at given
  simp only [numbered, Except.bind, locking] at given
  rcases found : host.descriptor? bridge.process number.toInt with _ | opened
  · simp [found, Except.mapError] at given
  · simp only [found, Except.mapError, Except.ok.injEq] at given
    exact ⟨opened.file, given.symm⟩

namespace SpoolGuard

variable {bridge freed : Bridge} {host after : Host} {path : String} {mode : LockMode}
  {descriptor : Nat} {failure : Failure}

/-- What it means that `openLocked` succeeds: the record lock is on the file behind the
`systemDescriptor` of the number under which the mailbox was opened. -/
theorem exists_of_openLocked
    (secured : openLocked bridge host path mode = (.ok descriptor, after)) :
    ∃ opened between number target locks,
      Host.Opens host bridge.process path (mode = .write) descriptor opened between ∧
      bridge.systemDescriptor (.ofNat descriptor) = .ok number ∧
      between.descriptor? bridge.process number.toInt = some target ∧
      between.locks.request { file := target.file, owner := bridge.process, mode := mode } =
        some locks ∧
      after = between.withLocks locks := by
  unfold openLocked at secured
  rcases openedFile : host.openFile bridge.process path (mode = .write) with
    error | ⟨other, between⟩
  · simp [openedFile] at secured
  rcases Host.exists_opens openedFile with ⟨opened, opens⟩
  simp only [openedFile] at secured
  rcases tried : bridge.tryLock between (.ofNat other) mode.tag with error | locked
  · simp [tried] at secured
  simp only [tried, Prod.mk.injEq, Except.ok.injEq] at secured
  rcases secured with ⟨rfl, rfl⟩
  rcases bridge.exists_of_tryLock tried with ⟨number, target, locks, rest⟩
  exact ⟨opened, between, number, target, locks, opens, rest⟩

/-- What it means that `openLocked` fails: the mailbox could not be opened, or it was closed again
because `tryLock` was refused. -/
theorem eq_or_close_of_openLocked
    (refused : openLocked bridge host path mode = (.error failure, after)) :
    after = host ∨ ∃ number opened between,
      Host.Opens host bridge.process path (mode = .write) number opened between ∧
      bridge.tryLock between (.ofNat number) mode.tag = .error failure ∧
      after = between.close bridge.process number := by
  unfold openLocked at refused
  rcases openedFile : host.openFile bridge.process path (mode = .write) with
    error | ⟨other, between⟩
  · simp only [openedFile, Prod.mk.injEq] at refused
    exact Or.inl refused.2.symm
  rcases Host.exists_opens openedFile with ⟨opened, opens⟩
  simp only [openedFile] at refused
  rcases tried : bridge.tryLock between (.ofNat other) mode.tag with error | locked
  · simp only [tried, Prod.mk.injEq, Except.error.injEq] at refused
    rcases refused with ⟨rfl, rfl⟩
    exact Or.inr ⟨other, opened, between, opens, tried, rfl⟩
  · simp [tried] at refused

theorem eq_wouldBlock_of_tryLock {number : Nat} {opened : OpenFile}
    (opens : Host.Opens host bridge.process path (mode = .write) number opened after)
    (zero : bridge.settings.descriptorOffset = 0) (fits : (Int32.ofNat number).toInt = number)
    (refused : bridge.tryLock after (.ofNat number) mode.tag = .error failure) :
    failure = .wouldBlock (.ofNat number) := by
  have suits : opened.suits (.ofTag mode.tag) = true := by
    rw [LockMode.ofTag_tag]
    cases mode with
    | read => exact opens.readable
    | write =>
        have writable := opens.writable
        rw [decide_eq_true rfl] at writable
        exact writable
  have found : after.descriptor? bridge.process (Int32.ofNat number).toInt = some opened := by
    rw [fits]
    exact opens.descriptor?_self
  rw [Bridge.tryLock_eq (Bridge.systemDescriptor_of_zero zero) found suits] at refused
  split at refused
  · exact (Except.error.inj refused).symm
  · simp at refused

variable {guard : SpoolGuard} {user tag : String} {retries : UInt32}

theorem startRefresher_snd (bridge : Bridge) (host : Host) :
    (bridge.startRefresher host).2 =
      { host with agenda := (bridge.startRefresher host).2.agenda } := by
  unfold Bridge.startRefresher
  split <;> rfl

theorem stopRefresher_eq (refresher : Option RefreshTask) (host : Host) :
    Bridge.stopRefresher refresher host =
      { host with agenda := (Bridge.stopRefresher refresher host).agenda } := by
  cases refresher <;> rfl

/-- A guard is obtained when the locker succeeds and `openLocked` does at the `spoolPath` of the
user. -/
theorem exists_of_acquire
    (acquired : SpoolGuard.acquire bridge host user tag retries = (.ok guard, after)) :
    ∃ next locked secured,
      bridge.locker.acquire host user retries = (.success, next, locked) ∧
      guard.bridge = { bridge with locker := next } ∧ guard.path = bridge.spoolPath user ∧
      guard.mode = .ofTag tag ∧
      openLocked guard.bridge locked guard.path guard.mode = (.ok guard.descriptor, secured) ∧
      after.files = secured.files ∧ after.process = secured.process ∧
      after.locks = secured.locks := by
  unfold SpoolGuard.acquire Bridge.lockMail at acquired
  rcases taken : bridge.locker.acquire host user retries with ⟨status, next, locked⟩
  simp only [taken] at acquired
  cases status with
  | success =>
      dsimp only at acquired
      rcases secured : openLocked { bridge with locker := next } locked (bridge.spoolPath user)
        (.ofTag tag) with ⟨failure | number, rest⟩
      · simp [secured] at acquired
      · have refreshed := startRefresher_snd { bridge with locker := next } rest
        simp only [secured, Prod.mk.injEq, Except.ok.injEq] at acquired
        rcases acquired with ⟨rfl, rfl⟩
        refine ⟨next, locked, rest, rfl, rfl, rfl, rfl, secured, ?_⟩
        rw [refreshed]
        exact ⟨rfl, rfl, rfl⟩
  | nameLength | temporaryLock | temporaryWrite | maxTries | error => simp at acquired

theorem refresher_of_acquire
    (acquired : SpoolGuard.acquire bridge host user tag retries = (.ok guard, after)) :
    guard.refresher = guard.bridge.locker.refreshTask? := by
  unfold SpoolGuard.acquire at acquired
  split at acquired
  case h_1 next locked _ =>
    rcases secured : openLocked next locked (bridge.spoolPath user) (.ofTag tag) with
      ⟨failure | number, rest⟩
    · simp [secured] at acquired
    · simp only [secured, Prod.mk.injEq, Except.ok.injEq] at acquired
      rcases acquired with ⟨rfl, _⟩
      simp only [Bridge.startRefresher]
      cases next.locker.refreshTask? <;> rfl
  case h_2 => simp at acquired

/-- A guard is not obtained when the locker fails, or when `openLocked` does; then the lock file is
given back by `release`. -/
theorem cases_of_acquire_error
    (refused : SpoolGuard.acquire bridge host user tag retries = (.error (failure, freed), after)) :
    (∃ status next, status ≠ .success ∧
      bridge.locker.acquire host user retries = (status, next, after) ∧
      freed = { bridge with locker := next }) ∨
    ∃ next locked rest notice,
      bridge.locker.acquire host user retries = (.success, next, locked) ∧
      openLocked { bridge with locker := next } locked (bridge.spoolPath user) (.ofTag tag) =
        (.error failure, rest) ∧
      freed = { bridge with locker := (next.release (rest.tell bridge.process notice)).1 } ∧
      after = (next.release (rest.tell bridge.process notice)).2 := by
  unfold SpoolGuard.acquire Bridge.lockMail at refused
  rcases taken : bridge.locker.acquire host user retries with ⟨status, next, locked⟩
  simp only [taken] at refused
  cases status with
  | success =>
      dsimp only at refused
      rcases secured : openLocked { bridge with locker := next } locked (bridge.spoolPath user)
        (.ofTag tag) with ⟨error | number, rest⟩
      · simp only [secured, Bridge.unlockMail, Prod.mk.injEq, Except.error.injEq] at refused
        rcases refused with ⟨⟨rfl, rfl⟩, rfl⟩
        exact Or.inr ⟨next, locked, rest, _, rfl, secured, rfl, rfl⟩
      · simp [secured] at refused
  | nameLength | temporaryLock | temporaryWrite | maxTries | error =>
      simp only [Prod.mk.injEq, Except.error.injEq] at refused
      rcases refused with ⟨⟨_, rfl⟩, rfl⟩
      exact Or.inl ⟨_, next, by simp, rfl, rfl⟩

end SpoolGuard

end MailSpool

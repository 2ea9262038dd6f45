import MailSpool.Proofs.Guard.Acquire

/-!
# What a guard holds

A guard that was obtained holds the lock file of its user, which is there, has the mailbox open, and
its process holds one record lock more. By `record_locked_of_acquire` that lock is on the file
behind the number of the open descriptor less the offset of the bridge: the mailbox itself only if
the bridge has no offset. By `lock_next_to_mailbox` the lock file lies next to the mailbox unless
`$MAIL` names a mailbox of the user elsewhere.
-/

namespace MailSpool

open FileSystem

namespace SpoolGuard

variable {bridge : Bridge} {host after : Host} {guard : SpoolGuard} {user tag : String}
  {retries : UInt32}

theorem exists_lockPath_of_acquire {next : Locker}
    (acquired : bridge.locker.acquire host user retries = (.success, next, after)) :
    ∃ lock, bridge.locker.lockPath host user = .ok lock := by
  rcases found : bridge.locker.lockPath host user with status | lock
  · rw [Locker.acquire_of_rejected found] at acquired
    simp only [Locker.reject, Prod.mk.injEq] at acquired
    exact absurd acquired.1 (MailSettings.ne_success_of_lockPath found)
  · exact ⟨lock, rfl⟩

theorem exists_held_of_acquire (ready : host.IsReady bridge.process)
    (acquired : SpoolGuard.acquire bridge host user tag retries = (.ok guard, after)) :
    ∃ lock, bridge.locker.lockPath host user = .ok lock ∧
      guard.bridge.locker.held = some { user := user, path := lock } ∧
      (after.named? lock).isSome := by
  rcases exists_of_acquire acquired with
    ⟨next, locked, secured, taken, isBridge, _, _, opening, files, _, _⟩
  rcases exists_lockPath_of_acquire taken with ⟨lock, found⟩
  have leaves := Locker.leaves_of_acquire ready.sound found taken
  rcases exists_of_openLocked opening with ⟨_, between, _, _, _, opens, _, _, _, rfl⟩
  refine ⟨lock, found, ?_, ?_⟩
  · rw [isBridge]
    exact leaves.held
  · rcases leaves.named rfl with ⟨file, _, named⟩
    have sameFiles : after.files = locked.files := files.trans opens.files
    rw [Host.named?_congr sameFiles, named]
    rfl

theorem exists_mailbox_of_acquire (ready : host.IsReady bridge.process)
    (acquired : SpoolGuard.acquire bridge host user tag retries = (.ok guard, after)) :
    ∃ mailbox target,
      after.descriptor? bridge.process guard.descriptor = some mailbox ∧
      (∃ found, after.stat guard.path = .ok (mailbox.file, found)) ∧
      after.descriptor? bridge.process
        (guard.descriptor - bridge.settings.descriptorOffset.toInt) = some target ∧
      { file := target.file, owner := bridge.process, mode := guard.mode } ∈ after.locks.held ∧
      ∀ record ∈ after.locks.held, record.owner = bridge.process → record ∈ host.locks.held ∨
        record = { file := target.file, owner := bridge.process, mode := guard.mode } := by
  rcases exists_of_acquire acquired with
    ⟨next, locked, secured, taken, isBridge, _, _, opening, files, process, locks⟩
  rcases exists_lockPath_of_acquire taken with ⟨lock, found⟩
  have leaves := Locker.leaves_of_acquire ready.sound found taken
  have sameProcess : guard.bridge.process = bridge.process := by
    rw [isBridge]
    exact leaves.process
  have sameSettings : guard.bridge.settings = bridge.settings := by rw [isBridge]
  rcases exists_of_openLocked opening with
    ⟨mailbox, between, number, target, granted, opens, numbered, isTarget, requested, rfl⟩
  rw [sameProcess] at opens isTarget requested
  have idle : between.locks.isWaiting bridge.process = false := by
    rw [opens.locks]
    exact leaves.wears.locks.isWaiting ready.idle
  have sameDescriptors : ∀ place, after.descriptor? bridge.process place =
      between.descriptor? bridge.process place := by
    intro place
    simp only [Host.descriptor?, process, Host.withLocks]
  have isNumber : number.toInt =
      guard.descriptor - bridge.settings.descriptorOffset.toInt := by
    rw [← opens.toInt_number ready leaves.wears, ← sameSettings]
    exact systemDescriptor_eq_ok_iff.mp numbered
  refine ⟨mailbox, target, ?_, ?_, ?_, ?_, ?_⟩
  · rw [sameDescriptors]
    exact opens.descriptor?_self
  · rcases opens.stat with ⟨details, looked⟩
    have sameFiles : after.files = locked.files := files.trans opens.files
    refine ⟨details, ?_⟩
    unfold Host.stat at looked ⊢
    rw [sameFiles]
    exact looked
  · rw [sameDescriptors, ← isNumber]
    exact isTarget
  · rw [locks]
    exact LockTable.mem_held_of_request requested idle
  · intro record member isOwner
    rw [locks] at member
    rcases (LockTable.serves_request requested).held record member with old | same | waits
    · rw [opens.locks] at old
      rcases leaves.wears.locks.held old with older | ⟨waiter, waits, rfl⟩
      · exact Or.inl older
      · exact absurd isOwner (LockTable.isWaiting_eq_false_iff.mp ready.idle waiter waits)
    · exact Or.inr (List.mem_singleton.mp same)
    · rcases waits with ⟨waiter, waits, rfl⟩
      exact absurd isOwner (LockTable.isWaiting_eq_false_iff.mp idle waiter waits)

/-- Without an offset, the file that is locked is the mailbox. -/
theorem target_eq_mailbox {offset : Int32} {mailbox target : OpenFile} {process : ProcessId}
    {number : Nat} (zero : offset = 0) (isMailbox : after.descriptor? process number = some mailbox)
    (isTarget : after.descriptor? process (number - offset.toInt) = some target) :
    target = mailbox := by
  rw [zero, show (0 : Int32).toInt = 0 from rfl, Int.sub_zero, isMailbox] at isTarget
  exact (Option.some.inj isTarget).symm

/-- Whoever obtains a guard holds the lock file of the user at its `lockPath`, where it is, and has
the mailbox at its `spoolPath` open. The process holds a record lock of the guard's mode on the file
behind the descriptor less the `descriptorOffset`, which is the mailbox if that is zero, and has
been given no other one. -/
theorem record_locked_of_acquire (ready : host.IsReady bridge.process)
    (acquired : SpoolGuard.acquire bridge host user tag retries = (.ok guard, after)) :
    guard.path = bridge.spoolPath user ∧ guard.mode = .ofTag tag ∧
      (∃ lock, bridge.locker.lockPath host user = .ok lock ∧
        guard.bridge.locker.held = some { user := user, path := lock } ∧
        (after.named? lock).isSome) ∧
      ∃ mailbox target,
        after.descriptor? bridge.process guard.descriptor = some mailbox ∧
        (∃ found, after.stat guard.path = .ok (mailbox.file, found)) ∧
        after.descriptor? bridge.process
          (guard.descriptor - bridge.settings.descriptorOffset.toInt) = some target ∧
        (bridge.settings.descriptorOffset = 0 → target = mailbox) ∧
        { file := target.file, owner := bridge.process, mode := guard.mode } ∈ after.locks.held ∧
        ∀ record ∈ after.locks.held, record.owner = bridge.process → record ∈ host.locks.held ∨
          record = { file := target.file, owner := bridge.process, mode := guard.mode } := by
  rcases exists_of_acquire acquired with ⟨_, _, _, _, _, isPath, isMode, _, _, _, _⟩
  rcases exists_mailbox_of_acquire ready acquired with
    ⟨mailbox, target, isMailbox, looked, isTarget, locked, others⟩
  refine ⟨isPath, isMode, exists_held_of_acquire ready acquired, mailbox, target, isMailbox, looked,
    isTarget, ?_, locked, others⟩
  intro zero
  exact target_eq_mailbox zero isMailbox isTarget

/-! ## A lock on another file -/

/-- A caller that numbers its descriptors from one on. -/
def shiftedBridge : Bridge :=
  .ofSettings 1 { descriptorOffset := 1, mail := { spoolDirectory := "/", honorMail := false } }

/-- The mailbox of a user and another file. -/
def twoFiles : FileSystem :=
  (((empty 0).make root "u" (.regular .empty) 0).2.make root "other" (.regular .empty) 0).2

/-- A process that has the other file open. -/
def readerHost : Host :=
  { Host.boot 0 fun number => number with
    files := twoFiles
    process := fun id =>
      if id = 1 then
        some
          { parent := 0
            descriptors := [(3, { file := ⟨2⟩, readable := true, writable := true })] }
      else none }

def misledGuard : SpoolGuard where
  bridge := { shiftedBridge with
    locker := { shiftedBridge.locker with
      held := some { user := "u", path := "/u.lock" }
      counts := { acquisitions := 1 } } }
  path := "/u"
  mode := .write
  descriptor := 4
  refresher := some { process := 1, path := "/u.lock" }

def misledEnd : Host :=
  (SpoolGuard.acquire shiftedBridge readerHost "u" "rw" 0).2

theorem sound_twoFiles : twoFiles.Sound := by
  have mailbox : ((empty 0).make root "u" (.regular .empty) 0).2.Sound := by
    apply (sound_empty 0).make
    · decide +kernel
    · decide +kernel
  unfold twoFiles
  apply mailbox.make
  · decide +kernel
  · decide +kernel

theorem isReady_readerHost : readerHost.IsReady 1 where
  sound := sound_twoFiles
  known record member := by simp [readerHost, Host.boot] at member
  idle := by decide +kernel
  few state found := by
    simp only [readerHost, if_true, Option.some.injEq] at found
    rw [← found]
    simp

theorem acquire_shiftedBridge :
    SpoolGuard.acquire shiftedBridge readerHost "u" "rw" 0 = (.ok misledGuard, misledEnd) := by
  have obtained : (SpoolGuard.acquire shiftedBridge readerHost "u" "rw" 0).1 = .ok misledGuard := by
    decide +kernel
  unfold misledEnd
  rw [← obtained, Prod.eta]

theorem record_locked_of_acquire_shiftedBridge :
    readerHost.IsReady shiftedBridge.process ∧
      ∃ mailbox target,
        misledEnd.descriptor? shiftedBridge.process misledGuard.descriptor = some mailbox ∧
        misledEnd.descriptor? shiftedBridge.process
          (misledGuard.descriptor - shiftedBridge.settings.descriptorOffset.toInt) = some target ∧
        { file := target.file, owner := shiftedBridge.process, mode := misledGuard.mode } ∈
          misledEnd.locks.held := by
  rcases record_locked_of_acquire isReady_readerHost acquire_shiftedBridge with
    ⟨_, _, _, mailbox, target, isMailbox, _, isTarget, _, locked, _⟩
  exact ⟨isReady_readerHost, mailbox, target, isMailbox, isTarget, locked⟩

/-- With `Valid` settings, the process of a guard can hold a lock on another file than the mailbox,
and none on the mailbox. -/
theorem other_file_locked :
    shiftedBridge.settings.Valid ∧
      SpoolGuard.acquire shiftedBridge readerHost "u" "rw" 0 = (.ok misledGuard, misledEnd) ∧
      (misledEnd.stat misledGuard.path).toOption.map Prod.fst = some ⟨1⟩ ∧
      misledEnd.locks.held = [{ file := ⟨2⟩, owner := 1, mode := .write }] := by
  refine ⟨?_, acquire_shiftedBridge, ?_, ?_⟩
  · decide +kernel
  · decide +kernel
  · decide +kernel

/-! ## Where the lock file lies -/

/-- The mailbox that a guard has open, and has locked if there is no offset, is always the one of
`Bridge.spoolPath`. Its lock file has that path with `lockSuffix`, or the path that `$MAIL` tells if
that is honored and names a mailbox of the user. -/
theorem lock_next_to_mailbox (ready : host.IsReady bridge.process)
    (same : bridge.locker.settings = bridge.settings.mail)
    (acquired : SpoolGuard.acquire bridge host user tag retries = (.ok guard, after)) :
    guard.path = bridge.spoolPath user ∧
      (∃ mailbox found, after.descriptor? bridge.process guard.descriptor = some mailbox ∧
        after.stat guard.path = .ok (mailbox.file, found) ∧
        (bridge.settings.descriptorOffset = 0 →
          { file := mailbox.file, owner := bridge.process, mode := guard.mode } ∈
            after.locks.held)) ∧
      guard.bridge.locker.held.map HeldLock.path =
        some (((host.valueOf bridge.process "MAIL").filter fun mailbox =>
          bridge.settings.mail.honorMail && Path.fileName mailbox == some user).getD guard.path ++
            lockSuffix) := by
  rcases exists_of_acquire acquired with ⟨_, _, _, _, _, isPath, _, _, _, _, _⟩
  rcases exists_held_of_acquire ready acquired with ⟨lock, found, held, _⟩
  rcases exists_mailbox_of_acquire ready acquired with
    ⟨mailbox, target, isMailbox, ⟨details, looked⟩, isTarget, locked, _⟩
  refine ⟨isPath, ⟨mailbox, details, isMailbox, looked, ?_⟩, ?_⟩
  · intro zero
    rw [← target_eq_mailbox zero isMailbox isTarget]
    exact locked
  · unfold Locker.lockPath at found
    rw [same] at found
    rw [held, isPath, Option.map_some, eq_of_lockPath found]
    rfl

/-- A caller that numbers its descriptors as the system does. -/
def plainBridge : Bridge :=
  .ofSettings 1 { mail := { spoolDirectory := "/", honorMail := false } }

def plainGuard : SpoolGuard where
  bridge := { plainBridge with
    locker := { plainBridge.locker with
      held := some { user := "u", path := "/u.lock" }
      counts := { acquisitions := 1 } } }
  path := "/u"
  mode := .write
  descriptor := 4
  refresher := some { process := 1, path := "/u.lock" }

theorem acquire_plainBridge :
    SpoolGuard.acquire plainBridge readerHost "u" "rw" 0 =
      (.ok plainGuard, (SpoolGuard.acquire plainBridge readerHost "u" "rw" 0).2) := by
  have obtained : (SpoolGuard.acquire plainBridge readerHost "u" "rw" 0).1 = .ok plainGuard := by
    decide +kernel
  rw [← obtained, Prod.eta]

theorem lock_next_to_mailbox_plainBridge :
    readerHost.IsReady plainBridge.process ∧
      plainBridge.locker.settings = plainBridge.settings.mail ∧
      plainGuard.path = plainBridge.spoolPath "u" ∧
      plainGuard.bridge.locker.held.map HeldLock.path =
        some (((readerHost.valueOf plainBridge.process "MAIL").filter fun mailbox =>
          plainBridge.settings.mail.honorMail && Path.fileName mailbox == some "u").getD
            plainGuard.path ++ lockSuffix) := by
  rcases lock_next_to_mailbox isReady_readerHost rfl acquire_plainBridge with ⟨isPath, _, next⟩
  exact ⟨isReady_readerHost, rfl, isPath, next⟩

/-- A user whose mail is said to lie in another directory than the spool. -/
def mailElsewhere : Host :=
  { Host.boot 0 fun number => number with
    files :=
      (((empty 0).make root "u" (.regular .empty) 0).2.make root "m" (.directory [] root) 0).2
    process := fun id =>
      if id = 1 then some { parent := 0, environment := [("MAIL", "/m/u")] } else none }

/-- The mailbox that a guard locks need not be the one next to which its lock file lies. -/
theorem lock_not_next_to_mailbox :
    ({ mail := { spoolDirectory := "/" } } : Settings).Valid ∧
      ((SpoolGuard.acquire (.ofSettings 1 { mail := { spoolDirectory := "/" } }) mailElsewhere
          "u" "rw" 0).1.toOption.map fun guard =>
        (guard.path, guard.bridge.locker.held.map HeldLock.path)) =
        some ("/u", some "/m/u.lock") := by
  refine ⟨?_, ?_⟩
  · decide +kernel
  · decide +kernel

end SpoolGuard

end MailSpool

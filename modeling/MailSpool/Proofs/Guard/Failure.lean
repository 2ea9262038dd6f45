import MailSpool.Proofs.Guard.Acquire

/-!
# What is given back on failure

A guard that is not obtained leaves no lock file and no temporary file behind: every entry names a
file that was there before, unless the removal of a symbolic link has cut off the way to a new one.
Old files suffer only where names are removed on the way to the lock, or by others.

The record locks of the process are another matter, as `not_all_given_back` shows. A file that the
process closes costs it its lock on that file, whichever descriptor it was taken through. It closes
the mailbox when the record lock on it was refused, and the file of the lock after reading its
owner.
-/

namespace MailSpool

open FileSystem

namespace SpoolGuard

variable {bridge freed : Bridge} {host after : Host} {user tag lock : String} {retries : UInt32}
  {failure : Failure}

/-- What giving back the lock that was just taken makes of the files. -/
structure Restores (bridge : Bridge) (host : Host) (lock : String) (files : FileSystem) : Prop where
  entries : bridge.locker.SparesLinks host lock → ∀ directory name id,
    files.child? directory name = some id → (host.files.file id).isSome
  harms : ∀ file, host.files.Harms files file → bridge.locker.Endangers host lock file

theorem restores_of_failed {status : MailLockStatus} {next : Locker}
    (leaves : bridge.locker.Leaves host user lock status next after)
    (failed : status ≠ .success) : Restores bridge host lock after.files where
  entries spares directory name id named := by
    rcases leaves.confines spares directory name id named with known | ⟨_, ⟨success, _⟩, _⟩
    · exact known
    · exact absurd success failed
  harms := leaves.harms

theorem restores_release {next : Locker} {locked rest : Host}
    (leaves : bridge.locker.Leaves host user lock .success next locked)
    (files : rest.files = locked.files) :
    Restores bridge host lock (next.release rest).2.files := by
  have held : next.held = some { user := user, path := lock } := leaves.held
  have released : (next.release rest).2.files = rest.remaining lock := by
    rw [Locker.files_release, held]
    rfl
  have inherits : host.files.Inherits rest.files := files ▸ leaves.inherits
  rw [released]
  refine ⟨?_, ?_⟩
  · intro spares directory name id named
    rcases leaves.named rfl with ⟨file, _, isNamed⟩
    have writable := (Host.named?_eq_some_iff_names.mp isNamed).1
    have confines : Confines host.files (rest.remaining lock) fun _ => False :=
      inherits.confines_remaining writable
        (fun removed => inherits.widens_of_unlink removed (spares lock (Or.inl rfl)))
        (files ▸ leaves.confines spares) (fun other isLock different => different isLock.2)
    rcases confines directory name id named with known | ⟨_, nowhere, _⟩
    · exact known
    · exact False.elim nowhere
  · intro file harms
    rcases inherits.harms_split harms with before | byRelease
    · exact leaves.harms file (files ▸ before)
    · have names := Host.names_of_harms_remaining byRelease
      exact Or.inl ⟨lock, Or.inl rfl, inherits.names harms.known names⟩

theorem files_of_openLocked {path : String} {mode : LockMode}
    (refused : openLocked bridge host path mode = (.error failure, after)) :
    after.files = host.files := by
  rcases eq_or_close_of_openLocked refused with rfl | ⟨number, opened, between, opens, _, rfl⟩
  · rfl
  · exact (between.files_close bridge.process number).trans opens.files

/-- A record lock of the process goes with the reading of an owner, or with the closing of a mailbox
that could not be locked. -/
theorem held_of_openLocked {next : Locker} {locked rest : Host} {status : MailLockStatus}
    (ready : host.IsReady bridge.process) (zero : bridge.settings.descriptorOffset = 0)
    (leaves : bridge.locker.Leaves host user lock status next locked)
    (refused : openLocked { bridge with locker := next } locked (bridge.spoolPath user)
      (.ofTag tag) = (.error failure, rest))
    (alive : rest.isAlive bridge.process = true) {record : RecordLock}
    (member : record ∈ host.locks.held) (isOwner : record.owner = bridge.process) :
    record ∈ rest.locks.held ∨ bridge.locker.Spends host lock record ∨
      (∃ descriptor, failure = .wouldBlock descriptor) ∧
        ∃ found, host.stat (bridge.spoolPath user) = .ok (record.file, found) := by
  have process : ({ bridge with locker := next } : Bridge).process = bridge.process :=
    leaves.process
  rcases eq_or_close_of_openLocked refused with rfl | ⟨number, opened, between, opens, tried, rfl⟩
  · exact (leaves.held_or_spent ready.idle alive member isOwner).imp_right Or.inl
  have isRefusal := eq_wouldBlock_of_tryLock opens zero
    (opens.toInt_number (process ▸ ready) leaves.wears) tried
  rw [process] at opens alive ⊢
  rw [Host.isAlive_close, opens.isAlive] at alive
  rcases leaves.held_or_spent ready.idle alive member isOwner with kept | spent
  · by_cases closed : opened.file = record.file
    · right
      right
      rcases opens.stat with ⟨details, looked⟩
      rw [closed] at looked
      rcases Host.stat_eq_ok_iff.mp looked with ⟨writable, isFound⟩
      rcases leaves.inherits.find (ready.known record member isOwner) isFound with ⟨old, wasFound⟩
      exact ⟨⟨_, isRefusal⟩, old, Host.stat_eq_ok_iff.mpr ⟨writable, wasFound⟩⟩
    · left
      rw [← opens.locks] at kept
      refine (between.alters_close bridge.process number).kept kept ?_ ?_
      · rintro ⟨_, isFile⟩
        rw [opens.descriptor?_self] at isFile
        exact closed (Option.some.inj isFile)
      · rw [isOwner, opens.locks]
        exact leaves.wears.locks.isWaiting ready.idle
  · exact Or.inr (Or.inl spent)

/-- Whoever is refused a guard holds no lock file. If the locker `SparesLinks`, no new file is left
behind, and an old one has suffered only if the locker `Endangers` it: it was named by a path that
was to be removed, or is to be touched by others. The process has the record locks that it had, but
for one on the file of the lock if `checkOwner` is on, and one on the mailbox if the failure is
`wouldBlock`. -/
theorem given_back_of_acquire (ready : host.IsReady bridge.process)
    (zero : bridge.settings.descriptorOffset = 0)
    (found : bridge.locker.lockPath host user = .ok lock)
    (refused : SpoolGuard.acquire bridge host user tag retries = (.error (failure, freed), after)) :
    freed.locker.held = none ∧
      (bridge.locker.SparesLinks host lock → ∀ directory name id,
        after.files.child? directory name = some id → (host.files.file id).isSome) ∧
      (∀ file, host.files.Harms after.files file → bridge.locker.Endangers host lock file) ∧
      (after.isAlive bridge.process = true → ∀ record ∈ host.locks.held,
        record.owner = bridge.process → record ∈ after.locks.held ∨
          (bridge.locker.settings.checkOwner = true ∧
            ∃ found, host.stat lock = .ok (record.file, found)) ∨
          (∃ descriptor, failure = .wouldBlock descriptor) ∧
            ∃ found, host.stat (bridge.spoolPath user) = .ok (record.file, found)) := by
  have spends : ∀ record ∈ host.locks.held, record.owner = bridge.process →
      bridge.locker.Spends host lock record → bridge.locker.settings.checkOwner = true ∧
        ∃ found, host.stat lock = .ok (record.file, found) := by
    intro record member isOwner spent
    exact ⟨spent.2.1, spent.2.2 (ready.known record member isOwner)⟩
  rcases cases_of_acquire_error refused with
    ⟨status, next, failed, taken, rfl⟩ | ⟨next, locked, rest, notice, taken, opening, rfl, rfl⟩
  · have leaves := Locker.leaves_of_acquire ready.sound found taken
    have restores := restores_of_failed leaves failed
    refine ⟨?_, restores.entries, restores.harms, ?_⟩
    · have held := leaves.held
      rw [if_neg failed] at held
      exact held
    · intro alive record member isOwner
      rcases leaves.held_or_spent ready.idle alive member isOwner with kept | spent
      · exact Or.inl kept
      · exact Or.inr (Or.inl (spends record member isOwner spent))
  · have leaves := Locker.leaves_of_acquire ready.sound found taken
    have world := next.sameWorld_release (rest.tell bridge.process notice)
    have files : (rest.tell bridge.process notice).files = locked.files :=
      (rest.files_tell bridge.process notice).trans (files_of_openLocked opening)
    have restores := restores_release leaves files
    refine ⟨?_, restores.entries, restores.harms, ?_⟩
    · rw [Locker.locker_release]
    · intro alive record member isOwner
      have stillAlive : rest.isAlive bridge.process = true := by
        unfold Host.isAlive at alive ⊢
        rw [world.process] at alive
        exact alive
      rw [world.locks]
      rcases held_of_openLocked ready zero leaves opening stillAlive member isOwner with
        kept | spent | closed
      · exact Or.inl kept
      · exact Or.inr (Or.inl (spends record member isOwner spent))
      · exact Or.inr (Or.inr closed)

/-! ## What is not given back -/

/-- A bridge whose spool is a directory. -/
def bridgeIn (directory : String) : Bridge :=
  .ofSettings 1 { mail := { spoolDirectory := directory, honorMail := false } }

/-- A bridge after a lock was taken and given back. -/
def freedBridge : Bridge :=
  { bridgeIn "/" with
    locker := { (bridgeIn "/").locker with counts := { acquisitions := 1 } } }

def readLock (file : FileId) (owner : ProcessId) : RecordLock where
  file := file
  owner := owner
  mode := .read

/-- A process that has the file of a name in the root directory open and holds the first of some
locks. -/
def holderHost (name : String) (content : ByteArray) (locks : List RecordLock) : Host :=
  { Host.boot 0 fun number => number with
    files := ((empty 0).make root name (.regular content) 0).2
    process := fun id =>
      if id = 1 then
        some
          { parent := 0
            descriptors := [(3, { file := ⟨1⟩, readable := true, writable := true })] }
      else none
    locks := { held := locks } }

/-- Two processes read the mailbox, one of which wants to write it. -/
def sharedMailbox : Host :=
  holderHost "u" .empty [readLock ⟨1⟩ 1, readLock ⟨1⟩ 2]

theorem isReady_sharedMailbox : sharedMailbox.IsReady 1 where
  sound := by
    have made : ((empty 0).make root "u" (.regular .empty) 0).2.Sound := by
      apply (sound_empty 0).make
      · decide +kernel
      · decide +kernel
    exact made
  known record member _ := by
    simp only [sharedMailbox, holderHost, List.mem_cons, List.not_mem_nil, or_false] at member
    rcases member with rfl | rfl
    · decide +kernel
    · decide +kernel
  idle := by decide +kernel
  few state found := by
    simp only [sharedMailbox, holderHost, if_true, Option.some.injEq] at found
    rw [← found]
    simp

theorem acquire_sharedMailbox :
    SpoolGuard.acquire (bridgeIn "/") sharedMailbox "u" "rw" 0 =
      (.error (.wouldBlock 4, freedBridge),
        (SpoolGuard.acquire (bridgeIn "/") sharedMailbox "u" "rw" 0).2) := by
  have refused : (SpoolGuard.acquire (bridgeIn "/") sharedMailbox "u" "rw" 0).1 =
      .error (.wouldBlock 4, freedBridge) := by decide +kernel
  rw [← refused, Prod.eta]

theorem given_back_of_acquire_sharedMailbox :
    sharedMailbox.IsReady (bridgeIn "/").process ∧
      (bridgeIn "/").settings.descriptorOffset = 0 ∧
      (bridgeIn "/").locker.lockPath sharedMailbox "u" = .ok "/u.lock" ∧
      freedBridge.locker.held = none := by
  have found : (bridgeIn "/").locker.lockPath sharedMailbox "u" = .ok "/u.lock" := by decide +kernel
  exact ⟨isReady_sharedMailbox, rfl, found,
    (given_back_of_acquire isReady_sharedMailbox rfl found acquire_sharedMailbox).1⟩

/-- A process reads a lock file of its own. -/
def readLockFile : Host :=
  holderHost "u.lock" (ownerRecord 1) [readLock ⟨1⟩ 1]

/-- A bridge that still holds the lock of the user `x`. -/
def holdingBridge : Bridge :=
  { bridgeIn "/" with
    locker := { (bridgeIn "/").locker with held := some { user := "x", path := "/x.lock" } } }

/-- The lock of a user, which is the mailbox of another one as well. -/
def lockedMailbox : Host :=
  holderHost "x.lock" (ownerRecord 1) []

/-- A spool that is reached by an old symbolic link, which has the name of a lock. -/
def linkedSpool : Host :=
  let linked := ((empty 0).make root "u.lock" (.link "d") 0).2
  { Host.boot (seconds 1000) fun number => number with
    files := (linked.make root "d" (.directory [] root) 0).2 }

/-- Why a guard was not obtained, and what the directory at the root holds then. -/
def refusal (bridge : Bridge) (host : Host) (user tag : String) :
    Option Failure × List String × List RecordLock :=
  let (result, after) := SpoolGuard.acquire bridge host user tag 0
  (match result with
    | .ok _ => none
    | .error (failure, _) => some failure,
    ((after.files.directory? root).map fun listing => listing.1.map Prod.fst).getD [],
    after.locks.held)

/-- On failure, a process can lose a lock on the mailbox or on the file of the lock, the mailbox can
be gone, and the temporary file can be left behind. -/
theorem not_all_given_back :
    refusal (bridgeIn "/") sharedMailbox "u" "rw" =
        (some (.wouldBlock 4), ["u"], [readLock ⟨1⟩ 2]) ∧
      refusal (bridgeIn "/") readLockFile "u" "r" =
        (some (.mailLock .maxTries), ["u.lock"], []) ∧
      refusal holdingBridge lockedMailbox "x.lock" "r" =
        (some (.notFound "/x.lock"), [], []) ∧
      refusal (bridgeIn "/u.lock/..") linkedSpool "u" "r" =
        (some (.mailLock .error), ["d", ".lk0000100000000"], []) := by
  refine ⟨?_, ?_, ?_, ?_⟩
  · decide +kernel
  · decide +kernel
  · decide +kernel
  · decide +kernel

end SpoolGuard

end MailSpool

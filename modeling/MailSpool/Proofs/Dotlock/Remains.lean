import MailSpool.Proofs.Dotlock.Decisions
import MailSpool.Proofs.FileSystem.Renames

/-!
# What an acquisition leaves behind

Where nobody else acts, the taking of a lock changes two entries at most. The one of the lock that
was held before is gone, and the one of the lock that was asked for names the record of its owner if
the lock was taken, and what it named before if not. The temporary file is gone either way. `Takes`
and `Misses` say this in full. There is one way to fail of which only `GivesUp` holds: a symbolic
link that was removed as a stale lock may have been on the way to the temporary file.
-/

namespace MailSpool

open FileSystem

namespace Host

variable {host : Host} {path : String}

theorem isWritable_of_unlink {removed : Host} (unlinked : host.unlink path = .ok removed) :
    IsWritable path := by
  unfold unlink at unlinked
  rcases map_eq_ok_iff.mp unlinked with ⟨files, called, _⟩
  exact (calling_eq_ok_iff.mp called).1

theorem remaining_eq {files : FileSystem} (writable : IsWritable path)
    (removed : host.files.unlink path host.now = .ok files) : host.remaining path = files := by
  unfold remaining unlink
  rw [calling_eq_ok_iff.mpr ⟨writable, removed⟩]
  rfl

end Host

/-- A file has one name, and holds a record. -/
def FileSystem.HoldsAlone (files : FileSystem) (id : FileId) (record : ByteArray) : Prop :=
  ∃ file, files.file id = some file ∧ file.node = .regular record ∧ file.links = 1

theorem Host.holdsAlone_fill {host created ready : Host} {path : String} {own : FileId}
    {record : ByteArray} (sound : host.files.Sound) (made : host.create path = .ok (own, created))
    (written : created.fill own record = .ok ready) : ready.files.HoldsAlone own record := by
  rcases create_spec sound (create_eq_ok made).1 with ⟨_, _, _, _, isFile, _⟩
  have isReady : ready.files = created.files.setContent own record created.now := by
    rw [fill_eq_ok written]
    rfl
  rw [isReady]
  exact ⟨_, file_setContent_self isFile rfl record created.now, rfl, rfl⟩

namespace Acquisition.Attempts

variable {work : Acquisition} {start host before linked : Host} {own : FileId}
  {status : MailLockStatus} {broken : Nat} {files : FileSystem}

/-- The temporary file becomes the lock, and since the start `ChangesOnly` the entry of the lock, if
that was so at the attempt. -/
theorem exists_liesAt_of_link (attempts : Attempts start own work host)
    (narrows : Narrows host.files before.files)
    (changes : ∀ directory name,
      before.files.locate false work.lock = .ok (.entry directory name none) →
      ChangesOnly host.files before.files fun id text => (id, text) = (directory, name))
    (leads : before.files.Leads work.temporary own)
    (file : before.files.file own = host.files.file own)
    (made : before.link work.temporary work.lock = .ok linked) :
    ∃ directory name, (linked.remaining work.temporary).LiesAt work.lock directory name own ∧
      (linked.remaining work.temporary).file own = host.files.file own ∧
      ChangesOnly start.files (linked.remaining work.temporary) fun id text =>
        (id, text) = (directory, name) := by
  rcases attempts.more.beside.regular with ⟨content, regular⟩
  rcases attempts.more.beside.resets.entry with ⟨folder, text, vacant, lies, sets, _⟩
  have stillRegular : before.files.node? own = some (.regular content) := by
    rw [node?, file]
    exact regular
  have call := (Host.link_eq_ok made).1
  have stillLies : before.files.LiesAt work.temporary folder text own := by
    rcases link_spec call with ⟨_, _, _, _, looked, _⟩
    rcases find_eq_ok_iff.mp looked with ⟨place, located, _⟩
    exact LiesAt.of_leads lies narrows leads located
  rcases exists_renames stillLies stillRegular call linked.now with ⟨after, removed, renames⟩
  rw [Host.remaining_eq attempts.more.writable removed]
  rcases renames.entry with ⟨directory, name, located, isThere, renamed⟩
  refine ⟨directory, name, isThere, renames.file.trans file, ?_⟩
  have added := ChangesOnly.of_sets sets attempts.more.beside.retains
  have changed := (added.trans (changes directory name located)).trans renamed
  refine (changed.mono ?_).restore (renames.gone.trans (child?_of_locate vacant).symm)
  rintro id entry ((isTemporary | isLock) | isLock | isTemporary)
  · exact Or.inr isTemporary
  · exact Or.inl isLock
  · exact Or.inl isLock
  · exact Or.inr isTemporary

/-- When a lock is taken, the temporary file becomes the lock. -/
theorem exists_liesAt_of_success (attempts : Attempts start own work host)
    (verdict : work.Verdict host .success broken files) :
    ∃ directory name, files.LiesAt work.lock directory name own ∧
      files.file own = host.files.file own ∧
      ChangesOnly start.files files fun id text => (id, text) = (directory, name) := by
  cases verdict with
  | taken linked found made =>
      exact attempts.exists_liesAt_of_link (.refl host.files) (fun _ _ _ => .of_same rfl _)
        attempts.more.beside.names.leads rfl made
  | broken removed linked found unlinked made =>
      have removal := (Host.unlink_eq_ok unlinked).1
      rcases unlink_spec removal with ⟨folder, text, id, located, _, sets, retains, _⟩
      have narrows := sets.narrows (by simp)
      refine attempts.exists_liesAt_of_link narrows ?_ ?_ ?_ made
      · intro directory name vacant
        rcases narrows.locate vacant with ⟨place, wasLocated, spot⟩
        cases located.symm.trans wasLocated
        obtain ⟨rfl, rfl⟩ : folder = directory ∧ text = name := by simpa [Place.spot] using spot
        exact .of_sets sets retains
      · rcases attempts.exists_leads_of_unlink unlinked with ⟨_, leads, _⟩
        exact leads
      · rcases attempts.more.beside.regular with ⟨content, regular⟩
        exact file_of_unlink_of_ne removal attempts.not_names_lock (plain_of_node? regular).1

/-- When a lock is not taken, the temporary file is gone and there are the `SameContents`, unless a
stale lock was removed. -/
theorem sameContents_of_failure (attempts : Attempts start own work host)
    (verdict : work.Verdict host status broken files) (failed : status ≠ .success)
    (unbroken : status = .error → broken = 0) : SameContents start.files files := by
  cases verdict with
  | taken | broken => exact absurd rfl failed
  | closed => simp at unbroken
  | barred | obstructed | exhausted => exact attempts.more.sameContents_remaining

/-- Whatever is removed when a lock is not taken, no file is changed that was there. -/
theorem retains_of_failure (attempts : Attempts start own work host)
    (verdict : work.Verdict host status broken files) (failed : status ≠ .success) :
    Retains start.files files fun _ => False := by
  cases verdict with
  | taken | broken => exact absurd rfl failed
  | closed removed error found unlinked refused =>
      rcases unlink_spec (Host.unlink_eq_ok unlinked).1 with ⟨_, _, _, _, _, _, retains, _⟩
      exact (attempts.more.beside.retains.trans retains).trans
        (removed.retains_remaining work.temporary _)
  | barred | obstructed | exhausted => exact attempts.more.sameContents_remaining.retains

end Acquisition.Attempts

namespace Locker

/-- The lock that a locker holds, if it holds one, can be given back. -/
def CanRelease (locker : Locker) (host : Host) : Prop :=
  ∀ holding, locker.held = some holding → ∃ removed, host.unlink holding.path = .ok removed

/-- The lock that a locker holds lies in an entry. -/
def HoldsAt (locker : Locker) (host : Host) (directory : FileId) (name : String) : Prop :=
  ∃ holding id, locker.held = some holding ∧ host.files.LiesAt holding.path directory name id

variable {locker next : Locker} {host after : Host} {user lock : String} {retries : UInt32}
  {status : MailLockStatus}

theorem changesOnly_vacated (able : locker.CanRelease host) :
    ChangesOnly host.files (locker.vacated host).files (locker.HoldsAt host) ∧
      ∀ directory name, locker.HoldsAt host directory name →
        (locker.vacated host).files.child? directory name = none := by
  unfold vacated
  rw [files_release]
  rcases held : locker.held with _ | holding
  · refine ⟨.of_same rfl _, ?_⟩
    rintro directory name ⟨holding, id, isHeld, _⟩
    simp [held] at isHeld
  · rcases able holding held with ⟨removed, unlinked⟩
    have removal := (Host.unlink_eq_ok unlinked).1
    have same : (host.draw UInt32.size).2.remaining holding.path = removed.files :=
      Host.remaining_eq (Host.isWritable_of_unlink unlinked) removal
    rw [Option.map_some, Option.getD_some, same]
    rcases unlink_spec removal with ⟨folder, text, id, located, _, sets, retains, _⟩
    constructor
    · refine (ChangesOnly.of_sets sets retains).mono ?_
      rintro directory name ⟨⟩
      exact ⟨holding, id, held, located⟩
    · rintro directory name ⟨other, file, isHeld, lies⟩
      cases held.symm.trans isHeld
      cases lies.symm.trans located
      exact sets.entry_self

/-- A locker that has not taken a lock holds none, and has given back the one that it held. -/
structure Misses (locker : Locker) (host : Host) (lock : String) (next : Locker) (after : Host) :
    Prop where
  held : next.held = none
  gone : ∀ directory name, locker.HoldsAt host directory name →
    after.files.child? directory name = none
  changes : ChangesOnly host.files after.files (locker.HoldsAt host)
  /-- What was at the path of the lock is still the same entry. -/
  lock : ∀ directory name id, host.files.LiesAt lock directory name id →
    ¬locker.HoldsAt host directory name → after.files.child? directory name = some id

/-- A locker that has not taken a lock holds none, and what its old lock named is there no more.
No file that was there has changed. -/
structure GivesUp (locker : Locker) (host : Host) (next : Locker) (after : Host) : Prop where
  held : next.held = none
  /-- Where the old lock was, there is nothing or a new file. -/
  gone : ∀ directory name id, locker.HoldsAt host directory name →
    after.files.child? directory name = some id → host.files.file id = none
  retains : Retains host.files after.files fun _ => False

/-- A locker that has taken a lock holds it, and has given back the one that it held before. -/
structure Takes (locker : Locker) (host : Host) (user lock : String) (next : Locker)
    (after : Host) : Prop where
  held : next.held = some { user := user, path := lock }
  entry : ∃ directory name own, after.files.LiesAt lock directory name own ∧
    after.files.HoldsAlone own (ownerRecord locker.recordedOwner) ∧
    (∀ folder text, locker.HoldsAt host folder text → (folder, text) ≠ (directory, name) →
      after.files.child? folder text = none) ∧
    ChangesOnly host.files after.files fun folder text =>
      locker.HoldsAt host folder text ∨ (folder, text) = (directory, name)

/-- What the taking of a lock leaves behind. An error after a stale lock was removed need not be as
`Misses` says, but every failure is as `GivesUp` says. -/
structure LeavesBehind (locker : Locker) (host : Host) (user : String) (status : MailLockStatus)
    (next : Locker) (after : Host) : Prop where
  rejected : ∀ refusal, locker.lockPath host user = .error refusal →
    status = refusal ∧ next.held = locker.held ∧ after.files = host.files
  missed : ∀ lock, locker.lockPath host user = .ok lock → status ≠ .success →
    (status = .error → next.counts.staleRemoved = locker.counts.staleRemoved) →
      locker.Misses host lock next after
  givenUp : ∀ lock, locker.lockPath host user = .ok lock → status ≠ .success →
    locker.GivesUp host next after
  taken : ∀ lock, locker.lockPath host user = .ok lock → status = .success →
    locker.Takes host user lock next after

theorem misses_of_sameContents (able : locker.CanRelease host) (held : next.held = none)
    (same : SameContents (locker.vacated host).files after.files) :
    locker.Misses host lock next after := by
  rcases changesOnly_vacated able with ⟨changes, gone⟩
  have stays : ChangesOnly host.files after.files (locker.HoldsAt host) := by
    have none : ChangesOnly (locker.vacated host).files after.files fun _ _ => False :=
      ⟨same.toSameKinds, fun directory name _ => same.entry directory name, same.retains⟩
    exact (changes.trans none).mono (by simp)
  refine ⟨held, ?_, stays, ?_⟩
  · intro directory name holds
    rw [same.entry]
    exact gone directory name holds
  · intro directory name id lies free
    rw [stays.entry directory name free]
    exact lies.child?

theorem held_settled (user lock : String) (broken : Nat) (failed : status ≠ .success) :
    (locker.settled user lock status broken).held = locker.held := by
  cases status with
  | success => exact absurd rfl failed
  | nameLength | temporaryLock | temporaryWrite | maxTries | error => rfl

theorem misses_of_concludes (sound : host.files.Sound) (still : host.IsStill)
    (able : locker.CanRelease host) (isLock : locker.lockPath host user = .ok lock)
    (concludes : locker.Concludes host user lock retries status next after)
    (failed : status ≠ .success)
    (unbroken : status = .error → next.counts.staleRemoved = locker.counts.staleRemoved) :
    locker.Misses host lock next after := by
  cases concludes with
  | unmade error after refused files =>
      apply misses_of_sameContents able
      · exact held_settled _ _ _ failed
      · rw [files]
        exact .refl _
  | unwritten own created after error made unfilled files =>
      apply misses_of_sameContents able
      · exact held_settled _ _ _ failed
      · have more : OneMore (locker.vacated host) created (locker.temporaryFor host lock) own :=
          ⟨beside_create (locker.sound_vacated sound) (Host.create_eq_ok made).1,
            Host.isWritable_of_create made⟩
        rw [files]
        exact more.sameContents_remaining
  | decided own created ready last after tries broken status made written within fresh alike
      verdict now =>
      apply misses_of_sameContents able
      · exact held_settled _ _ _ failed
      · have attempts := (attempts_of_written retries sound isLock made written).tried
          (files_of_rested still made written alike) tries
        refine attempts.sameContents_of_failure verdict failed fun isError => ?_
        have same := unbroken isError
        rw [staleRemoved_settled] at same
        exact Nat.left_eq_add.mp same.symm

theorem retains_of_concludes (sound : host.files.Sound) (still : host.IsStill)
    (able : locker.CanRelease host) (isLock : locker.lockPath host user = .ok lock)
    (concludes : locker.Concludes host user lock retries status next after)
    (failed : status ≠ .success) : Retains host.files after.files fun _ => False := by
  refine (changesOnly_vacated able).1.retains.trans ?_
  cases concludes with
  | unmade error after refused files =>
      rw [files]
      exact .refl _ _
  | unwritten own created after error made unfilled files =>
      have beside := beside_create (locker.sound_vacated sound) (Host.create_eq_ok made).1
      rw [files]
      exact beside.retains.trans (created.retains_remaining _ _)
  | decided own created ready last after tries broken status made written within fresh alike
      verdict now =>
      have attempts := (attempts_of_written retries sound isLock made written).tried
        (files_of_rested still made written alike) tries
      exact attempts.retains_of_failure verdict failed

theorem files_vacated (locker : Locker) (host : Host) :
    (locker.vacated host).files = (locker.release host).2.files := by
  unfold vacated
  rw [files_release, files_release]
  cases locker.held with
  | none => rfl
  | some holding =>
      apply Host.remaining_congr
      · rfl
      · rfl

theorem givesUp_of_acquire (sound : host.files.Sound) (still : host.IsStill)
    (able : locker.CanRelease host) (isLock : locker.lockPath host user = .ok lock)
    (acquired : locker.acquire host user retries = (status, next, after))
    (failed : status ≠ .success) : locker.GivesUp host next after where
  held := by
    cases concludes_of_acquire sound still isLock acquired with
    | unmade | unwritten | decided => exact held_settled _ _ _ failed
  gone directory name id holds named := by
    rcases locker.inherits_release host with ⟨_, recalls⟩
    rcases inherits_acquire sound isLock acquired with ⟨inherits, _⟩
    have vacant := (changesOnly_vacated able).2 directory name holds
    rw [files_vacated] at vacant
    by_contra known
    have stillThere := inherits.old directory name id named
      (recalls id (Option.isSome_iff_ne_none.mpr known))
    simp [vacant] at stillThere
  retains := retains_of_concludes sound still able isLock
    (concludes_of_acquire sound still isLock acquired) failed

theorem takes_of_concludes (sound : host.files.Sound) (still : host.IsStill)
    (able : locker.CanRelease host) (isLock : locker.lockPath host user = .ok lock)
    (concludes : locker.Concludes host user lock retries .success next after) :
    locker.Takes host user lock next after := by
  cases concludes with
  | decided own created ready last after tries broken _ made written within fresh alike verdict
      now =>
      have files := files_of_rested still made written alike
      have attempts := (attempts_of_written retries sound isLock made written).tried
        files tries
      rcases attempts.exists_liesAt_of_success verdict with ⟨directory, name, lies, file, changes⟩
      rcases changesOnly_vacated able with ⟨released, gone⟩
      have alone : after.files.HoldsAlone own (ownerRecord locker.recordedOwner) := by
        rcases Host.holdsAlone_fill (locker.sound_vacated sound) made written with
          ⟨found, isFile, record⟩
        exact ⟨found, by rw [file, files, isFile], record⟩
      refine ⟨?_, directory, name, own, ?_, alone, ?_, released.trans changes⟩
      · rfl
      · rw [Acquisition.lock_tried, lock_beginning] at lies
        exact lies
      · intro folder text holds apart
        rw [changes.entry folder text apart]
        exact gone folder text holds

/-- On a still host the taking of a lock changes nothing but the entries of the two locks, up to the
one exception that `LeavesBehind` makes, where the locker still `GivesUp`. -/
theorem leavesBehind_of_acquire (sound : host.files.Sound) (still : host.IsStill)
    (able : locker.CanRelease host)
    (acquired : locker.acquire host user retries = (status, next, after)) :
    locker.LeavesBehind host user status next after where
  rejected refusal rejected := by
    rw [acquire_of_rejected rejected, reject] at acquired
    cases acquired
    exact ⟨rfl, rfl, rfl⟩
  missed lock isLock failed unbroken :=
    misses_of_concludes sound still able isLock (concludes_of_acquire sound still isLock acquired)
      failed unbroken
  givenUp _ isLock failed := givesUp_of_acquire sound still able isLock acquired failed
  taken lock isLock success := by
    rw [success] at acquired
    exact takes_of_concludes sound still able isLock
      (concludes_of_acquire sound still isLock acquired)

/-! ## A lock that is taken for another one -/

/-- A spool with the lock of one user. -/
def exchangeHost : Host :=
  { Host.boot 0 fun number => number with
    files := ((FileSystem.empty 0).make root "v.lock" (.regular (ownerRecord 1)) 0).2 }

/-- A locker that holds the lock. -/
def exchangeLocker : Locker where
  process := 1
  settings := { spoolDirectory := "/", honorMail := false }
  held := some { user := "v", path := "/v.lock" }

def exchangeEnd : Acquisition × Host :=
  Acquisition.round^[7] (Acquisition.begin exchangeLocker exchangeHost "u" "/u.lock" 0)

theorem sound_exchangeHost : exchangeHost.files.Sound := by
  have made : ((FileSystem.empty 0).make root "v.lock" (.regular (ownerRecord 1)) 0).2.Sound := by
    apply (sound_empty 0).make
    · decide +kernel
    · decide +kernel
  exact made

theorem canRelease_exchangeLocker : exchangeLocker.CanRelease exchangeHost := by
  rintro _ ⟨⟩
  have removable : (exchangeHost.unlink "/v.lock").toOption.isSome := by decide +kernel
  cases unlinked : exchangeHost.unlink "/v.lock" with
  | ok removed => exact ⟨removed, rfl⟩
  | error failure => simp [unlinked, Except.toOption] at removable

theorem lockPath_exchangeHost : exchangeLocker.lockPath exchangeHost "u" = .ok "/u.lock" := by
  decide +kernel

theorem acquire_exchangeHost :
    exchangeLocker.acquire exchangeHost "u" 0 =
      (.success, exchangeEnd.1.locker, exchangeEnd.2) := by
  unfold exchangeEnd
  apply Acquisition.acquire_eq_of_iterate "/u.lock" 7 lockPath_exchangeHost
  · decide +kernel
  · decide +kernel

theorem leavesBehind_of_acquire_exchangeHost :
    exchangeHost.files.Sound ∧ exchangeHost.IsStill ∧ exchangeLocker.CanRelease exchangeHost ∧
      exchangeLocker.HoldsAt exchangeHost root "v.lock" ∧
      exchangeLocker.Takes exchangeHost "u" "/u.lock" exchangeEnd.1.locker exchangeEnd.2 := by
  have still : exchangeHost.IsStill := Host.isStill_of_agenda_eq_nil rfl
  have lies : exchangeHost.files.locate false "/v.lock" =
      .ok (.entry root "v.lock" (some ⟨1⟩)) := by decide +kernel
  have leaves := leavesBehind_of_acquire sound_exchangeHost still canRelease_exchangeLocker
    acquire_exchangeHost
  exact ⟨sound_exchangeHost, still, canRelease_exchangeLocker, ⟨_, ⟨1⟩, rfl, lies⟩,
    leaves.taken "/u.lock" lockPath_exchangeHost rfl⟩

/-- A stale lock that was the way to the temporary file is gone after `acquire`, and the temporary
file is not. -/
theorem temporary_remains :
    detourLocker.held = none ∧
      detourLocker.acquire detourHost "u" 0 = (.error, detourEnd.1.locker, detourEnd.2) ∧
      detourHost.files.child? root "u.lock" = some ⟨1⟩ ∧
      detourEnd.2.files.child? root "u.lock" = none ∧
      detourHost.files.child? root (temporaryName 1 0) = none ∧
      detourEnd.2.files.child? root (temporaryName 1 0) = some ⟨2⟩ := by
  refine ⟨rfl, acquire_detourHost, ?_, ?_, ?_, ?_⟩
  · decide +kernel
  · decide +kernel
  · decide +kernel
  · decide +kernel

end Locker

end MailSpool

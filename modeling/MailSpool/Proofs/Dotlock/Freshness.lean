import MailSpool.Proofs.Dotlock.Rounds
import MailSpool.Proofs.Host.Quiet

/-!
# How old a new lock is

The file that becomes the lock is written once, before the first attempt to link it, and linking
does not change its times. So a lock is as old as the taking of it has lasted, and a locker that
had to rest for longer than a lock may go without a touch has a lock that is stale already.

The invariant `Timed` of the rounds of an acquisition follows the file from its making to the lock,
and `isOutdated_of_acquire` tells from it when a new lock is stale.
-/

namespace MailSpool

open FileSystem

namespace Acquisition

variable {work : Acquisition} {host : Host} {own : Option FileId} {start : Instant}

theorem retains_step (work : Acquisition) (host : Host) (written : work.stage.HasRecord) :
    Retains host.files (work.step host).2.files fun _ => False := by
  have effect := effect_step work host
  generalize work.step host = result at effect ⊢
  cases effect with
  | links stage next held linked =>
      rcases link_spec (Host.link_eq_ok linked).1 with ⟨_, _, _, _, _, _, _, retains, _⟩
      exact retains
  | breaks stale removed stage next held unlinked files =>
      rw [files, ← Host.remaining_of_unlink unlinked]
      exact host.retains_remaining work.lock _
  | clears status stage next held files =>
      rw [files]
      exact host.retains_remaining work.temporary _
  | refuses refused written unseen other linked =>
      rw [refused.files]
      exact .refl _ _
  | misses _ stage next held files | compares _ _ _ stage next held files
  | confirms _ _ _ stage next held files =>
      rw [files]
      exact .refl _ _
  | rests status stage same =>
      rw [same]
      exact .refl _ _
  | releases stage | creates _ stage | stops stage | fills _ stage | spoils _ stage
  | discards stage =>
      simp [stage, AcquisitionStage.HasRecord, AcquisitionStage.UsesTemporary] at written

/-- An acquisition that has begun at a time: until its file is written no time passes, and then the
file keeps that time. -/
structure Timed (work : Acquisition) (host : Host) (own : Option FileId) (start : Instant) :
    Prop where
  sound : host.files.Sound
  quiet : host.IsQuiet
  orderly : work.Orderly host.files own
  early : ¬work.stage.HasRecord → host.now = start
  written : work.stage.HasRecord → ∀ file found, own = some file →
    host.files.file file = some found → found.modified = start
  confirmed : work.stage = .clearing .success →
    ∃ file, own = some file ∧ host.named? work.lock = some file

theorem modified_of_retains {before after : FileSystem} {file : FileId} {found : File}
    {content : ByteArray} (retains : Retains before after fun _ => False)
    (regular : before.node? file = some (.regular content))
    (isFound : after.file file = some found) :
    ∃ old, before.file file = some old ∧ found.modified = old.modified := by
  rcases Option.map_eq_some_iff.mp regular with ⟨old, isOld, _⟩
  have traits := retains.traits file (by simp [isOld]) (plain_of_node? regular).1 (by simp)
  rw [isOld, isFound] at traits
  simp only [Option.map_some, Option.some.injEq, File.traits, Prod.mk.injEq] at traits
  exact ⟨old, isOld, traits.2.1⟩

theorem Timed.modified_of_retains (timed : work.Timed host own start)
    (written : work.stage.HasRecord) {after : FileSystem}
    (retains : Retains host.files after fun _ => False) {file : FileId} {found : File}
    (isOwn : own = some file) (isFound : after.file file = some found) :
    found.modified = start := by
  rcases timed.orderly.file written.usesTemporary with ⟨other, content, isOther, _, regular, _⟩
  cases isOwn.symm.trans isOther
  rcases Acquisition.modified_of_retains retains regular isFound with ⟨old, isOld, same⟩
  rw [same]
  exact timed.written written file old isOwn isOld

theorem Timed.elapse (timed : work.Timed host own start) {wake : Instant}
    (stage : work.stage = .resting wake) (time : Instant) :
    work.Timed (host.elapseUntil time) own start := by
  have passes := host.passes_elapseUntil time timed.quiet
  have written : work.stage.HasRecord := by
    simp [stage, AcquisitionStage.HasRecord, AcquisitionStage.UsesTemporary]
  refine ⟨passes.spares.sound timed.sound, passes.quiet timed.quiet, ?_, ?_, ?_, ?_⟩
  · exact timed.orderly.spared passes.spares fun _ _ excepted => excepted
  · exact fun unwritten => absurd written unwritten
  · intro _ file found isOwn isFound
    exact timed.modified_of_retains written passes.retains isOwn isFound
  · intro cleared
    simp [stage] at cleared

/-- No time passes in a step before the stage `HasRecord`. -/
theorem Timed.early_step (timed : work.Timed host own start)
    (going : ∀ status, (work.step host).1.stage ≠ .finished status)
    (unwritten : ¬(work.step host).1.stage.HasRecord) : (work.step host).2.now = start := by
  rw [(work.sameClock_step host).now]
  apply timed.early
  have effect := effect_step work host
  generalize work.step host = result at effect going unwritten
  cases effect with
  | releases stage | creates _ stage | spoils _ stage =>
      simp [stage, AcquisitionStage.HasRecord, AcquisitionStage.UsesTemporary]
  | refuses refused written unseen other linked => exact absurd refused.refused.hasRecord unwritten
  | rests status stage same =>
      rw [same] at going
      exact absurd stage (going status)
  | stops stage next | discards stage next | clears _ stage next => exact absurd next (going _)
  | fills _ stage next | links stage next | misses _ stage next | compares _ _ _ stage next
  | confirms _ _ _ stage next | breaks _ _ stage next =>
      exact absurd (by simp [next, AcquisitionStage.HasRecord, AcquisitionStage.UsesTemporary])
        unwritten

/-- From the writing of its record on, a `Timed` acquisition has a file with the time of its
beginning. -/
theorem Timed.written_step (timed : work.Timed host own start)
    (nowWritten : (work.step host).1.stage.HasRecord) {file : FileId} {found : File}
    (isOwn : (work.step host).1.stage.made?.or own = some file)
    (isFound : (work.step host).2.files.file file = some found) : found.modified = start := by
  have retains := retains_step work host
  have effect := effect_step work host
  generalize work.step host = result at retains effect nowWritten isOwn isFound
  have kept : work.stage.HasRecord → result.1.stage.made? = none → found.modified = start := by
    intro written made
    rw [made, Option.none_or] at isOwn
    exact timed.modified_of_retains written (retains written) isOwn isFound
  cases effect with
  | fills made stage next held filled =>
      have unwritten : ¬work.stage.HasRecord := by simp [stage, AcquisitionStage.HasRecord]
      rcases timed.orderly.file (by simp [stage, AcquisitionStage.UsesTemporary]) with
        ⟨other, content, isOther, _, regular, _⟩
      rw [next] at isOwn
      cases (timed.orderly.made made stage).symm.trans isOther
      cases isOther.symm.trans isOwn
      rcases Option.map_eq_some_iff.mp regular with ⟨old, isOld, holds⟩
      rw [Host.fill_eq_ok filled, Host.files_withFiles, file_setContent_self isOld holds] at isFound
      cases isFound
      exact timed.early unwritten
  | refuses refused written unseen other linked => exact kept written refused.refused.made?
  | rests status stage same =>
      rw [same] at nowWritten
      simp [stage, AcquisitionStage.HasRecord, AcquisitionStage.UsesTemporary] at nowWritten
  | links stage next | misses _ stage next | compares _ _ _ stage next
  | confirms _ _ _ stage next | breaks _ _ stage next =>
      apply kept
      · simp [stage, AcquisitionStage.HasRecord, AcquisitionStage.UsesTemporary]
      · simp [next, AcquisitionStage.made?]
  | releases stage next | creates _ stage next | stops stage next | spoils _ stage next
  | discards stage next | clears _ stage next =>
      simp [next, AcquisitionStage.HasRecord, AcquisitionStage.UsesTemporary] at nowWritten

theorem Timed.confirmed_step (timed : work.Timed host own start)
    (cleared : (work.step host).1.stage = .clearing .success) :
    ∃ file, (work.step host).1.stage.made?.or own = some file ∧
      (work.step host).2.named? (work.step host).1.lock = some file := by
  rw [(continues_step work host).lock]
  have effect := effect_step work host
  generalize work.step host = result at effect cleared
  cases effect with
  | confirms refusal file found stage next held files looked =>
      refine ⟨file, ?_, ?_⟩
      · rw [next]
        exact timed.orderly.compared refusal file stage
      · rw [Host.named?_congr files]
        exact Host.named?_eq_some_iff.mpr ⟨found, looked⟩
  | refuses refused written unseen other linked =>
      have stillRefused := refused.refused
      simp [cleared, AcquisitionStage.IsRefused] at stillRefused
  | rests status stage same =>
      rw [same] at cleared
      simp [stage] at cleared
  | releases stage next | creates _ stage next | stops stage next | fills _ stage next
  | spoils _ stage next | discards stage next | links stage next | misses _ stage next
  | compares _ _ _ stage next | breaks _ _ stage next | clears _ stage next =>
      simp [next] at cleared

theorem Timed.step (timed : work.Timed host own start)
    (going : ∀ status, (work.step host).1.stage ≠ .finished status) :
    (work.step host).1.Timed (work.step host).2 ((work.step host).1.stage.made?.or own) start where
  sound := (timed.orderly.spares_step timed.sound).sound timed.sound
  quiet := (work.sameClock_step host).isQuiet timed.quiet
  orderly := timed.orderly.step timed.sound going
  early := timed.early_step going
  written written _ _ isOwn isFound := timed.written_step written isOwn isFound
  confirmed := timed.confirmed_step

theorem lstat_of_named? {path : String} {file : FileId} (named : host.named? path = some file) :
    ∃ found, host.lstat path = .ok (file, found) ∧ host.files.file file = some found := by
  rcases Host.named?_eq_some_iff.mp named with ⟨found, looked⟩
  rcases find_eq_ok_iff.mp (Host.lstat_eq_ok_iff.mp looked).2 with ⟨_, _, _, isFound⟩
  exact ⟨found, looked, isFound⟩

theorem Timed.named?_remaining (timed : work.Timed host own start) {after : Host}
    (stage : work.stage = .clearing .success)
    (files : after.files = host.remaining work.temporary) :
    ∃ file, own = some file ∧ after.named? work.lock = some file := by
  rcases timed.confirmed stage with ⟨file, isOwn, named⟩
  rcases timed.orderly.file (by simp [stage, AcquisitionStage.UsesTemporary]) with
    ⟨other, content, isOther, leads, regular, _⟩
  cases isOwn.symm.trans isOther
  refine ⟨file, isOwn, ?_⟩
  rcases host.remaining_cases work.temporary with same | removed
  · rw [Host.named?_congr (files.trans same)]
    exact named
  · rcases Host.named?_eq_some_iff_names.mp named with ⟨writable, names, known⟩
    rw [← files] at removed
    have evolves : Evolves host.files after.files fun _ => False := evolves_unlink removed
    have stillRegular := evolves.node file content regular (by simp)
    refine Host.named?_eq_some_iff_names.mpr ⟨writable, ?_, ?_⟩
    · refine (resets_unlink removed leads regular).names_of_getLast?_ne ?_ names
      rw [timed.orderly.lock]
      exact timed.orderly.temporary
    · rw [← isSome_node?, stillRegular]
      rfl

/-- A lock that was taken has the time at which the taking of it began. -/
theorem Timed.modified_of_finished (timed : work.Timed host own start)
    (going : ∀ status, work.stage ≠ .finished status)
    (ended : (work.step host).1.stage = .finished .success) :
    ∃ file found, (work.step host).2.lstat (work.step host).1.lock = .ok (file, found) ∧
      found.modified = start := by
  rw [(continues_step work host).lock]
  have retains := retains_step work host
  have effect := effect_step work host
  generalize work.step host = result at retains effect ended
  cases effect with
  | clears status stage next held files =>
      cases next.symm.trans ended
      have written : work.stage.HasRecord := by
        simp [stage, AcquisitionStage.HasRecord, AcquisitionStage.UsesTemporary]
      rcases timed.named?_remaining stage files with ⟨file, isOwn, named⟩
      rcases lstat_of_named? named with ⟨found, looked, isFound⟩
      exact ⟨file, found, looked,
        timed.modified_of_retains written (retains written) isOwn isFound⟩
  | refuses refused written unseen other linked =>
      have stillRefused := refused.refused
      simp [ended, AcquisitionStage.IsRefused] at stillRefused
  | rests status stage same => exact absurd stage (going status)
  | releases stage next | creates _ stage next | stops stage next | fills _ stage next
  | spoils _ stage next | discards stage next | links stage next | misses _ stage next
  | compares _ _ _ stage next | confirms _ _ _ stage next | breaks _ _ stage next =>
      simp [next] at ended

/-- What holds of an acquisition that has begun at a time, and of the lock that it has taken. -/
structure Fresh (start : Instant) (lock : String) (state : Acquisition × Host) : Prop where
  isLock : state.1.lock = lock
  going : (∀ status, state.1.stage ≠ .finished status) → ∃ own, state.1.Timed state.2 own start
  ended : state.1.stage = .finished .success →
    ∃ file found, state.2.lstat lock = .ok (file, found) ∧ found.modified = start

theorem Timed.fresh_step (timed : work.Timed host own start)
    (going : ∀ status, work.stage ≠ .finished status) :
    Fresh start work.lock (work.step host) where
  isLock := (continues_step work host).lock
  going stillGoing := ⟨_, timed.step stillGoing⟩
  ended ended := by
    rw [← (continues_step work host).lock]
    exact timed.modified_of_finished going ended

theorem Fresh.elapse {lock : String} (fresh : Fresh start lock (work, host)) {wake : Instant}
    (stage : work.stage = .resting wake) :
    Fresh start lock (work, host.elapseUntil wake) where
  isLock := fresh.isLock
  going going := by
    rcases fresh.going going with ⟨own, timed⟩
    exact ⟨own, timed.elapse stage wake⟩
  ended ended := by simp [stage] at ended

theorem Fresh.step {lock : String} (fresh : Fresh start lock (work, host))
    (going : ∀ status, work.stage ≠ .finished status) : Fresh start lock (work.step host) := by
  rcases fresh.going going with ⟨own, timed⟩
  rw [← fresh.isLock]
  exact timed.fresh_step going

theorem fresh_round {lock : String} {state : Acquisition × Host} (fresh : Fresh start lock state) :
    Fresh start lock (round state) :=
  round_induction (Fresh start lock) (fun _ _ _ stage fresh => fresh.elapse stage)
    (fun _ _ going _ fresh => fresh.step going) fresh

theorem fresh_iterate {lock : String} {state : Acquisition × Host}
    (fresh : Fresh start lock state) (count : Nat) : Fresh start lock (round^[count] state) :=
  iterate_round_induction (Fresh start lock) (fun _ _ _ stage fresh => fresh.elapse stage)
    (fun _ _ going _ fresh => fresh.step going) fresh count

theorem timed_creating (own : Option FileId) (sound : host.files.Sound) (quiet : host.IsQuiet)
    (lock : work.lock.toList.getLast? = some 'k')
    (temporary : work.temporary.toList.getLast? ≠ some 'k') (stage : work.stage = .creating)
    (held : work.locker.held = none) : work.Timed host own host.now where
  sound := sound
  quiet := quiet
  orderly := by
    refine ⟨lock, temporary, ?_, ?_, ?_, ?_⟩
    · simp [held]
    · simp [stage]
    · simp [stage]
    · simp [stage, AcquisitionStage.UsesTemporary]
  early _ := rfl
  written := by simp [stage, AcquisitionStage.HasRecord, AcquisitionStage.UsesTemporary]
  confirmed := by simp [stage]

theorem fresh_begin {locker : Locker} {user lock : String} (sound : host.files.Sound)
    (quiet : host.IsQuiet) (retries : UInt32) (found : locker.lockPath host user = .ok lock) :
    Fresh host.now lock (round (begin locker host user lock retries)) := by
  have ending : lock.toList.getLast? = some 'k' := getLast?_lockPath found
  have temporary := getLast?_temporaryPath lock locker.process (host.draw UInt32.size).1
  have drawnFiles : (host.draw UInt32.size).2.files = host.files := rfl
  have drawnClock : host.SameClock (host.draw UInt32.size).2 := ⟨rfl, rfl⟩
  rw [begin_eq]
  generalize temporaryPath lock locker.process (host.draw UInt32.size).1 = path at temporary ⊢
  generalize (host.draw UInt32.size).2 = drawn at drawnFiles drawnClock ⊢
  rcases held : locker.held with _ | holding
  · have stillQuiet : drawn.IsQuiet := drawnClock.isQuiet quiet
    rw [← drawnClock.now]
    apply fresh_round
    refine ⟨rfl, fun _ => ⟨none, ?_⟩, by simp⟩
    exact timed_creating none (drawnFiles ▸ sound) stillQuiet ending temporary rfl held
  · have clock := (locker.sameWorld_release drawn).toSameClock
    have stillSound := locker.sound_release drawn (drawnFiles ▸ sound)
    have stillQuiet := clock.isQuiet (drawnClock.isQuiet quiet)
    have free : (locker.release drawn).1.held = none := by rw [locker.locker_release]
    rw [← drawnClock.now, ← clock.now]
    simp only [round, step, Option.isSome_some, if_true]
    generalize locker.release drawn = released at stillSound stillQuiet free ⊢
    refine ⟨rfl, fun _ => ⟨none, ?_⟩, by simp⟩
    exact timed_creating none stillSound stillQuiet ending temporary rfl free

end Acquisition

/-- A lock that was just taken is as old as the taking of it has lasted. So `isOutdated` tells a
locker with the same settings that it is stale by its age exactly when that was longer than
`staleAfter`, however much of the time the lock was free. -/
theorem isOutdated_of_acquire {locker next : Locker} {host after : Host} {user : String}
    {retries : UInt32} (sound : host.files.Sound) (quiet : host.IsQuiet)
    (taken : locker.acquire host user retries = (.success, next, after)) :
    ∃ lock file found, locker.lockPath host user = .ok lock ∧
      after.lstat lock = .ok (file, found) ∧ found.modified = host.now ∧
      (locker.settings.isOutdated after.now found = true ↔
        (seconds locker.settings.staleAfter.toNat : Int) < after.now - host.now) := by
  unfold Locker.acquire at taken
  rcases isLock : locker.lockPath host user with status | lock
  · rw [isLock] at taken
    cases taken
    exact absurd rfl (MailSettings.ne_success_of_lockPath isLock)
  · simp only [isLock, Acquisition.run_eq_iterate] at taken
    obtain ⟨count, limit⟩ : ∃ count,
        (Acquisition.begin locker host user lock retries).1.stepLimit host = count + 1 :=
      Nat.exists_eq_add_one.mpr (by unfold Acquisition.stepLimit; omega)
    have fresh := Acquisition.fresh_iterate
      (Acquisition.fresh_begin sound quiet retries isLock) count
    rw [limit, Function.iterate_succ_apply] at taken
    generalize Acquisition.round^[count] _ = done at taken fresh
    obtain ⟨status, -, rfl⟩ : done.1.status?.getD .error = .success ∧ done.1.locker = next ∧
        done.2 = after := by simpa using taken
    rcases fresh.ended (Acquisition.stage_of_status? status) with ⟨file, found, looked, modified⟩
    refine ⟨lock, file, found, rfl, looked, modified, ?_⟩
    simp [MailSettings.isOutdated, modified]

/-! ## A lock that is stale when it is taken -/

/-- Locks go stale after two seconds, and a locker that finds a lock rests for four. -/
def patientSettings : MailSettings where
  spoolDirectory := "/"
  honorMail := false
  retryStep := 4000
  retryLimit := 4000
  staleAfter := 2
  checkOwner := false
  refreshInterval := 1

def patientLocker : Locker where
  process := 1
  settings := patientSettings

/-- A spool with a lock that somebody gives back after half a second. -/
def busyHost : Host :=
  { Host.boot 0 fun number => number with
    files := ((FileSystem.empty 0).make root "u.lock" (.regular (ownerRecord 1)) 0).2
    agenda := [{ due := milliseconds 500, period := none, deed := .unlink "/u.lock" }] }

theorem sound_busyHost : busyHost.files.Sound := by
  have made : ((FileSystem.empty 0).make root "u.lock" (.regular (ownerRecord 1)) 0).2.Sound := by
    apply (sound_empty 0).make
    · decide +kernel
    · decide +kernel
  exact made

theorem isQuiet_busyHost : busyHost.IsQuiet := by
  intro appointment member
  rw [List.mem_singleton.mp member]
  rfl

def patientEnd : Acquisition × Host :=
  Acquisition.round^[11] (Acquisition.begin patientLocker busyHost "u" "/u.lock" 1)

theorem acquire_patientLocker :
    patientLocker.acquire busyHost "u" 1 = (.success, patientEnd.1.locker, patientEnd.2) := by
  have found : patientLocker.lockPath busyHost "u" = .ok "/u.lock" := by decide +kernel
  apply Acquisition.acquire_eq_of_iterate "/u.lock" 11 found
  · decide +kernel
  · decide +kernel

theorem lstat_patientEnd :
    ∃ file found, patientEnd.2.lstat "/u.lock" = .ok (file, found) ∧ found.modified = 0 := by
  have modified : ((patientEnd.2.lstat "/u.lock").toOption.map fun looked =>
      looked.2.modified) = some 0 := by decide +kernel
  rcases looked : patientEnd.2.lstat "/u.lock" with error | ⟨file, found⟩
  · simp [looked, Except.toOption] at modified
  · refine ⟨file, found, rfl, ?_⟩
    simpa [looked, Except.toOption] using modified

theorem isOutdated_of_acquire_patientLocker :
    busyHost.files.Sound ∧ busyHost.IsQuiet ∧
      ∃ lock file found, patientLocker.lockPath busyHost "u" = .ok lock ∧
        patientEnd.2.lstat lock = .ok (file, found) ∧ found.modified = 0 ∧
        (patientLocker.settings.isOutdated patientEnd.2.now found = true ↔
          (seconds 2 : Int) < patientEnd.2.now - 0) :=
  ⟨sound_busyHost, isQuiet_busyHost,
    isOutdated_of_acquire sound_busyHost isQuiet_busyHost acquire_patientLocker⟩

/-- With `Valid` settings, a lock can be stale by its age at the moment at which it is taken. -/
theorem lock_stale_when_taken :
    ({ mail := patientSettings } : Settings).Valid ∧
      patientLocker.acquire busyHost "u" 1 = (.success, patientEnd.1.locker, patientEnd.2) ∧
      ∃ file found, patientEnd.2.lstat "/u.lock" = .ok (file, found) ∧
        patientSettings.isOutdated patientEnd.2.now found = true := by
  rcases lstat_patientEnd with ⟨file, found, looked, modified⟩
  refine ⟨by decide +kernel, acquire_patientLocker, file, found, looked, ?_⟩
  have now : patientEnd.2.now = 4001000000 := by decide +kernel
  unfold MailSettings.isOutdated
  rw [modified, now]
  decide +kernel

end MailSpool

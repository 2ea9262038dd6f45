import MailSpool.Proofs.Dotlock.Verdicts

/-!
# How the taking of a lock ends

A locker whose path of the lock is settled gives back what it holds, makes its temporary file,
writes it, and then attempts to link it. On a still host this ends in one of the three ways of
`Concludes`: the file cannot be made, it cannot be written, or the attempts come to their `Verdict`.
What the locker counts and what files there are afterwards is told for each of them.
-/

namespace MailSpool

open FileSystem

namespace Locker

variable {locker next : Locker} {host after : Host} {user lock : String} {retries : UInt32}
  {status : MailLockStatus}

/-- A host after a locker that takes a lock has given back the one that it held. -/
def vacated (locker : Locker) (host : Host) : Host :=
  (locker.release (host.draw UInt32.size).2).2

/-- The path of the temporary file with which a locker takes a lock. -/
def temporaryFor (locker : Locker) (host : Host) (lock : String) : String :=
  temporaryPath lock locker.process (host.draw UInt32.size).1

/-- The taking of a lock by a locker that holds none any more. -/
def beginning (locker : Locker) (host : Host) (user lock : String) (retries : UInt32) :
    Acquisition where
  locker := { locker with held := none }
  user := user
  lock := lock
  temporary := locker.temporaryFor host lock
  retries := retries
  stage := .creating

/-- The ways in which the taking of a lock ends, with the status, the locker and the host
afterwards; an attempt that decides it comes to a `Verdict`. -/
inductive Concludes (locker : Locker) (host : Host) (user lock : String) (retries : UInt32) :
    MailLockStatus → Locker → Host → Prop where
  | unmade (error : IoError) (after : Host)
      (refused : (locker.vacated host).create (locker.temporaryFor host lock) = .error error)
      (files : after.files = (locker.vacated host).files) :
      Concludes locker host user lock retries .temporaryLock
        ({ locker with held := none }.settled user lock .temporaryLock 0) after
  | unwritten (own : FileId) (created after : Host) (error : IoError)
      (made : (locker.vacated host).create (locker.temporaryFor host lock) = .ok (own, created))
      (failed : created.fill own (ownerRecord locker.recordedOwner) = .error error)
      (files : after.files = created.remaining (locker.temporaryFor host lock)) :
      Concludes locker host user lock retries .temporaryWrite
        ({ locker with held := none }.settled user lock .temporaryWrite 0) after
  | decided (own : FileId) (created ready last after : Host) (tries broken : Nat)
      (status : MailLockStatus)
      (made : (locker.vacated host).create (locker.temporaryFor host lock) = .ok (own, created))
      (written : created.fill own (ownerRecord locker.recordedOwner) = .ok ready)
      (within : tries ≤ retries.toNat)
      (fresh : ∀ early < tries,
        locker.finding (locker.settings.rested ready early) lock = .fresh)
      (alike : (locker.settings.rested ready tries).Alike last)
      (verdict : ((locker.beginning host user lock retries).tried tries).Verdict last status broken
        after.files)
      (now : after.now = last.now) :
      Concludes locker host user lock retries status
        (((locker.beginning host user lock retries).tried tries).locker.settled user lock status
          broken) after

@[simp]
theorem temporary_beginning :
    (locker.beginning host user lock retries).temporary = locker.temporaryFor host lock := by
  rw [beginning]

@[simp]
theorem lock_beginning : (locker.beginning host user lock retries).lock = lock := by
  rw [beginning]

theorem reaches_beginning (locker : Locker) (host : Host) (user lock : String) (retries : UInt32) :
    Acquisition.Reaches (Acquisition.begin locker host user lock retries)
      (locker.beginning host user lock retries, locker.vacated host) := by
  rw [Acquisition.begin_eq]
  rcases held : locker.held with _ | holding
  · have same : { locker with held := none } = locker := by rw [← held]
    simp only [beginning, vacated, release, held, same]
    exact .refl _
  · refine .of_step ?_ (by simp)
    simp only [Acquisition.step, Option.isSome_some, if_true, locker_release]
    rfl

theorem isStill_vacated (locker : Locker) (still : host.IsStill) :
    (locker.vacated host).IsStill :=
  still.of_agenda (locker.sameWorld_release _).agenda

theorem sound_vacated (locker : Locker) (sound : host.files.Sound) :
    (locker.vacated host).files.Sound :=
  locker.sound_release _ sound

/-- A locker that has made and written its temporary file is at the first of its `Attempts`. -/
theorem attempts_of_written (retries : UInt32) {own : FileId} {created ready : Host}
    (sound : host.files.Sound) (isLock : locker.lockPath host user = .ok lock)
    (made : (locker.vacated host).create (locker.temporaryFor host lock) = .ok (own, created))
    (written : created.fill own (ownerRecord locker.recordedOwner) = .ok ready) :
    Acquisition.Attempts (locker.vacated host) own
      ((locker.beginning host user lock retries).tried 0) ready where
  stage := rfl
  more := by
    have besides := beside_create (locker.sound_vacated sound) (Host.create_eq_ok made).1
    have beside := besides.setContent (ownerRecord locker.recordedOwner) created.now
    have isReady : ready.files = created.files.setContent own (ownerRecord locker.recordedOwner)
        created.now := by
      rw [Host.fill_eq_ok written]
      rfl
    rw [← isReady] at beside
    rw [Acquisition.temporary_tried, temporary_beginning]
    exact ⟨beside, Host.isWritable_of_create made⟩
  sound := locker.sound_vacated sound
  isLock := by
    rw [Acquisition.lock_tried, lock_beginning]
    exact getLast?_lockPath isLock
  apart := by
    rw [Acquisition.temporary_tried, temporary_beginning]
    exact getLast?_temporaryPath _ _ _

theorem isStill_of_written {own : FileId} {created ready : Host} (still : host.IsStill)
    (made : (locker.vacated host).create (locker.temporaryFor host lock) = .ok (own, created))
    (written : created.fill own (ownerRecord locker.recordedOwner) = .ok ready) :
    ready.IsStill := by
  refine (locker.isStill_vacated still).of_agenda ?_
  rw [(Host.sameWorld_fill written).agenda, (Host.sameWorld_create made).agenda]

theorem now_of_written {own : FileId} {created ready : Host}
    (made : (locker.vacated host).create (locker.temporaryFor host lock) = .ok (own, created))
    (written : created.fill own (ownerRecord locker.recordedOwner) = .ok ready) :
    ready.now = host.now := by
  rw [(Host.sameWorld_fill written).now, (Host.sameWorld_create made).now]
  exact (locker.sameWorld_release _).now

theorem files_of_rested {own : FileId} {created ready last : Host} {tries : Nat}
    (still : host.IsStill)
    (made : (locker.vacated host).create (locker.temporaryFor host lock) = .ok (own, created))
    (written : created.fill own (ownerRecord locker.recordedOwner) = .ok ready)
    (alike : (locker.settings.rested ready tries).Alike last) : last.files = ready.files := by
  have readyStill := isStill_of_written still made written
  exact alike.files.trans (locker.settings.rested_of_still readyStill tries).1

/-- From its `beginning` on, the taking of a lock `Reaches` one of its ends, which `Concludes`
lists. -/
theorem exists_concludes (retries : UInt32) (sound : host.files.Sound) (still : host.IsStill)
    (isLock : locker.lockPath host user = .ok lock) :
    ∃ status done, Acquisition.Reaches
        (locker.beginning host user lock retries, locker.vacated host) done ∧
      done.1.stage = .finished status ∧
      locker.Concludes host user lock retries status done.1.locker done.2 := by
  have isMade : ∀ result, (locker.vacated host).create (locker.temporaryFor host lock) = result →
      (locker.vacated host).create (locker.beginning host user lock retries).temporary = result :=
    fun result made => by rw [temporary_beginning, made]
  rcases made : (locker.vacated host).create (locker.temporaryFor host lock) with
    error | ⟨own, created⟩
  · rcases Acquisition.reaches_of_unmade rfl (isMade _ made) with ⟨after, alike, reaches⟩
    exact ⟨.temporaryLock, _, reaches, rfl, .unmade error after made alike.files⟩
  rcases written : created.fill own (ownerRecord locker.recordedOwner) with error | ready
  · rcases Acquisition.reaches_of_unwritten rfl (isMade _ made) written with
      ⟨after, alike, reaches⟩
    rw [temporary_beginning] at alike
    exact ⟨.temporaryWrite, _, reaches, rfl,
      .unwritten own created after error made written alike.files⟩
  · have reaches := Acquisition.reaches_of_written rfl (isMade _ made) written
    rw [← Acquisition.tried_zero rfl] at reaches
    rcases Acquisition.exists_verdict (attempts_of_written retries sound isLock made written)
        (isStill_of_written still made written) with
      ⟨tries, last, status, broken, files, done, within, fresh, alike, verdict, ended, ends⟩
    refine ⟨status, done, reaches.trans ended, ends.stage, ?_⟩
    rw [ends.locker]
    exact .decided own created ready last done.2 tries broken status made written within fresh alike
      (ends.files ▸ verdict) ends.now

theorem concludes_of_acquire (sound : host.files.Sound) (still : host.IsStill)
    (isLock : locker.lockPath host user = .ok lock)
    (acquired : locker.acquire host user retries = (status, next, after)) :
    locker.Concludes host user lock retries status next after := by
  rcases exists_finished_of_acquire sound isLock acquired with
    ⟨count, done, rfl, ended, rfl, rfl, _⟩
  rcases exists_concludes retries sound still isLock with
    ⟨other, last, reaches, lastEnded, concludes⟩
  have same := ((locker.reaches_beginning host user lock retries).trans reaches).eq_of_finished
    lastEnded ended
  rw [same] at ended ⊢
  cases lastEnded.symm.trans ended
  exact concludes

end Locker

end MailSpool

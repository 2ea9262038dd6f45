import MailSpool.Proofs.Dotlock.Clock
import MailSpool.Proofs.Dotlock.Standing
import MailSpool.Proofs.Spool.Peace

/-!
# Lockers that yield

A locker `Yields` to a lock that stands when what it holds lies elsewhere and what it has found out
about the lock leads to no removal of it. It goes on to yield whatever it does, short of adopting a
lock: it takes locks one after another, gives them back or leaves them behind, and removes other
names than that of the lock only.
-/

namespace MailSpool

open FileSystem

namespace Participant

/-- How a locker stands to a lock that stands. -/
structure Yields (participant : Participant) (lock : StandingLock) (settings : MailSettings)
    (files : FileSystem) : Prop where
  settings : ∀ locker, participant.activity.locker? = some locker → locker.settings = settings
  held : ∀ path, participant.heldPath? = some path → lock.Avoided files path
  taking : ∀ work, participant.activity = .taking work → work.Yields lock files
  unused : ∀ file, participant.Uses file → file ≠ lock.file

/-- The path of a lock that a locker holds or takes. -/
def ActsOn (participant : Participant) (path : String) : Prop :=
  participant.heldPath? = some path ∨
    ∃ work, participant.activity = .taking work ∧ work.lock = path

/-- A locker contends for locks that are no symbolic links, and adopts none. -/
def Contends (participant : Participant) (host : Host) (deed : LockerDeed) : Prop :=
  match participant.activity, deed with
  | .free locker, .acquire user _ =>
    ∀ path, locker.lockPath host user = .ok path → host.files.NamesNoLink path
  | _, .adopt _ => False
  | _, _ => True

variable {participant : Participant} {lock : StandingLock} {settings : MailSettings} {host : Host}
  {before after : FileSystem} {deed : LockerDeed} {path : String}

theorem contends_step (participant : Participant) (host : Host) :
    participant.Contends host .step := by
  rcases participant with ⟨locker | work | _, own⟩ <;> trivial

theorem yields_free {locker : Locker} (own : Option FileId) (same : locker.settings = settings)
    (held : ∀ path, locker.heldPath? = some path → lock.Avoided before path) :
    Yields { activity := .free locker, own := own } lock settings before where
  settings other isOther := by
    cases isOther
    exact same
  held := held
  taking work going := by simp at going
  unused file uses := False.elim uses

theorem yields_gone (own : Option FileId) :
    Yields { activity := .gone, own := own } lock settings before where
  settings other isOther := by simp [LockerActivity.locker?] at isOther
  held path isHeld := by simp [heldPath?, LockerActivity.locker?] at isHeld
  taking work going := by simp at going
  unused file uses := False.elim uses

theorem Yields.kept (yields : participant.Yields lock settings before)
    (paths : ∀ path, participant.ActsOn path →
      LeadsNoFurther before after path ∧ after.NamesNoLink path) :
    participant.Yields lock settings after where
  settings := yields.settings
  held path isHeld := by
    rcases paths path (Or.inl isHeld) with ⟨leads, noLink⟩
    exact ⟨(yields.held path isHeld).elsewhere.of_leadsNoFurther leads, noLink⟩
  taking work going := by
    rcases paths work.lock (Or.inr ⟨work, going, rfl⟩) with ⟨leads, noLink⟩
    exact (yields.taking work going).kept leads noLink
  unused := yields.unused

theorem Yields.noLink (yields : participant.Yields lock settings before)
    (acts : participant.ActsOn path) : before.NamesNoLink path := by
  rcases acts with isHeld | ⟨work, going, rfl⟩
  · exact (yields.held path isHeld).noLink
  · exact (yields.taking work going).noLink

theorem Yields.of_narrows (yields : participant.Yields lock settings before)
    (narrows : Narrows before after) : participant.Yields lock settings after :=
  yields.kept fun path acts =>
    ⟨narrows.leadsNoFurther path, (yields.noLink acts).of_narrows narrows⟩

theorem lies_release {locker : Locker}
    (held : ∀ path, locker.heldPath? = some path → lock.Avoided host.files path)
    (lies : host.files.LiesAt path lock.directory lock.name lock.file) :
    (locker.release host).2.files.LiesAt path lock.directory lock.name lock.file := by
  rw [Locker.files_release]
  rcases isHeld : locker.held with _ | holding
  · exact lies
  · simp only [Option.map_some, Option.getD_some]
    have avoided := held holding.path (by simp [Locker.heldPath?, isHeld])
    rcases host.remaining_cases holding.path with same | removed
    · rw [same]
      exact lies
    · exact lies.unlink removed avoided.elsewhere avoided.noLink

/-- What a locker that `Yields` does leaves the lock where it is. -/
theorem Yields.lies_perform (yields : participant.Yields lock settings host.files)
    (orderly : participant.Orderly host.files) (sound : host.files.Sound)
    (lies : host.files.LiesAt path lock.directory lock.name lock.file) (deed : LockerDeed) :
    (participant.perform host deed).2.files.LiesAt path lock.directory lock.name lock.file := by
  rcases participant with ⟨locker | work | _, own⟩
  · cases deed with
    | acquire user retries =>
        unfold Participant.perform
        dsimp only
        split <;> exact lies
    | release | drop => exact lies_release yields.held lies
    | refresh =>
        simp only [Participant.perform, Locker.refresh]
        split
        · exact lies
        case h_2 task _ =>
          unfold RefreshTask.run
          rcases touched : host.touch task.path with failure | touching
          · exact lies
          · rcases touch_spec (Host.touch_eq_ok touched).1 with ⟨_, _, _, _, same, _, _⟩
            exact lies.sameEntries same
    | adopt | persist | step => exact lies
  · cases deed with
    | step =>
        refine (yields.taking work rfl).lies_step orderly sound yields.unused ?_ lies
        intro holding isHeld
        apply yields.held
        simp [heldPath?, LockerActivity.locker?, Locker.heldPath?, isHeld]
    | acquire | adopt | release | persist | refresh | drop => exact lies
  · cases deed <;> exact lies

/-- What is held after a step lies elsewhere. -/
theorem Yields.held_step {work : Acquisition} {own : Option FileId}
    (yields : Yields { activity := .taking work, own := own } lock settings host.files)
    (orderly : work.Orderly host.files own) (narrows : Narrows host.files (work.step host).2.files)
    (held : (work.step host).1.locker.heldPath? = some path) :
    lock.Avoided (work.step host).2.files path := by
  rcases Option.map_eq_some_iff.mp held with ⟨holding, isHeld, rfl⟩
  rcases orderly.cleared_of_held isHeld with ⟨stage, rfl, _, _⟩
  have yielding := yields.taking work rfl
  refine ⟨(yielding.defers.resolve_right ?_).of_narrows narrows, yielding.noLink.of_narrows narrows⟩
  simp [stage, AcquisitionStage.Defers]

theorem Yields.step {work : Acquisition} {own : Option FileId}
    (yields : Yields { activity := .taking work, own := own } lock settings host.files)
    (stands : lock.Stands settings host) (orderly : work.Orderly host.files own)
    (sound : host.files.Sound) :
    Yields
      { activity := .ofAcquisition (work.step host).1
        own := (work.step host).1.stage.made?.or own } lock settings (work.step host).2.files := by
  have same : work.locker.settings = settings := yields.settings work.locker rfl
  have narrows := (orderly.spares_step sound).narrows
  refine ⟨?_, ?_, ?_, ?_⟩
  · intro locker isLocker
    rw [LockerActivity.locker?_ofAcquisition, Option.some.injEq] at isLocker
    rw [← isLocker, (Acquisition.continues_step work host).settings]
    exact same
  · intro path isHeld
    rw [heldPath?, LockerActivity.locker?_ofAcquisition, Option.bind_some] at isHeld
    exact yields.held_step orderly narrows isHeld
  · intro next going
    rw [eq_of_taking_ofAcquisition going]
    exact (yields.taking work rfl).step (same ▸ stands) orderly sound yields.unused
  · intro file uses
    rcases Acquisition.uses_step sound (uses_ofAcquisition uses) with before | isNew
    · exact yields.unused file before
    · rintro rfl
      have known := stands.known
      simp [isNew] at known

/-- A locker that `Yields` goes on to yield. -/
theorem Yields.perform (yields : participant.Yields lock settings host.files)
    (stands : lock.Stands settings host) (orderly : participant.Orderly host.files)
    (sound : host.files.Sound) (contends : participant.Contends host deed) :
    (participant.perform host deed).1.Yields lock settings
      (participant.perform host deed).2.files := by
  have narrows := (orderly.spares_perform sound deed).narrows
  rcases participant with ⟨locker | work | _, own⟩
  · have same : locker.settings = settings := yields.settings locker rfl
    have nothing : ∀ (free : Locker) (path : String), free.held = none →
        free.heldPath? = some path → lock.Avoided host.files path := by
      intro free path isFree isHeld
      simp [Locker.heldPath?, isFree] at isHeld
    cases deed with
    | acquire user retries =>
        unfold Participant.perform
        dsimp only
        split
        · exact yields_free own same yields.held
        case h_2 taken found =>
          refine ⟨?_, yields.held, ?_, ?_⟩
          · rintro _ ⟨⟩
            exact same
          · rintro _ ⟨⟩
            refine ⟨contends taken found, Or.inr (AcquisitionStage.IsUndecided.defers ?_ _ _)⟩
            rw [Acquisition.begin_eq]
            dsimp only
            split <;> trivial
          · rintro file ⟨uses, _⟩
            rw [Acquisition.begin_eq] at uses
            dsimp only at uses
            split at uses <;> exact False.elim uses
    | adopt user => exact False.elim contends
    | release =>
        rw [perform_release] at narrows ⊢
        have freed : Yields { activity := .free { locker with held := none }, own := own } lock
            settings host.files :=
          yields_free own same fun path => nothing { locker with held := none } path rfl
        exact freed.of_narrows narrows
    | persist =>
        refine yields_free own same ?_
        exact fun path => nothing locker.persist.2 path rfl
    | drop => exact yields_gone own
    | refresh => exact yields.of_narrows narrows
    | step => exact yields
  · cases deed with
    | step => exact yields.step stands orderly sound
    | adopt => exact False.elim contends
    | acquire | release | persist | refresh | drop => exact yields
  · cases deed with
    | adopt => exact False.elim contends
    | acquire | step | release | persist | refresh | drop => exact yields

/-! ## The file of the lock -/

/-- A file holds what it held, and has the time that it had or the present one. -/
def Renews (before after : FileSystem) (file : FileId) (now : Instant) : Prop :=
  ∀ found, after.file file = some found → ∃ old, before.file file = some old ∧
    found.node = old.node ∧ (found.modified = old.modified ∨ found.modified = now)

theorem renews_of_retains {excepted : FileId → Prop} {file : FileId}
    (retains : Retains before after excepted) (known : (before.file file).isSome)
    (plain : before.directory? file = none) (kept : ¬excepted file) (now : Instant) :
    Renews before after file now := by
  intro found isFound
  have traits := retains.traits file known plain kept
  rcases Option.isSome_iff_exists.mp known with ⟨old, isOld⟩
  rw [isFound, isOld] at traits
  simp only [Option.map_some, Option.some.injEq, File.traits, Prod.mk.injEq] at traits
  exact ⟨old, isOld, traits.1, Or.inl traits.2.1⟩

theorem renews_run (task : RefreshTask) {file : FileId} (known : (host.files.file file).isSome)
    (plain : host.files.directory? file = none) :
    Renews host.files (task.run host).files file host.now := by
  unfold RefreshTask.run
  rcases touched : host.touch task.path with failure | touching
  · exact renews_of_retains (.refl _ fun _ => False) known plain not_false host.now
  · rcases touch_spec (Host.touch_eq_ok touched).1 with
      ⟨id, details, looked, isTouched, _, retains, _⟩
    by_cases same : file = id
    · intro found isFound
      subst same
      rw [isTouched] at isFound
      cases isFound
      rcases find_eq_ok_iff.mp looked with ⟨_, _, _, isOld⟩
      exact ⟨details, isOld, rfl, Or.inr rfl⟩
    · exact renews_of_retains retains known plain same host.now

theorem Yields.renews_perform (yields : participant.Yields lock settings host.files)
    (orderly : participant.Orderly host.files) (sound : host.files.Sound)
    (stands : lock.Stands settings host) (deed : LockerDeed) :
    Renews host.files (participant.perform host deed).2.files lock.file host.now := by
  have kept : ∀ {after : FileSystem} {excepted : FileId → Prop},
      Retains host.files after excepted → ¬excepted lock.file →
        Renews host.files after lock.file host.now := fun retains unused =>
    renews_of_retains retains stands.known stands.plain.1 unused host.now
  have same : Renews host.files host.files lock.file host.now :=
    kept (.refl _ fun _ => False) not_false
  rcases participant with ⟨locker | work | _, own⟩
  · have released : Renews host.files (locker.release host).2.files lock.file host.now := by
      rw [Locker.files_release]
      rcases locker.held with _ | holding
      · exact same
      · exact kept (host.retains_remaining holding.path fun _ => False) not_false
    cases deed with
    | acquire user retries =>
        unfold Participant.perform
        dsimp only
        split <;> exact same
    | release | drop => exact released
    | refresh =>
        simp only [Participant.perform, Locker.refresh]
        split
        · exact same
        case h_2 task _ => exact renews_run task stands.known stands.plain.1
    | adopt | persist | step => exact same
  · cases deed with
    | step =>
        refine kept (Acquisition.Orderly.retains_step orderly sound) fun uses => ?_
        exact yields.unused lock.file uses rfl
    | acquire | adopt | release | persist | refresh | drop => exact same
  · cases deed <;> exact same

/-! ## Clock and processes -/

/-- A `LockerDeed` moves no clock and ends no process. -/
theorem sameTime_perform (participant : Participant) (host : Host) (deed : LockerDeed) :
    (participant.perform host deed).2.now = host.now ∧
      (participant.perform host deed).2.process = host.process := by
  have of_world : ∀ {after : Host}, host.SameWorld after →
      after.now = host.now ∧ after.process = host.process := fun world =>
    ⟨world.now, world.process⟩
  rcases participant with ⟨locker | work | _, own⟩
  · cases deed with
    | acquire user retries =>
        unfold Participant.perform
        dsimp only
        split
        · exact ⟨rfl, rfl⟩
        · exact ⟨rfl, rfl⟩
    | release | drop => exact of_world (locker.sameWorld_release host)
    | refresh => exact of_world (locker.sameWorld_refresh host)
    | adopt | persist | step => exact ⟨rfl, rfl⟩
  · cases deed with
    | step =>
        have world := work.sameWorld_step host
        refine ⟨(work.sameClock_step host).now, world.process.trans ?_⟩
        unfold Acquisition.closing
        split
        · rcases host.read_snd work.locker.process work.lock with same | ⟨file, _, _, same⟩
          · rw [same]
          · rw [same]
            rfl
        · rfl
    | acquire | adopt | release | persist | refresh | drop => exact ⟨rfl, rfl⟩
  · cases deed <;> exact ⟨rfl, rfl⟩

end Participant

end MailSpool

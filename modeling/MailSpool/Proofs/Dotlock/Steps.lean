import MailSpool.Dotlock.Acquisition
import MailSpool.Proofs.Host.Files

/-!
# The steps of taking a lock

What every step of an acquisition keeps, `Effect`, and what the steps that only look at files can
lead to. Seven stages change files: giving back the lock that was held, making, writing and linking
the temporary file, removing it, and breaking a stale lock. All other stages look at files, ask
whether the owner is alive, or rest.
-/

namespace MailSpool

namespace AcquisitionStage

def made? : AcquisitionStage → Option FileId
  | .writing file => some file
  | _ => none

/-- A stage between the making of the temporary file and its removal. -/
def UsesTemporary : AcquisitionStage → Prop
  | .releasing | .creating | .finished _ => False
  | _ => True

/-- A stage at which the temporary file holds the record of the owner. -/
def HasRecord : AcquisitionStage → Prop
  | .writing _ | .discarding => False
  | stage => stage.UsesTemporary

/-- A stage at which the link was not made, or is still to be tried. -/
def IsRefused : AcquisitionStage → Prop
  | .linking | .judging | .readingOwner _ | .askingOwner _ _ | .rechecking _ | .breaking _
  | .resting _ => True
  | .clearing status => status ≠ .success
  | _ => False

/-- A stage between the link that made the lock and the removal of the temporary file. -/
def HasLinked : AcquisitionStage → Prop
  | .comparing none | .comparingLock none _ | .clearing .success => True
  | _ => False

/-- A stage that looks at the lock, asks for its owner or rests, after the link was refused. -/
def IsWatching : AcquisitionStage → Prop
  | .judging | .readingOwner _ | .askingOwner _ _ | .rechecking _ | .resting _ => True
  | _ => False

theorem HasRecord.usesTemporary {stage : AcquisitionStage} (written : stage.HasRecord) :
    stage.UsesTemporary := by
  cases stage <;> simp_all [HasRecord, UsesTemporary]

theorem IsWatching.hasRecord {stage : AcquisitionStage} (watching : stage.IsWatching) :
    stage.HasRecord := by
  cases stage <;> simp_all [HasRecord, UsesTemporary, IsWatching]

theorem IsRefused.hasRecord {stage : AcquisitionStage} (refused : stage.IsRefused) :
    stage.HasRecord := by
  cases stage <;> simp_all [HasRecord, UsesTemporary, IsRefused]

theorem HasLinked.hasRecord {stage : AcquisitionStage} (linked : stage.HasLinked) :
    stage.HasRecord := by
  cases stage <;> simp_all [HasLinked, HasRecord, UsesTemporary]

theorem IsRefused.not_hasLinked {stage : AcquisitionStage} (refused : stage.IsRefused) :
    ¬stage.HasLinked := by
  cases stage with
  | clearing status => cases status <;> simp_all [HasLinked, IsRefused]
  | releasing | creating | writing | discarding | linking | comparing | comparingLock | judging
  | readingOwner | askingOwner | rechecking | breaking | resting | finished =>
      simp_all [HasLinked, IsRefused]

theorem IsRefused.made? {stage : AcquisitionStage} (refused : stage.IsRefused) :
    stage.made? = none := by
  cases stage <;> simp_all [AcquisitionStage.made?, IsRefused]

theorem IsRefused.ne_comparingLock {stage : AcquisitionStage} (refused : stage.IsRefused)
    (refusal : Option IoError) (file : FileId) : stage ≠ .comparingLock refusal file := by
  rintro rfl
  exact refused

end AcquisitionStage

theorem Locker.files_release (locker : Locker) (host : Host) :
    (locker.release host).2.files =
      (locker.held.map fun held => host.remaining held.path).getD host.files := by
  unfold release
  rcases locker.held with _ | held
  · rfl
  · rcases removed : host.unlink held.path with error | rest
    · simp [removed, Host.remaining, Except.toOption]
    · simp [removed, Host.remaining, Except.toOption]

theorem Locker.sound_release (locker : Locker) (host : Host) (sound : host.files.Sound) :
    (locker.release host).2.files.Sound := by
  rw [files_release]
  rcases locker.held with _ | held
  · exact sound
  · rcases host.remaining_cases held.path with same | removed
    · simpa [same] using sound
    · have evolves : host.files.Evolves (host.remaining held.path) fun _ => False :=
        FileSystem.evolves_unlink removed
      exact evolves.sound sound

theorem MailSettings.ne_success_of_lockPath {settings : MailSettings} {mail : Option String}
    {user : String} {status : MailLockStatus}
    (rejected : settings.lockPath mail user = .error status) : status ≠ .success := by
  unfold lockPath at rejected
  split at rejected
  · cases rejected
    simp
  · split at rejected
    · cases rejected
      simp
    · split at rejected <;> simp at rejected

theorem RefreshTask.sameEntries_run (task : RefreshTask) (host : Host) :
    FileSystem.SameEntries host.files (task.run host).files := by
  unfold run
  rcases touched : host.touch task.path with failure | after
  · exact .refl host.files
  · rcases FileSystem.touch_spec (Host.touch_eq_ok touched).1 with ⟨_, _, _, _, same, _, _⟩
    exact same

theorem Locker.sameEntries_refresh (locker : Locker) (host : Host) :
    FileSystem.SameEntries host.files (locker.refresh host).files := by
  unfold refresh
  split
  · exact .refl host.files
  case h_2 task _ => exact task.sameEntries_run host

/-- A lock is adopted when `named?` finds a file at its path; otherwise `adopt` changes nothing. -/
theorem Locker.adopt_cases (locker : Locker) (host : Host) (user : String) :
    (∃ path file, locker.lockPath host user = .ok path ∧ host.named? path = some file ∧
      locker.adopt host user =
        (.success, { locker with held := some { user := user, path := path } })) ∨
    (∃ status, status ≠ .success ∧ locker.adopt host user = (status, locker)) := by
  unfold adopt
  rcases found : locker.lockPath host user with status | path
  · exact Or.inr ⟨status, MailSettings.ne_success_of_lockPath found, rfl⟩
  · rcases looked : host.lstat path with error | ⟨file, details⟩
    · exact Or.inr ⟨.error, by simp, by simp [looked]⟩
    · refine Or.inl ⟨path, file, rfl, ?_, by simp [looked]⟩
      exact Host.named?_eq_some_iff.mpr ⟨details, looked⟩

namespace Acquisition

/-- What an acquisition keeps to its end: the two paths, the owner that it writes, and the process
and the settings of the locker. -/
structure Continues (work next : Acquisition) : Prop where
  lock : next.lock = work.lock
  temporary : next.temporary = work.temporary
  user : next.user = work.user
  owner : next.locker.recordedOwner = work.locker.recordedOwner
  process : next.locker.process = work.locker.process
  settings : next.locker.settings = work.locker.settings

theorem Continues.refl (work : Acquisition) : work.Continues work :=
  ⟨rfl, rfl, rfl, rfl, rfl, rfl⟩

theorem Continues.trans {work next last : Acquisition} (first : work.Continues next)
    (second : next.Continues last) : work.Continues last where
  lock := second.lock.trans first.lock
  temporary := second.temporary.trans first.temporary
  user := second.user.trans first.user
  owner := second.owner.trans first.owner
  process := second.process.trans first.process
  settings := second.settings.trans first.settings

theorem begin_eq (locker : Locker) (host : Host) (user lock : String) (retries : UInt32) :
    begin locker host user lock retries =
      ({ locker := locker
         user := user
         lock := lock
         temporary := temporaryPath lock locker.process (host.draw UInt32.size).1
         retries := retries
         stage := if locker.held.isSome then .releasing else .creating },
        (host.draw UInt32.size).2) :=
  rfl

theorem continues_wait (work : Acquisition) (host : Host) :
    work.Continues (work.wait host).1 := by
  unfold wait
  split
  · exact ⟨rfl, rfl, rfl, rfl, rfl, rfl⟩
  · exact ⟨rfl, rfl, rfl, rfl, rfl, rfl⟩

theorem continues_notLinked (work : Acquisition) (host : Host) (refusal : Option IoError) :
    work.Continues (work.notLinked host refusal).1 := by
  unfold notLinked
  split
  · exact ⟨rfl, rfl, rfl, rfl, rfl, rfl⟩
  · split
    · exact ⟨rfl, rfl, rfl, rfl, rfl, rfl⟩
    · exact ⟨rfl, rfl, rfl, rfl, rfl, rfl⟩

theorem continues_notBroken (work : Acquisition) (host : Host) (error : IoError) :
    work.Continues (work.notBroken host error).1 := by
  unfold notBroken
  split
  · exact ⟨rfl, rfl, rfl, rfl, rfl, rfl⟩
  · exact ⟨rfl, rfl, rfl, rfl, rfl, rfl⟩

theorem continues_finish (work : Acquisition) (host : Host) (status : MailLockStatus) :
    work.Continues (work.finish host status).1 := by
  unfold finish
  split
  · exact ⟨rfl, rfl, rfl, rfl, rfl, rfl⟩
  · exact ⟨rfl, rfl, rfl, rfl, rfl, rfl⟩

theorem continues_step (work : Acquisition) (host : Host) :
    work.Continues (work.step host).1 := by
  cases stage : work.stage with
  | releasing =>
      simp only [step, stage]
      have freed := Locker.locker_release work.locker host
      simp only [freed]
      exact ⟨rfl, rfl, rfl, rfl, rfl, rfl⟩
  | creating =>
      simp only [step, stage]
      split
      · exact ⟨rfl, rfl, rfl, rfl, rfl, rfl⟩
      · exact ⟨rfl, rfl, rfl, rfl, rfl, rfl⟩
  | writing file =>
      simp only [step, stage]
      split
      · exact ⟨rfl, rfl, rfl, rfl, rfl, rfl⟩
      · exact ⟨rfl, rfl, rfl, rfl, rfl, rfl⟩
  | discarding =>
      simp only [step, stage]
      exact ⟨rfl, rfl, rfl, rfl, rfl, rfl⟩
  | linking =>
      simp only [step, stage]
      split
      · exact ⟨rfl, rfl, rfl, rfl, rfl, rfl⟩
      · exact ⟨rfl, rfl, rfl, rfl, rfl, rfl⟩
  | comparing refusal =>
      simp only [step, stage]
      split
      · exact ⟨rfl, rfl, rfl, rfl, rfl, rfl⟩
      · exact work.continues_notLinked host refusal
  | comparingLock refusal file =>
      simp only [step, stage]
      split
      · split
        · exact ⟨rfl, rfl, rfl, rfl, rfl, rfl⟩
        · exact work.continues_notLinked host refusal
      · exact work.continues_notLinked host refusal
  | judging =>
      simp only [step, stage]
      split
      · split
        · exact ⟨rfl, rfl, rfl, rfl, rfl, rfl⟩
        · split
          · exact ⟨rfl, rfl, rfl, rfl, rfl, rfl⟩
          · exact work.continues_wait host
      · exact work.continues_wait host
  | readingOwner found =>
      simp only [step, stage]
      split
      · split
        · exact ⟨rfl, rfl, rfl, rfl, rfl, rfl⟩
        · exact work.continues_wait _
      · exact work.continues_wait _
  | askingOwner found owner =>
      simp only [step, stage]
      split
      · exact work.continues_wait host
      · exact ⟨rfl, rfl, rfl, rfl, rfl, rfl⟩
  | rechecking stale =>
      simp only [step, stage]
      split
      · exact ⟨rfl, rfl, rfl, rfl, rfl, rfl⟩
      · exact work.continues_notBroken host _
  | breaking stale =>
      simp only [step, stage]
      split
      · exact ⟨rfl, rfl, rfl, rfl, rfl, rfl⟩
      · exact work.continues_notBroken host _
  | resting wake =>
      simp only [step, stage]
      split
      · exact ⟨rfl, rfl, rfl, rfl, rfl, rfl⟩
      · exact ⟨rfl, rfl, rfl, rfl, rfl, rfl⟩
  | clearing status =>
      simp only [step, stage]
      exact work.continues_finish _ status
  | finished status =>
      rw [step_of_finished host stage]
      exact ⟨rfl, rfl, rfl, rfl, rfl, rfl⟩

/-- A step that changes no file and nothing about the locker but its counts, and after which the
link is not made. It leads to the removal of a lock only if the path of the lock still names the
file that was judged stale. -/
structure Refuses (work : Acquisition) (host : Host) (result : Acquisition × Host) : Prop where
  files : result.2.files = host.files
  held : result.1.locker.held = work.locker.held
  refused : result.1.stage.IsRefused
  judged : ∀ stale, result.1.stage = .breaking stale →
    work.stage = .rechecking stale ∧ host.named? work.lock = some stale

theorem refuses_wait (work : Acquisition) (host : Host) : Refuses work host (work.wait host) := by
  unfold wait
  split
  · exact ⟨rfl, rfl, by simp [atStage, AcquisitionStage.IsRefused], by simp [atStage]⟩
  · exact ⟨rfl, rfl, trivial, by simp⟩

theorem refuses_notLinked (work : Acquisition) (host : Host) (refusal : Option IoError) :
    Refuses work host (work.notLinked host refusal) := by
  unfold notLinked
  split
  · exact ⟨rfl, rfl, trivial, by simp [atStage]⟩
  · split
    · exact ⟨rfl, rfl, trivial, by simp [atStage]⟩
    · exact ⟨rfl, rfl, by simp [atStage, AcquisitionStage.IsRefused], by simp [atStage]⟩

theorem refuses_notBroken (work : Acquisition) (host : Host) (error : IoError) :
    Refuses work host (work.notBroken host error) := by
  unfold notBroken
  split
  · exact ⟨rfl, rfl, trivial, by simp [atStage]⟩
  · exact ⟨rfl, rfl, by simp [atStage, AcquisitionStage.IsRefused], by simp [atStage]⟩

theorem refuses_readingOwner {work : Acquisition} {lock : FileId} (host : Host)
    (stage : work.stage = .readingOwner lock) : Refuses work host (work.step host) := by
  have waits : ∀ closed, closed.files = host.files → Refuses work host (work.wait closed) := by
    intro closed sameFiles
    rcases work.refuses_wait closed with ⟨files, held, refused, judged⟩
    refine ⟨files.trans sameFiles, held, refused, ?_⟩
    intro stale breaking
    simp [stage] at judged
    exact absurd breaking (judged stale)
  have sameFiles : (host.read work.locker.process work.lock).2.files = host.files := by
    unfold Host.read
    split <;> rfl
  simp only [step, stage]
  split
  case h_1 content closed read =>
    rw [read] at sameFiles
    split
    · exact ⟨sameFiles, rfl, trivial, by simp [atStage]⟩
    · exact waits closed sameFiles
  case h_2 closed read =>
    rw [read] at sameFiles
    exact waits closed sameFiles

theorem refuses_rechecking {work : Acquisition} {stale : FileId} (host : Host)
    (stage : work.stage = .rechecking stale) : Refuses work host (work.step host) := by
  simp only [step, stage]
  split
  case h_1 found file looked =>
    by_cases same : found = stale
    · refine ⟨rfl, rfl, ?_, ?_⟩
      · simp [atStage, same, AcquisitionStage.IsRefused]
      · intro other breaking
        obtain rfl : stale = other := by simpa [atStage, same] using breaking
        exact ⟨stage, Host.named?_eq_some_iff.mpr ⟨file, same ▸ looked⟩⟩
    · refine ⟨rfl, rfl, ?_, ?_⟩
      · simp [atStage, same, AcquisitionStage.IsRefused]
      · simp [atStage, same]
  case h_2 error looked => exact work.refuses_notBroken host error

theorem refuses_step {work : Acquisition} (host : Host) (watching : work.stage.IsWatching) :
    Refuses work host (work.step host) := by
  cases stage : work.stage with
  | judging =>
      simp only [step, stage]
      split
      · split
        · exact ⟨rfl, rfl, trivial, by simp [atStage]⟩
        · split
          · exact ⟨rfl, rfl, trivial, by simp [atStage]⟩
          · exact work.refuses_wait host
      · exact work.refuses_wait host
  | readingOwner found => exact refuses_readingOwner host stage
  | askingOwner found owner =>
      simp only [step, stage]
      split
      · exact work.refuses_wait host
      · exact ⟨rfl, rfl, trivial, by simp [atStage]⟩
  | rechecking stale => exact refuses_rechecking host stage
  | resting wake =>
      simp only [step, stage]
      split
      · exact ⟨rfl, rfl, trivial, by simp [atStage]⟩
      · exact ⟨rfl, rfl, by simp [stage, AcquisitionStage.IsRefused], by simp [stage]⟩
  | releasing | creating | writing | discarding | linking | comparing | comparingLock | breaking
  | clearing | finished =>
      simp [stage, AcquisitionStage.IsWatching] at watching

/-- What a step of an acquisition does: which files it leaves, to which stage it leads and what is
held then. -/
inductive Effect (work : Acquisition) (host : Host) (result : Acquisition × Host) : Prop where
  | releases (stage : work.stage = .releasing) (next : result.1.stage = .creating)
      (held : result.1.locker.held = none)
      (files : result.2.files = (work.locker.release host).2.files)
  | creates (file : FileId) (stage : work.stage = .creating)
      (next : result.1.stage = .writing file) (held : result.1.locker.held = work.locker.held)
      (created : host.create work.temporary = .ok (file, result.2))
  | stops (stage : work.stage = .creating) (next : result.1.stage = .finished .temporaryLock)
      (held : result.1.locker.held = work.locker.held) (files : result.2.files = host.files)
  | fills (file : FileId) (stage : work.stage = .writing file) (next : result.1.stage = .linking)
      (held : result.1.locker.held = work.locker.held)
      (filled : host.fill file (ownerRecord work.locker.recordedOwner) = .ok result.2)
  | spoils (file : FileId) (stage : work.stage = .writing file)
      (next : result.1.stage = .discarding) (held : result.1.locker.held = work.locker.held)
      (files : result.2.files = host.files)
  | discards (stage : work.stage = .discarding) (next : result.1.stage = .finished .temporaryWrite)
      (held : result.1.locker.held = work.locker.held)
      (files : result.2.files = host.remaining work.temporary)
  | links (stage : work.stage = .linking) (next : result.1.stage = .comparing none)
      (held : result.1.locker.held = work.locker.held)
      (linked : host.link work.temporary work.lock = .ok result.2)
  | misses (error : IoError) (stage : work.stage = .linking)
      (next : result.1.stage = .comparing (some error))
      (held : result.1.locker.held = work.locker.held) (files : result.2.files = host.files)
  | compares (refusal : Option IoError) (file : FileId) (found : File)
      (stage : work.stage = .comparing refusal)
      (next : result.1.stage = .comparingLock refusal file)
      (held : result.1.locker.held = work.locker.held) (files : result.2.files = host.files)
      (looked : host.stat work.temporary = .ok (file, found))
  | confirms (refusal : Option IoError) (file : FileId) (found : File)
      (stage : work.stage = .comparingLock refusal file)
      (next : result.1.stage = .clearing .success)
      (held : result.1.locker.held = work.locker.held) (files : result.2.files = host.files)
      (looked : host.lstat work.lock = .ok (file, found))
  | refuses (refused : Refuses work host result) (written : work.stage.HasRecord)
      (unseen : ∀ refusal, work.stage = .comparing refusal →
        ∀ file found, host.stat work.temporary ≠ .ok (file, found))
      (other : ∀ refusal file, work.stage = .comparingLock refusal file →
        host.named? work.lock ≠ some file)
      (linked : work.stage ≠ .linking)
  | breaks (stale : FileId) (removed : Host) (stage : work.stage = .breaking stale)
      (next : result.1.stage = .linking) (held : result.1.locker.held = work.locker.held)
      (unlinked : host.unlink work.lock = .ok removed) (files : result.2.files = removed.files)
  | clears (status : MailLockStatus) (stage : work.stage = .clearing status)
      (next : result.1.stage = .finished status)
      (held : result.1.locker.held =
        if status = .success then some { user := work.user, path := work.lock }
        else work.locker.held)
      (files : result.2.files = host.remaining work.temporary)
  | rests (status : MailLockStatus) (stage : work.stage = .finished status)
      (same : result = (work, host))

theorem Effect.of_watching {work : Acquisition} (host : Host) (watching : work.stage.IsWatching) :
    Effect work host (work.step host) := by
  refine .refuses (refuses_step host watching) watching.hasRecord ?_ ?_ ?_
  · intro refusal stage
    simp [stage, AcquisitionStage.IsWatching] at watching
  · intro refusal file stage
    simp [stage, AcquisitionStage.IsWatching] at watching
  · intro stage
    simp [stage, AcquisitionStage.IsWatching] at watching

theorem effect_step (work : Acquisition) (host : Host) : Effect work host (work.step host) := by
  cases stage : work.stage with
  | releasing =>
      refine .releases stage ?_ ?_ ?_
      · simp [step, stage]
      · simp [step, stage, Locker.locker_release]
      · simp [step, stage]
  | creating =>
      rcases created : host.create work.temporary with error | ⟨file, after⟩
      · refine .stops stage ?_ ?_ ?_
        · simp [step, stage, created, giveUp, atStage]
        · simp [step, stage, created, giveUp, atStage, counting]
        · simp [step, stage, created, tell]
      · refine .creates file stage ?_ ?_ ?_
        · simp [step, stage, created, atStage]
        · simp [step, stage, created, atStage]
        · simp [step, stage, created]
  | writing file =>
      rcases filled : host.fill file (ownerRecord work.locker.recordedOwner) with error | after
      · refine .spoils file stage ?_ ?_ ?_
        · simp [step, stage, filled, atStage]
        · simp [step, stage, filled, atStage]
        · simp [step, stage, filled, tell]
      · refine .fills file stage ?_ ?_ ?_
        · simp [step, stage, filled, atStage]
        · simp [step, stage, filled, atStage]
        · simp [step, stage, filled]
  | discarding =>
      refine .discards stage ?_ ?_ ?_
      · simp [step, stage, giveUp, atStage]
      · simp [step, stage, giveUp, atStage, counting]
      · simp [step, stage, Host.remaining]
  | linking =>
      rcases linked : host.link work.temporary work.lock with error | after
      · refine .misses error stage ?_ ?_ ?_
        · simp [step, stage, linked, atStage]
        · simp [step, stage, linked, atStage]
        · simp [step, stage, linked]
      · refine .links stage ?_ ?_ ?_
        · simp [step, stage, linked, atStage]
        · simp [step, stage, linked, atStage]
        · simp [step, stage, linked]
  | comparing refusal =>
      rcases looked : host.stat work.temporary with error | ⟨file, found⟩
      · have result : work.step host = work.notLinked host refusal := by
          simp [step, stage, looked]
        refine .refuses ?_ ?_ ?_ ?_ ?_
        · rw [result]
          exact work.refuses_notLinked host refusal
        · simp [stage, AcquisitionStage.HasRecord, AcquisitionStage.UsesTemporary]
        · simp [looked]
        · simp [stage]
        · simp [stage]
      · refine .compares refusal file found stage ?_ ?_ ?_ looked
        · simp [step, stage, looked, atStage]
        · simp [step, stage, looked, atStage]
        · simp [step, stage, looked]
  | comparingLock refusal file =>
      by_cases same : host.named? work.lock = some file
      · rcases Host.named?_eq_some_iff.mp same with ⟨found, looked⟩
        refine .confirms refusal file found stage ?_ ?_ ?_ looked
        · simp [step, stage, looked, atStage]
        · simp [step, stage, looked, atStage]
        · simp [step, stage, looked]
      · have result : work.step host = work.notLinked host refusal := by
          rcases looked : host.lstat work.lock with error | ⟨other, found⟩
          · simp [step, stage, looked]
          · have different : other ≠ file := by
              rintro rfl
              exact same (Host.named?_eq_some_iff.mpr ⟨found, looked⟩)
            simp [step, stage, looked, different]
        refine .refuses ?_ ?_ ?_ ?_ ?_
        · rw [result]
          exact work.refuses_notLinked host refusal
        · simp [stage, AcquisitionStage.HasRecord, AcquisitionStage.UsesTemporary]
        · simp [stage]
        · intro _ _ sameStage
          cases stage.symm.trans sameStage
          exact same
        · simp [stage]
  | breaking stale =>
      rcases unlinked : host.unlink work.lock with error | removed
      · have result : work.step host = work.notBroken host error := by
          simp [step, stage, unlinked]
        refine .refuses ?_ ?_ ?_ ?_ ?_
        · rw [result]
          exact work.refuses_notBroken host error
        · simp [stage, AcquisitionStage.HasRecord, AcquisitionStage.UsesTemporary]
        · simp [stage]
        · simp [stage]
        · simp [stage]
      · refine .breaks stale removed stage ?_ ?_ unlinked ?_
        · simp [step, stage, unlinked, atStage]
        · simp [step, stage, unlinked, atStage, counting]
        · simp [step, stage, unlinked, tell]
  | clearing status =>
      refine .clears status stage ?_ ?_ ?_
      · simp only [step, stage, finish]
        split <;> rfl
      · simp only [step, stage, finish, MailLockStatus.isSuccess, decide_eq_true_eq]
        split <;> rfl
      · simp only [step, stage, finish, tell]
        split <;> rfl
  | finished status => exact .rests status stage (step_of_finished host stage)
  | judging | readingOwner | askingOwner | rechecking | resting =>
      exact .of_watching host (by simp [stage, AcquisitionStage.IsWatching])

/-- A lock is removed only after a second look at it. -/
theorem rechecking_of_breaking {work : Acquisition} {host : Host} {stale : FileId}
    (breaking : (work.step host).1.stage = .breaking stale) : work.stage = .rechecking stale := by
  have effect := effect_step work host
  generalize work.step host = result at effect breaking
  cases effect with
  | refuses refused written unseen other linked => exact (refused.judged stale breaking).1
  | rests status ended same =>
      rw [same] at breaking
      exact absurd (ended.symm.trans breaking) (by simp)
  | releases _ next | creates _ _ next | stops _ next | fills _ _ next | spoils _ _ next
  | discards _ next | links _ next | misses _ _ next | compares _ _ _ _ next
  | confirms _ _ _ _ next | breaks _ _ _ next | clears _ _ next =>
      exact absurd (next.symm.trans breaking) (by simp)

/-- What is held changes when it is given back and when a lock is taken. -/
theorem held_step (work : Acquisition) (host : Host) :
    (work.step host).1.locker.held = work.locker.held ∨
      (work.step host).1.locker.held = none ∨ work.stage = .clearing .success := by
  have effect := effect_step work host
  generalize work.step host = result at effect
  cases effect with
  | releases stage next held files => exact Or.inr (Or.inl held)
  | clears status stage next held files =>
      by_cases success : status = .success
      · exact Or.inr (Or.inr (success ▸ stage))
      · rw [if_neg success] at held
        exact Or.inl held
  | refuses refused written unseen other linked => exact Or.inl refused.held
  | rests status stage same =>
      rw [same]
      exact Or.inl rfl
  | creates _ stage next held | stops stage next held | fills _ stage next held
  | spoils _ stage next held | discards stage next held | links stage next held
  | misses _ stage next held | compares _ _ _ stage next held | confirms _ _ _ stage next held
  | breaks _ _ stage next held =>
      exact Or.inl held

end Acquisition

end MailSpool

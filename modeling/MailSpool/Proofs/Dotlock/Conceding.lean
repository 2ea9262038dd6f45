import MailSpool.Proofs.Dotlock.Outcome
import MailSpool.Proofs.FileSystem.Beside
import MailSpool.Proofs.Host.Stillness

/-!
# Conceding a lock

A locker that finds a lock which is neither old nor without a living owner goes through few stages
only: it makes its temporary file, is refused the link because the lock is there, finds the lock
fresh and its owner alive, rests, and at last gives up. All the time it `Concedes`: the files are
those at its start and the temporary file. So in the end it leaves the contents of all directories
as they were, by `concedes_of_acquire`. It fails for another reason only if it could not make or
write its temporary file.
-/

namespace MailSpool

open FileSystem

namespace Host

/-- Neither its age nor its owner tells that a lock is stale, given the clock and the processes of
a host. -/
structure Heeds (host : Host) (settings : MailSettings) (file : File) : Prop where
  fresh : settings.isOutdated host.now file = false
  alive : ∀ content owner, file.node = .regular content → ownerOfContent content = some owner →
    host.isAlive owner = true

/-- A temporary file can be made at a path, and written. -/
def CanPrepare (host : Host) (path : String) : Prop :=
  host.IsVacant path ∧ host.writeFault = none

variable {host before after : Host} {settings : MailSettings} {file : File} {path : String}

/-- A lock that a host `Heeds` at the end of a while was heeded all the time. -/
theorem Heeds.of_precedes (heeds : after.Heeds settings file) (precedes : before.Precedes after) :
    before.Heeds settings file where
  fresh := by
    have fresh := heeds.fresh
    simp only [MailSettings.isOutdated, decide_eq_false_iff_not, Int.not_lt] at fresh ⊢
    exact Int.le_trans (Int.sub_le_sub_right precedes.now _) fresh
  alive content owner regular isOwner :=
    precedes.alive owner (heeds.alive content owner regular isOwner)

theorem Heeds.of_traits {other : File} (heeds : host.Heeds settings file)
    (same : other.traits = file.traits) : host.Heeds settings other where
  fresh := by
    have fresh := heeds.fresh
    simp only [File.traits, Prod.mk.injEq] at same
    rwa [MailSettings.isOutdated, same.2.1]
  alive content owner regular isOwner := by
    simp only [File.traits, Prod.mk.injEq] at same
    exact heeds.alive content owner (same.1 ▸ regular) isOwner

theorem files_read (host : Host) (process : ProcessId) (path : String) :
    (host.read process path).2.files = host.files := by
  rcases host.read_snd process path with same | ⟨file, found, _, same⟩
  · rw [same]
  · rw [same]
    rfl

end Host

/-- What there is at a stage of an acquisition that concedes a lock, of which an owner is told. It
may have failed because its temporary file could not be made or written. -/
def AcquisitionStage.Concedes (stage : AcquisitionStage) (start host : Host) (temporary : String)
    (owner? : Option ProcessId) : Prop :=
  match stage with
  | .creating => host.files = start.files ∧ host.writeFault = start.writeFault
  | .writing own => OneMore start host temporary own ∧ host.writeFault = start.writeFault
  | .discarding => ¬start.CanPrepare temporary ∧ ∃ own, OneMore start host temporary own
  | .linking | .judging | .readingOwner _ | .resting _ | .clearing .maxTries =>
    ∃ own, OneMore start host temporary own
  | .comparing (some refusal) =>
    refusal.kind = .alreadyExists ∧ ∃ own, OneMore start host temporary own
  | .comparingLock (some refusal) own =>
    refusal.kind = .alreadyExists ∧ OneMore start host temporary own
  | .askingOwner _ owner => owner? = some owner ∧ ∃ own, OneMore start host temporary own
  | .finished .maxTries => SameContents start.files host.files
  | .finished .temporaryLock | .finished .temporaryWrite =>
    ¬start.CanPrepare temporary ∧ SameContents start.files host.files
  | _ => False

namespace Acquisition

variable {start host : Host} {work : Acquisition} {owner? : Option ProcessId}

theorem concedes_wait (prepared : ∃ own, OneMore start host work.temporary own) :
    (work.wait host).1.stage.Concedes start (work.wait host).2 work.temporary owner? := by
  unfold wait
  split
  · exact prepared
  · exact prepared.imp fun _ isOneMore => isOneMore.of_files rfl

section Lock

variable {file : FileId} {found : File} {content : ByteArray}
  (looked : start.lstat work.lock = .ok (file, found)) (regular : found.node = .regular content)
include looked regular

theorem concedes_linking (stage : work.stage = .linking)
    (prepared : ∃ own, OneMore start host work.temporary own) :
    (work.step host).1.stage.Concedes start (work.step host).2 work.temporary owner? := by
  rcases prepared with ⟨own, prepared⟩
  rcases prepared.exists_lstat with ⟨made, _, here, _⟩
  rcases prepared.exists_lstat_other looked regular with ⟨_, later, stillLooked, _⟩
  have refused : host.link work.temporary work.lock = .error (.system .alreadyExists) :=
    Host.link_eq_error prepared.writable here stillLooked
  simp only [step, stage, refused]
  exact ⟨rfl, own, prepared⟩

theorem concedes_comparingLock {refusal : IoError} {own : FileId}
    (stage : work.stage = .comparingLock (some refusal) own)
    (refused : refusal.kind = .alreadyExists) (prepared : OneMore start host work.temporary own) :
    (work.step host).1.stage.Concedes start (work.step host).2 work.temporary owner? := by
  rcases prepared.exists_lstat_other looked regular with ⟨different, later, stillLooked, _⟩
  simp only [step, stage, stillLooked, if_neg different, notLinked, if_pos refused]
  exact ⟨own, prepared⟩

theorem concedes_judging (stage : work.stage = .judging)
    (prepared : ∃ own, OneMore start host work.temporary own)
    (heeds : host.Heeds work.locker.settings found) :
    (work.step host).1.stage.Concedes start (work.step host).2 work.temporary owner? := by
  rcases prepared with ⟨own, prepared⟩
  rcases prepared.exists_lstat_other looked regular with ⟨_, later, stillLooked, same⟩
  simp only [step, stage, stillLooked, (heeds.of_traits same).fresh, Bool.false_eq_true, if_false]
  split
  · exact ⟨own, prepared⟩
  · exact concedes_wait ⟨own, prepared⟩

theorem concedes_readingOwner {lock : FileId} (stage : work.stage = .readingOwner lock)
    (prepared : ∃ own, OneMore start host work.temporary own) :
    (work.step host).1.stage.Concedes start (work.step host).2 work.temporary
      (ownerOfContent content) := by
  rcases prepared with ⟨own, prepared⟩
  have startRead : (start.read work.locker.process work.lock).1 = .ok content := by
    rcases Host.lstat_eq_ok_iff.mp looked with ⟨writable, isFound⟩
    rcases find_eq_ok_iff.mp isFound with ⟨place, located, ends, isFile⟩
    exact Host.read_of_names writable ⟨place, located, ends⟩ (by simp [node?, isFile, regular]) _
  have read : (host.read work.locker.process work.lock).1 = .ok content :=
    Host.read_of_keepsNames prepared.beside.keepsNames
      prepared.beside.resets.narrows.toSameKinds prepared.beside.retains startRead
  have closed : OneMore start (host.read work.locker.process work.lock).2 work.temporary own :=
    prepared.of_files (host.files_read _ _)
  simp only [step, stage]
  split
  case h_1 other after isRead =>
    rw [isRead] at read closed
    cases read
    split
    case h_1 owner isOwner => exact ⟨isOwner, own, closed⟩
    case h_2 => exact concedes_wait ⟨own, closed⟩
  case h_2 error after isRead =>
    rw [isRead] at read
    cases read

end Lock

theorem concedes_creating (sound : start.files.Sound) (stage : work.stage = .creating)
    (files : host.files = start.files) (fault : host.writeFault = start.writeFault) :
    (work.step host).1.stage.Concedes start (work.step host).2 work.temporary owner? := by
  rcases created : host.create work.temporary with error | ⟨own, after⟩
  · simp only [step, stage, created]
    refine ⟨?_, files ▸ SameContents.refl host.files⟩
    rintro ⟨⟨writable, vacant⟩, _⟩
    rcases Host.exists_create_of_isVacant ⟨writable, files ▸ vacant⟩ with ⟨_, _, made⟩
    simp [made] at created
  · simp only [step, stage, created]
    have made := Host.create_eq_ok created
    rw [files] at made
    refine ⟨⟨beside_create sound made.1, Host.isWritable_of_create created⟩, ?_⟩
    rw [made.2]
    exact fault

theorem concedes_writing {own : FileId} (stage : work.stage = .writing own)
    (prepared : OneMore start host work.temporary own)
    (fault : host.writeFault = start.writeFault) :
    (work.step host).1.stage.Concedes start (work.step host).2 work.temporary owner? := by
  rcases filled : host.fill own (ownerRecord work.locker.recordedOwner) with error | after
  · simp only [step, stage, filled]
    refine ⟨?_, own, prepared.of_files rfl⟩
    intro able
    simp [Host.fill, fault, able.2] at filled
  · simp only [step, stage, filled]
    refine ⟨own, ?_, prepared.writable⟩
    rw [Host.fill_eq_ok filled]
    exact prepared.beside.setContent _ _

theorem concedes_comparing {refusal : IoError} (stage : work.stage = .comparing (some refusal))
    (refused : refusal.kind = .alreadyExists)
    (prepared : ∃ own, OneMore start host work.temporary own) :
    (work.step host).1.stage.Concedes start (work.step host).2 work.temporary owner? := by
  rcases prepared with ⟨own, prepared⟩
  rcases compared : host.stat work.temporary with error | ⟨file, found⟩
  · simp only [step, stage, compared, notLinked, if_pos refused]
    exact ⟨own, prepared⟩
  · simp only [step, stage, compared]
    exact ⟨refused, prepared.eq_of_stat compared ▸ prepared⟩

theorem concedes_askingOwner {lock : FileId} {owner : ProcessId}
    (stage : work.stage = .askingOwner lock owner) (alive : host.isAlive owner = true)
    (prepared : ∃ own, OneMore start host work.temporary own) :
    (work.step host).1.stage.Concedes start (work.step host).2 work.temporary owner? := by
  simp only [step, stage, alive, if_true]
  exact concedes_wait prepared

theorem concedes_resting {wake : Instant} (stage : work.stage = .resting wake)
    (prepared : ∃ own, OneMore start host work.temporary own) :
    (work.step host).1.stage.Concedes start (work.step host).2 work.temporary owner? := by
  simp only [step, stage]
  split
  · exact prepared
  · rw [stage]
    exact prepared

theorem concedes_ending (stage : work.stage = .clearing .maxTries ∨
      work.stage = .discarding ∧ ¬start.CanPrepare work.temporary)
    (prepared : ∃ own, OneMore start host work.temporary own) :
    (work.step host).1.stage.Concedes start (work.step host).2 work.temporary owner? := by
  rcases prepared with ⟨own, prepared⟩
  rcases stage with stage | ⟨stage, unable⟩
  · simp only [step, stage]
    exact prepared.sameContents_remaining
  · simp only [step, stage]
    exact ⟨unable, prepared.sameContents_remaining⟩

end Acquisition

theorem Acquisition.precedes_round (state : Acquisition × Host) :
    state.2.Precedes (round state).2 := by
  rcases round_eq_step state with ⟨later, same, _, isLater⟩
  rw [same]
  refine Host.Precedes.trans ?_ (state.1.precedes_step later)
  rcases isLater with rfl | ⟨wake, _, rfl⟩
  · exact .refl _
  · exact .elapseUntil _ _

/-- What holds in the course of an acquisition that has begun on a still host and concedes a lock
with a content. -/
structure Concedes (start : Host) (begun : Acquisition) (content : ByteArray)
    (state : Acquisition × Host) : Prop where
  continues : begun.Continues state.1
  still : state.2.IsStill
  stage : state.1.stage.Concedes start state.2 begun.temporary (ownerOfContent content)

namespace Concedes

variable {start host : Host} {begun work : Acquisition} {file : FileId} {found : File}
  {content : ByteArray}

/-- `Concedes` is kept by a step that is made while the lock is heeded. -/
theorem step (concedes : Concedes start begun content (work, host)) (sound : start.files.Sound)
    (looked : start.lstat begun.lock = .ok (file, found))
    (regular : found.node = .regular content)
    (heeds : host.Heeds begun.locker.settings found) :
    Concedes start begun content (work.step host) where
  continues := concedes.continues.trans (work.continues_step host)
  still := concedes.still.of_agenda (work.sameClock_step host).agenda
  stage := by
    have here := concedes.stage
    rw [← concedes.continues.settings] at heeds
    rw [← concedes.continues.lock] at looked
    simp only [← concedes.continues.temporary] at here ⊢
    cases stage : work.stage with
    | releasing => simp [AcquisitionStage.Concedes, stage] at here
    | creating =>
        rw [stage] at here
        exact Acquisition.concedes_creating sound stage here.1 here.2
    | writing own =>
        rw [stage] at here
        exact Acquisition.concedes_writing stage here.1 here.2
    | discarding =>
        rw [stage] at here
        exact Acquisition.concedes_ending (.inr ⟨stage, here.1⟩) here.2
    | linking =>
        rw [stage] at here
        exact Acquisition.concedes_linking looked regular stage here
    | comparing refusal =>
        rcases refusal with _ | refusal
        · simp [AcquisitionStage.Concedes, stage] at here
        · rw [stage] at here
          exact Acquisition.concedes_comparing stage here.1 here.2
    | comparingLock refusal own =>
        rcases refusal with _ | refusal
        · simp [AcquisitionStage.Concedes, stage] at here
        · rw [stage] at here
          exact Acquisition.concedes_comparingLock looked regular stage here.1 here.2
    | judging =>
        rw [stage] at here
        exact Acquisition.concedes_judging looked regular stage here heeds
    | readingOwner lock =>
        rw [stage] at here
        exact Acquisition.concedes_readingOwner looked regular stage here
    | askingOwner lock owner =>
        rw [stage] at here
        exact Acquisition.concedes_askingOwner stage (heeds.alive content owner regular here.1)
          here.2
    | rechecking stale => simp [AcquisitionStage.Concedes, stage] at here
    | breaking stale => simp [AcquisitionStage.Concedes, stage] at here
    | resting wake =>
        rw [stage] at here
        exact Acquisition.concedes_resting stage here
    | clearing status =>
        cases status with
        | maxTries =>
            rw [stage] at here
            exact Acquisition.concedes_ending (.inl stage) here
        | _ => simp [AcquisitionStage.Concedes, stage] at here
    | finished status =>
        rw [Acquisition.step_of_finished host stage]
        exact here

theorem elapse (concedes : Concedes start begun content (work, host)) {wake : Instant}
    (stage : work.stage = .resting wake) :
    Concedes start begun content (work, host.elapseUntil wake) where
  continues := concedes.continues
  still := (concedes.still.elapseUntil wake).2
  stage := by
    have here := concedes.stage
    simp only [stage] at here ⊢
    exact here.imp fun _ prepared => prepared.of_files (concedes.still.elapseUntil wake).1

/-- `Concedes` is kept by a round that ends while the lock is heeded. -/
theorem round {state : Acquisition × Host} (concedes : Concedes start begun content state)
    (sound : start.files.Sound) (looked : start.lstat begun.lock = .ok (file, found))
    (regular : found.node = .regular content)
    (heeds : (Acquisition.round state).2.Heeds begun.locker.settings found) :
    Concedes start begun content (Acquisition.round state) := by
  rcases Acquisition.round_eq_step state with ⟨later, same, _, isLater⟩
  rw [same] at heeds ⊢
  have heedsNow := heeds.of_precedes (state.1.precedes_step later)
  rcases isLater with rfl | ⟨wake, stage, rfl⟩
  · exact concedes.step sound looked regular heedsNow
  · exact (concedes.elapse stage).step sound looked regular heedsNow

theorem iterate {state : Acquisition × Host} (concedes : Concedes start begun content state)
    (sound : start.files.Sound) (looked : start.lstat begun.lock = .ok (file, found))
    (regular : found.node = .regular content) (count : Nat)
    (heeds : (Acquisition.round^[count] state).2.Heeds begun.locker.settings found) :
    Concedes start begun content (Acquisition.round^[count] state) := by
  induction count with
  | zero => exact concedes
  | succ count ih =>
      rw [Function.iterate_succ_apply'] at heeds ⊢
      have before := ih (heeds.of_precedes (Acquisition.precedes_round _))
      exact before.round sound looked regular heeds

end Concedes

namespace Locker

variable {locker next : Locker} {host after : Host} {user lock : String} {retries : UInt32}
  {status : MailLockStatus} {file : FileId} {found : File} {content : ByteArray}

/-- Whoever comes for a lock that the host `Heeds` to the end leaves everything as it was. A locker
that `CanPrepare` its temporary file gives up after as many tries as it was given. -/
theorem concedes_of_acquire (sound : host.files.Sound) (still : host.IsStill)
    (free : locker.held = none) (isLock : locker.lockPath host user = .ok lock)
    (looked : host.lstat lock = .ok (file, found)) (regular : found.node = .regular content)
    (heeds : after.Heeds locker.settings found)
    (acquired : locker.acquire host user retries = (status, next, after)) :
    SameContents host.files after.files ∧ after.IsStill ∧ status ≠ .success ∧
      (host.CanPrepare (temporaryPath lock locker.process (host.draw UInt32.size).1) →
        status = .maxTries) := by
  rcases exists_finished_of_acquire sound isLock acquired with
    ⟨count, done, rfl, ended, _, rfl, _⟩
  have begun : Concedes host (Acquisition.begin locker host user lock retries).1 content
      (Acquisition.begin locker host user lock retries) := by
    rw [Acquisition.begin_eq, free]
    exact ⟨.refl _, still, rfl, rfl⟩
  rw [Acquisition.begin_eq] at begun heeds ended ⊢
  have conceded := begun.iterate sound looked regular count heeds
  have last := conceded.stage
  rw [ended] at last
  dsimp only at last
  cases status with
  | maxTries => exact ⟨last, conceded.still, by simp, fun _ => rfl⟩
  | temporaryLock => exact ⟨last.2, conceded.still, by simp, fun able => absurd able last.1⟩
  | temporaryWrite => exact ⟨last.2, conceded.still, by simp, fun able => absurd able last.1⟩
  | success => exact last.elim
  | nameLength => exact last.elim
  | error => exact last.elim

end Locker

end MailSpool

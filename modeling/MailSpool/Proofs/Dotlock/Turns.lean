import MailSpool.Proofs.Dotlock.Steps
import MailSpool.Proofs.Host.Occupied

/-!
# Turns

From the first attempt to link on, an acquisition goes round: a link that was refused because the
lock is there leads to a judgement of the lock, and from there to the next link, after a rest, or at
once when the lock was stale and is gone. What a step in this round does is told by `Turn` in full:
to which stage it leads and on what condition, whether it counts as an attempt, and what it does to
files. Nothing is assumed of what has happened since the step before.
-/

namespace MailSpool

open FileSystem

namespace AcquisitionStage

/-- A stage of the round, or the end. -/
def IsRound (stage : AcquisitionStage) : Prop :=
  stage.HasRecord ∨ ∃ status, stage = .finished status

/-- A stage at which the lock is judged. -/
def IsJudging : AcquisitionStage → Prop
  | .judging | .readingOwner _ | .askingOwner _ _ => True
  | _ => False

end AcquisitionStage

namespace Acquisition

/-- What a step of the round does. -/
inductive Turn (work : Acquisition) (host : Host) (result : Acquisition × Host) : Prop where
  | links (stage : work.stage = .linking) (next : result.1.stage = .comparing none)
      (attempt : result.1.attempt = work.attempt)
      (linked : host.link work.temporary work.lock = .ok result.2)
  | misses (error : IoError) (stage : work.stage = .linking)
      (next : result.1.stage = .comparing (some error)) (attempt : result.1.attempt = work.attempt)
      (files : result.2.files = host.files)
      (refused : host.link work.temporary work.lock = .error error)
  | compares (refusal : Option IoError) (file : FileId) (found : File)
      (stage : work.stage = .comparing refusal)
      (next : result.1.stage = .comparingLock refusal file)
      (attempt : result.1.attempt = work.attempt) (files : result.2.files = host.files)
      (looked : host.stat work.temporary = .ok (file, found))
  /-- The temporary file is not found, or is not the lock. -/
  | doubts (refusal : Option IoError)
      (stage : (work.stage = .comparing refusal ∧
          ∀ found, host.stat work.temporary ≠ .ok found) ∨
        ∃ file, work.stage = .comparingLock refusal file ∧ host.named? work.lock ≠ some file)
      (taken : ∀ error, refusal = some error → error.kind = .alreadyExists)
      (next : result.1.stage = .judging) (attempt : result.1.attempt = work.attempt)
      (files : result.2.files = host.files)
  | suspects (lock : FileId) (stage : work.stage = .judging)
      (named : host.named? work.lock = some lock)
      (next : result.1.stage = .readingOwner lock ∨ result.1.stage = .rechecking lock)
      (attempt : result.1.attempt = work.attempt) (files : result.2.files = host.files)
  | reads (lock : FileId) (owner : ProcessId) (stage : work.stage = .readingOwner lock)
      (next : result.1.stage = .askingOwner lock owner)
      (attempt : result.1.attempt = work.attempt) (files : result.2.files = host.files)
  | condemns (lock : FileId) (owner : ProcessId) (stage : work.stage = .askingOwner lock owner)
      (next : result.1.stage = .rechecking lock) (attempt : result.1.attempt = work.attempt)
      (files : result.2.files = host.files)
  | rechecks (lock : FileId) (stage : work.stage = .rechecking lock)
      (named : host.named? work.lock = some lock) (next : result.1.stage = .breaking lock)
      (attempt : result.1.attempt = work.attempt) (files : result.2.files = host.files)
  | breaks (lock : FileId) (removed : Host) (stage : work.stage = .breaking lock)
      (next : result.1.stage = .linking) (attempt : result.1.attempt = work.attempt)
      (unlinked : host.unlink work.lock = .ok removed) (files : result.2.files = removed.files)
  /-- The lock that was judged is gone: another file is there, or none. -/
  | retries (lock : FileId) (stage : work.stage = .rechecking lock ∨ work.stage = .breaking lock)
      (gone : host.named? work.lock ≠ some lock) (next : result.1.stage = .linking)
      (attempt : result.1.attempt = work.attempt) (files : result.2.files = host.files)
  | rests (wake : Instant) (stage : work.stage.IsJudging) (next : result.1.stage = .resting wake)
      (may : work.attempt.toNat < work.retries.toNat)
      (attempt : result.1.attempt.toNat = work.attempt.toNat + 1)
      (files : result.2.files = host.files)
  | wakes (wake : Instant) (stage : work.stage = .resting wake) (awake : wake ≤ host.now)
      (next : result.1.stage = .linking) (attempt : result.1.attempt = work.attempt)
      (files : result.2.files = host.files)
  | sleeps (wake : Instant) (stage : work.stage = .resting wake) (early : ¬wake ≤ host.now)
      (same : result = (work, host))
  | confirms (refusal : Option IoError) (file : FileId)
      (stage : work.stage = .comparingLock refusal file)
      (named : host.named? work.lock = some file) (next : result.1.stage = .clearing .success)
      (attempt : result.1.attempt = work.attempt) (files : result.2.files = host.files)
  | abandons (status : MailLockStatus)
      (stage : work.stage.HasRecord ∧ work.stage ≠ .linking ∧ ∀ other, work.stage ≠ .clearing other)
      (next : result.1.stage = .clearing status) (attempt : result.1.attempt = work.attempt)
      (files : result.2.files = host.files)
  | clears (status : MailLockStatus) (stage : work.stage = .clearing status)
      (next : result.1.stage = .finished status) (attempt : result.1.attempt = work.attempt)
      (files : result.2.files = host.remaining work.temporary)
  | stays (status : MailLockStatus) (stage : work.stage = .finished status)
      (same : result = (work, host))

variable {work : Acquisition} {host : Host}

theorem turn_wait {after : Host} (judging : work.stage.IsJudging)
    (files : after.files = host.files) : Turn work host (work.wait after) := by
  unfold wait
  split
  case isTrue =>
    refine .abandons .maxTries ?_ rfl rfl files
    revert judging
    cases work.stage <;>
      simp [AcquisitionStage.IsJudging, AcquisitionStage.HasRecord, AcquisitionStage.UsesTemporary]
  case isFalse may =>
    have less : work.attempt.toNat < work.retries.toNat := by
      rwa [UInt32.not_le, UInt32.lt_iff_toNat_lt] at may
    refine .rests _ judging rfl less ?_ files
    have small := work.retries.toNat_lt
    simp only [UInt32.toNat_add, UInt32.toNat_one]
    omega

theorem turn_notLinked {refusal : Option IoError}
    (stage : (work.stage = .comparing refusal ∧ ∀ found, host.stat work.temporary ≠ .ok found) ∨
      ∃ file, work.stage = .comparingLock refusal file ∧ host.named? work.lock ≠ some file) :
    Turn work host (work.notLinked host refusal) := by
  have going : work.stage.HasRecord ∧ work.stage ≠ .linking ∧
      ∀ other, work.stage ≠ .clearing other := by
    rcases stage with ⟨isStage, _⟩ | ⟨file, isStage, _⟩
    · simp [isStage, AcquisitionStage.HasRecord, AcquisitionStage.UsesTemporary]
    · simp [isStage, AcquisitionStage.HasRecord, AcquisitionStage.UsesTemporary]
  unfold notLinked
  split
  case h_1 => exact .doubts none stage (by simp) rfl rfl rfl
  case h_2 error =>
    split
    case isTrue taken => exact .doubts (some error) stage (by simp [taken]) rfl rfl rfl
    case isFalse => exact .abandons .error going rfl rfl rfl

theorem turn_notBroken {error : IoError} {lock : FileId}
    (stage : work.stage = .rechecking lock ∨ work.stage = .breaking lock)
    (gone : error.kind = .notFound → host.named? work.lock ≠ some lock) :
    Turn work host (work.notBroken host error) := by
  unfold notBroken
  split
  case isTrue absent => exact .retries lock stage (gone absent) rfl rfl rfl
  case isFalse =>
    refine .abandons .error ?_ rfl rfl rfl
    rcases stage with isStage | isStage <;>
      simp [isStage, AcquisitionStage.HasRecord, AcquisitionStage.UsesTemporary]

theorem turn_comparing {refusal : Option IoError} (stage : work.stage = .comparing refusal) :
    Turn work host (work.step host) := by
  rcases looked : host.stat work.temporary with error | ⟨file, found⟩
  · simp only [step, stage, looked]
    exact turn_notLinked (Or.inl ⟨stage, by simp [looked]⟩)
  · simp only [step, stage, looked]
    exact .compares refusal file found stage rfl rfl rfl looked

theorem turn_comparingLock {refusal : Option IoError} {file : FileId}
    (stage : work.stage = .comparingLock refusal file) : Turn work host (work.step host) := by
  rcases looked : host.lstat work.lock with error | ⟨other, found⟩
  · have unnamed : host.named? work.lock ≠ some file := by
      simp [Host.named?, looked, Except.toOption]
    simp only [step, stage, looked]
    exact turn_notLinked (Or.inr ⟨file, stage, unnamed⟩)
  · have named : host.named? work.lock = some other :=
      Host.named?_eq_some_iff.mpr ⟨found, looked⟩
    simp only [step, stage, looked]
    split
    case isTrue same => exact .confirms refusal file stage (same ▸ named) rfl rfl rfl
    case isFalse different =>
      refine turn_notLinked (Or.inr ⟨file, stage, ?_⟩)
      rw [named]
      exact fun same => different (Option.some.inj same)

theorem turn_judging (stage : work.stage = .judging) : Turn work host (work.step host) := by
  have judging : work.stage.IsJudging := by simp [stage, AcquisitionStage.IsJudging]
  rcases looked : host.lstat work.lock with error | ⟨lock, found⟩
  · simp only [step, stage, looked]
    exact turn_wait judging rfl
  · have named : host.named? work.lock = some lock :=
      Host.named?_eq_some_iff.mpr ⟨found, looked⟩
    simp only [step, stage, looked]
    split
    · exact .suspects lock stage named (Or.inr rfl) rfl rfl
    · split
      · exact .suspects lock stage named (Or.inl rfl) rfl rfl
      · exact turn_wait judging rfl

theorem turn_readingOwner {lock : FileId} (stage : work.stage = .readingOwner lock) :
    Turn work host (work.step host) := by
  have judging : work.stage.IsJudging := by simp [stage, AcquisitionStage.IsJudging]
  have sameFiles : (host.read work.locker.process work.lock).2.files = host.files := by
    unfold Host.read
    split <;> rfl
  simp only [step, stage]
  split
  case h_1 content closed read =>
    rw [read] at sameFiles
    split
    case h_1 owner _ => exact .reads lock owner stage rfl rfl sameFiles
    case h_2 => exact turn_wait judging sameFiles
  case h_2 error closed read =>
    rw [read] at sameFiles
    exact turn_wait judging sameFiles

theorem turn_rechecking {lock : FileId} (stage : work.stage = .rechecking lock) :
    Turn work host (work.step host) := by
  rcases looked : host.lstat work.lock with error | ⟨other, found⟩
  · simp only [step, stage, looked]
    refine turn_notBroken (Or.inl stage) fun _ => ?_
    simp [Host.named?, looked, Except.toOption]
  · have named : host.named? work.lock = some other :=
      Host.named?_eq_some_iff.mpr ⟨found, looked⟩
    simp only [step, stage, looked]
    by_cases same : other = lock
    · subst same
      exact .rechecks other stage named (by simp [atStage]) rfl rfl
    · refine .retries lock (Or.inl stage) ?_ (by simp [atStage, same]) rfl rfl
      rw [named]
      exact fun isLock => same (Option.some.inj isLock)

theorem turn_breaking {lock : FileId} (stage : work.stage = .breaking lock) :
    Turn work host (work.step host) := by
  rcases unlinked : host.unlink work.lock with error | removed
  · simp only [step, stage, unlinked]
    refine turn_notBroken (Or.inr stage) fun absent named => ?_
    exact Host.kind_of_unlink_error named unlinked absent
  · simp only [step, stage, unlinked]
    exact .breaks lock removed stage rfl rfl unlinked rfl

theorem turn_step (host : Host) (isRound : work.stage.IsRound) :
    Turn work host (work.step host) := by
  cases stage : work.stage with
  | linking =>
      rcases linked : host.link work.temporary work.lock with error | after
      · simp only [step, stage, linked]
        exact .misses error stage rfl rfl rfl linked
      · simp only [step, stage, linked]
        exact .links stage rfl rfl linked
  | comparing refusal => exact turn_comparing stage
  | comparingLock refusal file => exact turn_comparingLock stage
  | judging => exact turn_judging stage
  | readingOwner lock => exact turn_readingOwner stage
  | askingOwner lock owner =>
      simp only [step, stage]
      split
      · exact turn_wait (by simp [stage, AcquisitionStage.IsJudging]) rfl
      · exact .condemns lock owner stage rfl rfl rfl
  | rechecking lock => exact turn_rechecking stage
  | breaking lock => exact turn_breaking stage
  | resting wake =>
      by_cases awake : wake ≤ host.now
      · simp only [step, stage, if_pos awake]
        exact .wakes wake stage awake rfl rfl rfl
      · simp only [step, stage, if_neg awake]
        exact .sleeps wake stage awake rfl
  | clearing status =>
      refine .clears status stage ?_ ?_ ?_
      · simp only [step, stage, finish]
        split <;> rfl
      · simp only [step, stage, finish]
        split <;> rfl
      · simp only [step, stage, finish, tell]
        split <;> rfl
  | finished status => exact .stays status stage (step_of_finished host stage)
  | releasing | creating | writing | discarding =>
      simp [stage, AcquisitionStage.IsRound, AcquisitionStage.HasRecord,
        AcquisitionStage.UsesTemporary] at isRound

/-! ## The number of retries -/

theorem retries_wait (work : Acquisition) (host : Host) :
    (work.wait host).1.retries = work.retries := by
  unfold wait
  split <;> rfl

theorem retries_notLinked (work : Acquisition) (host : Host) (refusal : Option IoError) :
    (work.notLinked host refusal).1.retries = work.retries := by
  unfold notLinked
  split
  · rfl
  · split <;> rfl

theorem retries_notBroken (work : Acquisition) (host : Host) (error : IoError) :
    (work.notBroken host error).1.retries = work.retries := by
  unfold notBroken
  split <;> rfl

theorem retries_finish (work : Acquisition) (host : Host) (status : MailLockStatus) :
    (work.finish host status).1.retries = work.retries := by
  unfold finish
  split <;> rfl

theorem retries_step (work : Acquisition) (host : Host) :
    (work.step host).1.retries = work.retries := by
  cases stage : work.stage with
  | clearing status =>
      simp only [step, stage]
      exact work.retries_finish _ status
  | comparing | comparingLock | judging | readingOwner | askingOwner | rechecking | breaking =>
      simp only [step, stage]
      repeat' split
      all_goals simp [atStage, counting, retries_wait, retries_notLinked, retries_notBroken]
  | releasing | finished => simp only [step, stage]
  | discarding =>
      simp only [step, stage]
      rfl
  | creating | writing | linking | resting =>
      simp only [step, stage]
      split <;> rfl

end Acquisition

end MailSpool

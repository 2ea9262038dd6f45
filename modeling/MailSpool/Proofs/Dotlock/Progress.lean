import MailSpool.Proofs.Dotlock.NewFiles
import MailSpool.Proofs.Host.Occupied

/-!
# Nearer to the end with every step

Between two rests nobody else acts, so what an acquisition has seen is still so at its next step:
a lock that was judged is still there, a lock that was removed is gone, and one that was just
linked is the new file. Hence the link after the removal of a stale lock cannot find a lock again,
and an attempt that does not take the lock comes to a rest, of which there are as many as the
locker may retry.

The measure `rank` of what is left counts the steps to the end of the last attempt. It is smaller
after each step that an acquisition makes when its rest is over.
-/

namespace MailSpool

open FileSystem

/-- Whether a link was refused because the lock is there. -/
def isRefused (refusal : Option IoError) : Bool :=
  refusal.any fun error => error.kind = .alreadyExists

/-- A bound for the number of steps to the end, given how often the locker may still rest and
whether the lock is there. An attempt that comes to a rest takes seven steps. -/
def AcquisitionStage.rank (left : Nat) (occupied : Bool) : AcquisitionStage → Nat
  | .releasing => 7 * left + 15
  | .creating => 7 * left + 14
  | .writing _ | .resting _ => 7 * left + 13
  | .linking => if occupied then 7 * left + 12 else 4
  | .comparing refusal => if isRefused refusal then 7 * left + 11 else 3
  | .comparingLock refusal _ => if isRefused refusal then 7 * left + 10 else 2
  | .judging => 7 * left + 9
  | .readingOwner _ => 7 * left + 8
  | .askingOwner _ _ => 7 * left + 7
  | .rechecking _ => 6
  | .breaking _ => 5
  | .discarding | .clearing _ => 1
  | .finished _ => 0

/-- A stage from the link that made the lock on, or the end at which the lock is taken. -/
def AcquisitionStage.HasLock (stage : AcquisitionStage) : Prop :=
  stage.HasLinked ∨ stage = .finished .success

namespace Acquisition

/-- How often the locker may still rest. -/
def left (work : Acquisition) : Nat :=
  work.retries.toNat - work.attempt.toNat

def rank (work : Acquisition) (host : Host) : Nat :=
  work.stage.rank work.left (host.files.isOccupied work.lock)

/-- What an acquisition has seen is so: the lock that it judges is there, its owner is read only if
owners count, and the file that was linked is a new one and is the lock. -/
def Sees (start : FileSystem) (work : Acquisition) (host : Host) : Prop :=
  match work.stage with
  | .comparing none => ∃ file, start.file file = none ∧ host.named? work.lock = some file ∧
      host.files.Names work.temporary file
  | .comparingLock none file => start.file file = none ∧ host.named? work.lock = some file
  | .comparingLock (some _) file => start.file file = none
  | .clearing .success | .finished .success =>
      ∃ file, start.file file = none ∧ host.named? work.lock = some file
  | .readingOwner found =>
      host.named? work.lock = some found ∧ work.locker.settings.checkOwner = true
  | .askingOwner found _ | .rechecking found | .breaking found =>
      host.named? work.lock = some found
  | _ => True

/-- A step that leaves true what was seen, and after which less is left. -/
structure Advances (start : FileSystem) (work : Acquisition) (host : Host)
    (result : Acquisition × Host) : Prop where
  sees : Sees start result.1 result.2
  rank : result.1.rank result.2 < work.rank host

variable {start : FileSystem} {work : Acquisition} {host : Host}

theorem rank_of_stage {stage : AcquisitionStage} (isStage : work.stage = stage) :
    work.rank host = stage.rank work.left (host.files.isOccupied work.lock) := by
  rw [rank, isStage]

@[simp]
theorem rank_atStage (work : Acquisition) (host : Host) (stage : AcquisitionStage) :
    (work.atStage stage).rank host =
      stage.rank work.left (host.files.isOccupied work.lock) :=
  rfl

theorem advances_atStage {stage next : AcquisitionStage} {after : Host}
    (isStage : work.stage = stage) (sees : Sees start (work.atStage next) after)
    (less : ∀ now earlier, next.rank work.left now < stage.rank work.left earlier) :
    Advances start work host (work.atStage next, after) where
  sees := sees
  rank := by
    rw [rank_of_stage isStage]
    exact less _ _

theorem advances_wait {stage : AcquisitionStage} (after : Host) (isStage : work.stage = stage)
    (large : ∀ occupied, 7 * work.left + 7 ≤ stage.rank work.left occupied) :
    Advances start work host (work.wait after) := by
  have wide : 7 * work.left + 7 ≤ work.rank host := by
    rw [rank_of_stage isStage]
    exact large _
  unfold wait
  split
  · refine ⟨trivial, ?_⟩
    simp only [rank_atStage, AcquisitionStage.rank]
    omega
  case isFalse may =>
    refine ⟨trivial, ?_⟩
    have less : work.attempt.toNat < work.retries.toNat := by
      rwa [UInt32.not_le, UInt32.lt_iff_toNat_lt] at may
    have next : (work.attempt + 1).toNat = work.attempt.toNat + 1 := by
      have small := work.retries.toNat_lt
      rw [UInt32.toNat_add]
      simp only [UInt32.toNat_one]
      omega
    change 7 * (work.retries.toNat - (work.attempt + 1).toNat) + 13 < work.rank host
    unfold left at wide
    omega

theorem advances_notLinked {error : IoError} (small : 1 < work.rank host)
    (large : isRefused (some error) → 7 * work.left + 10 ≤ work.rank host) :
    Advances start work host (work.notLinked host (some error)) := by
  simp only [notLinked]
  split
  case isTrue isThere =>
    refine ⟨trivial, ?_⟩
    have wide := large (by simp [isRefused, isThere])
    simp only [rank_atStage, AcquisitionStage.rank]
    omega
  case isFalse =>
    refine ⟨trivial, ?_⟩
    simp only [rank_atStage, AcquisitionStage.rank]
    exact small

theorem advances_linking (stems : work.Stems start host.files) (stage : work.stage = .linking) :
    Advances start work host (work.step host) := by
  have uses : work.stage.UsesTemporary := by simp [stage, AcquisitionStage.UsesTemporary]
  rcases linked : host.link work.temporary work.lock with error | after
  · have result : work.step host = (work.atStage (.comparing (some error)), host) := by
      simp only [step, stage, linked]
    rw [result]
    refine ⟨trivial, ?_⟩
    rw [rank_of_stage stage]
    simp only [rank_atStage, AcquisitionStage.rank]
    split
    case isTrue refused =>
      have isThere : error.kind = .alreadyExists := by simpa [isRefused] using refused
      rw [if_pos (Host.isOccupied_of_link_error linked isThere)]
      omega
    case isFalse => split <;> omega
  · have result : work.step host = (work.atStage (.comparing none), after) := by
      simp only [step, stage, linked]
    rw [result]
    rcases stems.link_cases uses linked with
      ⟨_, _, id, isNew, known, names, resets, _, _, retains, _⟩
    have plain := stems.plain_of_new isNew
    have stillKnown := retains.isSome known plain.1 (by simp)
    refine ⟨⟨id, isNew, ?_, ?_⟩, ?_⟩
    · refine Host.named?_eq_some_iff_names.mpr ⟨?_, resets.names_iff.mpr rfl, stillKnown⟩
      exact (Host.link_eq_ok linked).2.2.2
    · exact resets.names names (by simp)
    · rw [rank_of_stage stage]
      simp only [rank_atStage, AcquisitionStage.rank, isRefused, Option.any_none,
        Bool.false_eq_true, if_false]
      split <;> omega

theorem Stems.names_of_stat (stems : work.Stems start host.files)
    (uses : work.stage.UsesTemporary) {file : FileId} {found : File}
    (looked : host.stat work.temporary = .ok (file, found)) :
    host.files.Names work.temporary file ∧
      ∀ other, host.files.Names work.temporary other → other = file := by
  have isFound := (Host.stat_eq_ok_iff.mp looked).2
  have unique : ∀ other, host.files.Names work.temporary other → other = file := by
    intro other names
    have plain := (stems.plain_of_new (stems.new_of_names uses names)).2
    exact (names.leads.find plain isFound).symm
  refine ⟨?_, unique⟩
  by_contra unnamed
  have same : host.files.locate true work.temporary = host.files.locate false work.temporary := by
    apply locate_follow
    intro directory name child located
    exact (stems.plain_of_new (stems.fresh uses directory name child located)).2
  rcases find_eq_ok_iff.mp isFound with ⟨place, located, ends, _⟩
  exact unnamed ⟨place, same ▸ located, ends⟩

theorem Stems.exists_stat (stems : work.Stems start host.files)
    (stage : work.stage = .comparing none) (sees : work.Sees start host) :
    ∃ file found, host.stat work.temporary = .ok (file, found) := by
  have uses : work.stage.UsesTemporary := by simp [stage, AcquisitionStage.UsesTemporary]
  simp only [Sees, stage] at sees
  rcases sees with ⟨linked, isNew, named, names⟩
  have known := (Host.named?_eq_some_iff_names.mp named).2.2
  rcases Host.exists_stat_of_names (stems.writable uses) names (stems.plain_of_new isNew).2
    known with ⟨details, found⟩
  exact ⟨linked, details, found⟩

theorem advances_comparing (stems : work.Stems start host.files) {refusal : Option IoError}
    (stage : work.stage = .comparing refusal) (sees : work.Sees start host) :
    Advances start work host (work.step host) := by
  have uses : work.stage.UsesTemporary := by simp [stage, AcquisitionStage.UsesTemporary]
  rcases looked : host.stat work.temporary with error | ⟨file, found⟩
  · have result : work.step host = work.notLinked host refusal := by
      simp only [step, stage, looked]
    rw [result]
    cases refusal with
    | none =>
        rcases stems.exists_stat stage sees with ⟨linked, details, found⟩
        rw [looked] at found
        simp at found
    | some error =>
        apply advances_notLinked
        · rw [rank_of_stage stage]
          simp only [AcquisitionStage.rank]
          split <;> omega
        · intro refused
          rw [rank_of_stage stage]
          simp only [AcquisitionStage.rank, refused, if_true]
          omega
  · have result : work.step host = (work.atStage (.comparingLock refusal file), host) := by
      simp only [step, stage, looked]
    rw [result]
    rcases stems.names_of_stat uses looked with ⟨namesFile, unique⟩
    have isNew := stems.new_of_names uses namesFile
    refine advances_atStage stage ?_ ?_
    · cases refusal with
      | none =>
          simp only [Sees, stage] at sees
          rcases sees with ⟨linked, _, named, names⟩
          rw [unique linked names] at named
          exact ⟨isNew, named⟩
      | some error => exact isNew
    · simp only [AcquisitionStage.rank]
      split <;> omega

theorem advances_comparingLock {refusal : Option IoError} {file : FileId}
    (stage : work.stage = .comparingLock refusal file) (sees : work.Sees start host) :
    Advances start work host (work.step host) := by
  have less : 1 < work.rank host := by
    rw [rank_of_stage stage]
    simp only [AcquisitionStage.rank]
    split <;> omega
  simp only [Sees, stage] at sees
  by_cases same : host.named? work.lock = some file
  · rcases Host.named?_eq_some_iff.mp same with ⟨found, looked⟩
    have result : work.step host = (work.atStage (.clearing .success), host) := by
      simp only [step, stage, looked, if_true]
    rw [result]
    refine ⟨⟨file, ?_, same⟩, less⟩
    cases refusal with
    | none => exact sees.1
    | some error => exact sees
  · cases refusal with
    | none => exact absurd sees.2 same
    | some error =>
        have result : work.step host = work.notLinked host (some error) := by
          rcases looked : host.lstat work.lock with failure | ⟨other, found⟩
          · simp only [step, stage, looked]
          · have different : other ≠ file := by
              rintro rfl
              exact same (Host.named?_eq_some_iff.mpr ⟨found, looked⟩)
            simp only [step, stage, looked, different, if_false]
        rw [result]
        apply advances_notLinked less
        intro refused
        rw [rank_of_stage stage]
        simp only [AcquisitionStage.rank, refused, if_true]
        omega

theorem advances_judging (stage : work.stage = .judging) :
    Advances start work host (work.step host) := by
  have waits : Advances start work host (work.wait host) :=
    advances_wait host stage (by simp [AcquisitionStage.rank])
  rcases looked : host.lstat work.lock with error | ⟨found, file⟩
  · simp only [step, stage, looked]
    exact waits
  · have named : host.named? work.lock = some found :=
      Host.named?_eq_some_iff.mpr ⟨file, looked⟩
    simp only [step, stage, looked]
    split
    · refine advances_atStage stage named ?_
      simp only [AcquisitionStage.rank]
      omega
    · split
      case isTrue checks =>
        exact advances_atStage stage ⟨named, checks⟩ (by simp [AcquisitionStage.rank])
      case isFalse => exact waits

theorem advances_readingOwner {owned : FileId} (stage : work.stage = .readingOwner owned)
    (sees : work.Sees start host) : Advances start work host (work.step host) := by
  have waits : ∀ closed, Advances start work host (work.wait closed) :=
    fun closed => advances_wait closed stage (by simp [AcquisitionStage.rank])
  have sameFiles : (host.read work.locker.process work.lock).2.files = host.files := by
    unfold Host.read
    split <;> rfl
  simp only [Sees, stage] at sees
  simp only [step, stage]
  split
  case h_1 content closed read =>
    rw [read] at sameFiles
    split
    · exact advances_atStage stage ((Host.named?_congr sameFiles work.lock).trans sees.1)
        (by simp [AcquisitionStage.rank])
    · exact waits closed
  case h_2 error closed read => exact waits closed

theorem advances_askingOwner {owned : FileId} {owner : ProcessId}
    (stage : work.stage = .askingOwner owned owner) (sees : work.Sees start host) :
    Advances start work host (work.step host) := by
  simp only [Sees, stage] at sees
  simp only [step, stage]
  split
  · exact advances_wait host stage (by simp [AcquisitionStage.rank])
  · refine advances_atStage stage sees ?_
    simp only [AcquisitionStage.rank]
    omega

theorem advances_rechecking {stale : FileId} (stage : work.stage = .rechecking stale)
    (sees : work.Sees start host) : Advances start work host (work.step host) := by
  simp only [Sees, stage] at sees
  rcases Host.named?_eq_some_iff.mp sees with ⟨file, looked⟩
  simp only [step, stage, looked, if_true]
  exact advances_atStage stage sees (by simp [AcquisitionStage.rank])

theorem advances_breaking {stale : FileId} (stage : work.stage = .breaking stale)
    (sees : work.Sees start host) : Advances start work host (work.step host) := by
  have isFive : work.rank host = 5 := by
    rw [rank_of_stage stage]
    rfl
  simp only [Sees, stage] at sees
  rcases removed : host.unlink work.lock with error | after
  · have other : error.kind ≠ .notFound := Host.kind_of_unlink_error sees removed
    simp only [step, stage, removed, notBroken, other, if_false]
    refine ⟨trivial, ?_⟩
    simp only [rank_atStage, AcquisitionStage.rank, isFive]
    omega
  · have gone : after.files.isOccupied work.lock = false :=
      not_isOccupied_of_unlink (Host.unlink_eq_ok removed).1
    simp only [step, stage, removed]
    refine ⟨trivial, ?_⟩
    rw [isFive, rank_atStage]
    change AcquisitionStage.rank work.left (after.files.isOccupied work.lock) .linking < 5
    rw [gone]
    simp only [AcquisitionStage.rank, Bool.false_eq_true, if_false]
    omega

theorem Stems.named?_remaining (stems : work.Stems start host.files)
    (uses : work.stage.UsesTemporary) {file : FileId} (isNew : start.file file = none)
    (named : host.named? work.lock = some file) {after : Host}
    (files : after.files = host.remaining work.temporary) :
    after.named? work.lock = some file := by
  rcases host.remaining_cases work.temporary with same | removed
  · rw [Host.named?_congr (files.trans same)]
    exact named
  rw [← files] at removed
  rcases Host.named?_eq_some_iff_names.mp named with ⟨writable, names, known⟩
  rcases unlink_spec removed with ⟨directory, name, id, located, _, sets, retains, _⟩
  have lies : host.files.LiesAt work.temporary directory name id := located
  refine Host.named?_eq_some_iff_names.mpr ⟨writable, ?_, ?_⟩
  · refine names.sets sets (stems.widens_of_unlink uses removed) ?_
    intro lockLocated
    exact stems.apart lies lockLocated rfl
  · exact retains.isSome known (stems.plain_of_new isNew).1 (by simp)

theorem advances_clearing (stems : work.Stems start host.files) {status : MailLockStatus}
    (stage : work.stage = .clearing status) (sees : work.Sees start host) :
    Advances start work host (work.step host) := by
  have uses : work.stage.UsesTemporary := by simp [stage, AcquisitionStage.UsesTemporary]
  have next : (work.step host).1.stage = .finished status := by
    simp only [step, stage, finish]
    split <;> rfl
  have files : (work.step host).2.files = host.remaining work.temporary := by
    simp only [step, stage, finish, tell]
    split <;> rfl
  refine ⟨?_, ?_⟩
  · cases status with
    | success =>
        simp only [Sees, stage] at sees
        simp only [Sees, next, (continues_step work host).lock]
        rcases sees with ⟨file, isNew, named⟩
        exact ⟨file, isNew, stems.named?_remaining uses isNew named files⟩
    | nameLength | temporaryLock | temporaryWrite | maxTries | error => simp only [Sees, next]
  · rw [rank_of_stage stage, rank_of_stage next]
    simp only [AcquisitionStage.rank]
    omega

/-- Whatever an acquisition does next, when its rest is over, `Advances` it to its end. -/
theorem advances_step (stems : work.Stems start host.files) (sees : work.Sees start host)
    (going : ∀ status, work.stage ≠ .finished status)
    (rested : ∀ wake, work.stage = .resting wake → wake ≤ host.now) :
    Advances start work host (work.step host) := by
  cases stage : work.stage with
  | releasing =>
      refine ⟨?_, ?_⟩
      · simp only [step, stage, Sees]
      · rw [rank_of_stage stage]
        simp only [step, stage, rank, left, AcquisitionStage.rank]
        omega
  | creating =>
      simp only [step, stage]
      split
      · exact advances_atStage stage trivial (by simp [AcquisitionStage.rank])
      · refine ⟨trivial, ?_⟩
        rw [rank_of_stage stage]
        simp only [giveUp, rank_atStage, AcquisitionStage.rank]
        omega
  | writing file =>
      simp only [step, stage]
      split
      · refine advances_atStage stage trivial ?_
        intro now earlier
        simp only [AcquisitionStage.rank]
        split <;> omega
      · refine advances_atStage stage trivial ?_
        simp only [AcquisitionStage.rank]
        omega
  | discarding =>
      simp only [step, stage]
      refine ⟨trivial, ?_⟩
      rw [rank_of_stage stage]
      simp only [giveUp, rank_atStage, AcquisitionStage.rank]
      omega
  | resting wake =>
      simp only [step, stage, if_pos (rested wake stage)]
      refine advances_atStage stage trivial ?_
      intro now earlier
      simp only [AcquisitionStage.rank]
      split <;> omega
  | linking => exact advances_linking stems stage
  | comparing refusal => exact advances_comparing stems stage sees
  | comparingLock refusal file => exact advances_comparingLock stage sees
  | judging => exact advances_judging stage
  | readingOwner owned => exact advances_readingOwner stage sees
  | askingOwner owned owner => exact advances_askingOwner stage sees
  | rechecking stale => exact advances_rechecking stage sees
  | breaking stale => exact advances_breaking stage sees
  | clearing status => exact advances_clearing stems stage sees
  | finished status => exact absurd stage (going status)

/-- A lock that was taken is kept to the end. -/
theorem hasLock_step (stems : work.Stems start host.files) (sees : work.Sees start host)
    (has : work.stage.HasLock) : (work.step host).1.stage.HasLock := by
  rcases has with linked | ended
  · cases stage : work.stage with
    | comparing refusal =>
        cases refusal with
        | none =>
            rcases stems.exists_stat stage sees with ⟨file, found, looked⟩
            left
            simp only [step, stage, looked]
            trivial
        | some error => simp [stage, AcquisitionStage.HasLinked] at linked
    | comparingLock refusal file =>
        cases refusal with
        | none =>
            simp only [Sees, stage] at sees
            rcases Host.named?_eq_some_iff.mp sees.2 with ⟨found, looked⟩
            left
            simp only [step, stage, looked, if_true]
            trivial
        | some error => simp [stage, AcquisitionStage.HasLinked] at linked
    | clearing status =>
        cases status with
        | success =>
            right
            simp only [step, stage, finish]
            rfl
        | nameLength | temporaryLock | temporaryWrite | maxTries | error =>
            simp [stage, AcquisitionStage.HasLinked] at linked
    | releasing | creating | writing | discarding | linking | judging | readingOwner
    | askingOwner | rechecking | breaking | resting | finished =>
        simp [stage, AcquisitionStage.HasLinked] at linked
  · rw [step_of_finished host ended]
    exact Or.inr ended

end Acquisition

end MailSpool

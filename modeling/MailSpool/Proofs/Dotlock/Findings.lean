import MailSpool.Proofs.Dotlock.Rests
import MailSpool.Proofs.Dotlock.Rounds
import MailSpool.Proofs.FileSystem.Beside

/-!
# What a locker finds at the path of a lock

At each attempt a locker finds one of the four things of `Finding`: nothing, a lock that it
respects, a stale lock, or a directory that is as old as a stale lock. This file tells the course of
an acquisition from one such find to the next one or to the end, stage by stage, given that nobody
else acts. Only the reading of an owner is not quite without effect, so a find is told of any host
that is `Alike` to the one at the attempt.
-/

namespace MailSpool

open FileSystem

/-- What a locker can find at the path of a lock. -/
inductive Finding where
  | free
  /-- An entry that is not stale. -/
  | fresh
  /-- A stale entry of a file that can be removed. -/
  | stale
  | staleDirectory
  deriving DecidableEq, Repr

/-- The owner that a process reads in the file to which a path leads. -/
def Host.toldOwner (host : Host) (process : ProcessId) (path : String) : Option ProcessId :=
  (host.read process path).1.toOption.bind ownerOfContent

/-- The file to which a path leads has a `toldOwner` that is dead. -/
def Host.tellsDeadOwner (host : Host) (process : ProcessId) (path : String) : Bool :=
  match (host.read process path).1 with
  | .ok content => (ownerOfContent content).any fun owner => !host.isAlive owner
  | .error _ => false

theorem Host.tellsDeadOwner_eq (host : Host) (process : ProcessId) (path : String) :
    host.tellsDeadOwner process path =
      (host.toldOwner process path).any fun owner => !host.isAlive owner := by
  unfold tellsDeadOwner toldOwner
  rcases (host.read process path).1 with error | content
  · rfl
  · rfl

namespace Locker

/-- An entry is stale by its age, as `isOutdated` tells, or because its owner is dead. -/
def isStale (locker : Locker) (host : Host) (lock : String) (file : File) : Bool :=
  locker.settings.isOutdated host.now file ||
    (locker.settings.checkOwner && host.tellsDeadOwner locker.process lock)

def finding (locker : Locker) (host : Host) (lock : String) : Finding :=
  match host.lstat lock with
  | .error _ => .free
  | .ok (_, file) =>
    if !locker.isStale host lock file then .fresh
    else if file.isDirectory then .staleDirectory
    else .stale

variable {locker : Locker} {host other : Host} {lock : String}

theorem finding_eq_free_iff : locker.finding host lock = .free ↔ host.named? lock = none := by
  unfold finding Host.named?
  split
  case h_1 error looked => simp [looked, Except.toOption]
  case h_2 id file looked =>
    simp only [looked, Except.toOption]
    split
    · simp
    · split <;> simp

theorem finding_of_alike (alike : host.Alike other) :
    locker.finding other lock = locker.finding host lock := by
  unfold finding isStale Host.tellsDeadOwner
  simp only [Host.lstat_congr alike.files, Host.read_fst_congr alike.files locker.process,
    alike.now, alike.isAlive]

theorem isOutdated_of_le (settings : MailSettings) {file : File} {now : Instant}
    (later : now ≤ file.modified) : settings.isOutdated now file = false := by
  simp only [MailSettings.isOutdated, decide_eq_false_iff_not, Int.not_lt]
  exact Int.le_trans (Int.sub_nonpos_of_le later) (Int.natCast_nonneg _)

end Locker

namespace Acquisition

/-! ## Courses -/

/-- Rounds lead from one state to another. -/
def Reaches (state next : Acquisition × Host) : Prop :=
  ∃ count, round^[count] state = next

namespace Reaches

variable {state next last : Acquisition × Host} {status : MailLockStatus}

theorem refl (state : Acquisition × Host) : Reaches state state :=
  ⟨0, rfl⟩

theorem trans (first : Reaches state next) (second : Reaches next last) : Reaches state last := by
  rcases first with ⟨early, rfl⟩
  rcases second with ⟨late, rfl⟩
  exact ⟨late + early, Function.iterate_add_apply ..⟩

theorem of_step {work : Acquisition} {host : Host} (same : work.step host = next)
    (awake : ∀ wake, work.stage ≠ .resting wake) : Reaches (work, host) next := by
  refine ⟨1, ?_⟩
  rcases round_eq_step (work, host) with ⟨later, result, _, rfl | ⟨wake, stage, _⟩⟩
  · exact result.trans same
  · exact absurd stage (awake wake)

/-- The end that an acquisition `Reaches` is the one at which it has ended after enough rounds. -/
theorem eq_of_finished (reaches : Reaches state next) (ended : next.1.stage = .finished status)
    {count : Nat} {other : MailLockStatus}
    (otherEnded : (round^[count] state).1.stage = .finished other) :
    round^[count] state = next := by
  rcases reaches with ⟨steps, rfl⟩
  rcases Nat.le_total steps count with less | more
  · rcases Nat.exists_eq_add_of_le' less with ⟨rest, rfl⟩
    rw [Function.iterate_add_apply, Function.iterate_fixed (round_of_finished ended)]
  · rcases Nat.exists_eq_add_of_le' more with ⟨rest, rfl⟩
    rw [Function.iterate_add_apply, Function.iterate_fixed (round_of_finished otherEnded)]

end Reaches

variable {work : Acquisition} {start host : Host} {own lock : FileId} {found : File}

/-! ## To the first attempt -/

theorem reaches_of_unmade {error : IoError} (stage : work.stage = .creating)
    (refused : host.create work.temporary = .error error) :
    ∃ after, host.Alike after ∧ Reaches (work, host) (work.giveUp .temporaryLock, after) := by
  have told : host.Alike (work.tell host (.temporaryNotCreated work.temporary error)) :=
    (Host.Alike.refl host).tell _ _
  refine ⟨_, told, .of_step ?_ (by simp [stage])⟩
  simp only [step, stage, refused]

theorem reaches_of_unwritten {created : Host} {error : IoError} (stage : work.stage = .creating)
    (made : host.create work.temporary = .ok (own, created))
    (failed : created.fill own (ownerRecord work.locker.recordedOwner) = .error error) :
    ∃ after, (created.perform (.unlink work.temporary)).Alike after ∧
      Reaches (work, host) (work.giveUp .temporaryWrite, after) := by
  have creates : Reaches (work, host) (work.atStage (.writing own), created) :=
    .of_step (by simp only [step, stage, made]) (by simp [stage])
  have spoils : Reaches (work.atStage (.writing own), created) (work.atStage .discarding,
      work.tell created (.temporaryNotWritten work.temporary error)) := by
    refine .of_step ?_ (by simp [atStage])
    simp only [step, atStage, failed]
    rfl
  have told : created.Alike (work.tell created (.temporaryNotWritten work.temporary error)) :=
    (Host.Alike.refl created).tell _ _
  refine ⟨_, told.perform (.unlink work.temporary), (creates.trans spoils).trans
    (.of_step ?_ (by simp [atStage]))⟩
  simp only [step, atStage]
  rfl

theorem reaches_of_written {created ready : Host} (stage : work.stage = .creating)
    (made : host.create work.temporary = .ok (own, created))
    (written : created.fill own (ownerRecord work.locker.recordedOwner) = .ok ready) :
    Reaches (work, host) (work.atStage .linking, ready) := by
  have creates : Reaches (work, host) (work.atStage (.writing own), created) :=
    .of_step (by simp only [step, stage, made]) (by simp [stage])
  refine creates.trans (.of_step ?_ (by simp [atStage]))
  simp only [step, atStage, written]

/-! ## From an attempt to link on -/

/-- A lock that is there is judged. -/
theorem reaches_judging (stage : work.stage = .linking)
    (more : OneMore start host work.temporary own)
    (looked : host.lstat work.lock = .ok (lock, found)) (different : lock ≠ own) :
    Reaches (work, host) (work.atStage .judging, host) := by
  rcases more.exists_lstat with ⟨made, text, here, regular⟩
  rcases more.beside.regular with ⟨content, isRegular⟩
  rcases Host.exists_stat more.writable more.beside.names isRegular with ⟨file, stands, _⟩
  have refused := Host.link_eq_error more.writable here looked
  have tried : Reaches (work, host)
      (work.atStage (.comparing (some (.system .alreadyExists))), host) :=
    .of_step (by simp only [step, stage, refused]) (by simp [stage])
  have compared : Reaches (work.atStage (.comparing (some (.system .alreadyExists))), host)
      (work.atStage (.comparingLock (some (.system .alreadyExists)) own), host) :=
    .of_step (by simp only [step, atStage, stands]) (by simp [atStage])
  have doubted : Reaches (work.atStage (.comparingLock (some (.system .alreadyExists)) own), host)
      (work.atStage .judging, host) := by
    refine .of_step ?_ (by simp [atStage])
    simp only [step, atStage, looked, if_neg different]
    rfl
  exact (tried.trans compared).trans doubted

theorem reaches_success {linked : Host} {content : ByteArray} (stage : work.stage = .linking)
    (made : host.link work.temporary work.lock = .ok linked)
    (leads : host.files.Leads work.temporary own)
    (regular : host.files.node? own = some (.regular content)) :
    Reaches (work, host) (work.atStage (.clearing .success), linked) := by
  have named := Host.named?_of_leads made leads regular
  rcases Host.named?_existing_of_link made named regular with ⟨stillNamed, stillRegular⟩
  rcases Host.named?_eq_some_iff_names.mp stillNamed with ⟨writable, names, known⟩
  rcases Host.exists_stat writable names stillRegular with ⟨file, stands, _⟩
  rcases Host.named?_eq_some_iff.mp (Host.named?_of_link made named regular) with
    ⟨found, looked⟩
  have tried : Reaches (work, host) (work.atStage (.comparing none), linked) :=
    .of_step (by simp only [step, stage, made]) (by simp [stage])
  have compared : Reaches (work.atStage (.comparing none), linked)
      (work.atStage (.comparingLock none own), linked) :=
    .of_step (by simp only [step, atStage, stands]) (by simp [atStage])
  have confirmed : Reaches (work.atStage (.comparingLock none own), linked)
      (work.atStage (.clearing .success), linked) := by
    refine .of_step ?_ (by simp [atStage])
    simp only [step, atStage, looked, if_true]
  exact (tried.trans compared).trans confirmed

theorem reaches_error {error : IoError} (stage : work.stage = .linking)
    (refused : host.link work.temporary work.lock = .error error)
    (unnamed : host.named? work.lock = none) (free : error.kind ≠ .alreadyExists) :
    ∃ after, host.Alike after ∧ Reaches (work, host) (work.atStage (.clearing .error), after) := by
  refine ⟨work.tell host (.notLinked work.temporary work.lock error),
    (Host.Alike.refl host).tell _ _, ?_⟩
  have tried : Reaches (work, host) (work.atStage (.comparing (some error)), host) :=
    .of_step (by simp only [step, stage, refused]) (by simp [stage])
  refine tried.trans ?_
  rcases stands : host.stat work.temporary with failure | ⟨file, found⟩
  · refine .of_step ?_ (by simp [atStage])
    simp only [step, atStage, stands, notLinked, if_neg free]
    rfl
  · have compared : Reaches (work.atStage (.comparing (some error)), host)
        (work.atStage (.comparingLock (some error) file), host) :=
      .of_step (by simp only [step, atStage, stands]) (by simp [atStage])
    refine compared.trans (.of_step ?_ (by simp [atStage]))
    rcases looked : host.lstat work.lock with absent | ⟨lock, found⟩
    · simp only [step, atStage, looked, notLinked, if_neg free]
      rfl
    · simp [Host.named?, looked, Except.toOption] at unnamed

/-! ## From the judgement of a lock on -/

theorem step_of_readingOwner (host : Host) (stage : work.stage = .readingOwner lock) :
    work.step host =
      match host.toldOwner work.locker.process work.lock with
      | some owner =>
        (work.atStage (.askingOwner lock owner), (host.read work.locker.process work.lock).2)
      | none => work.wait (host.read work.locker.process work.lock).2 := by
  rcases isRead : host.read work.locker.process work.lock with ⟨error | content, closed⟩
  · simp [step, stage, Host.toldOwner, isRead, Except.toOption]
  · rcases told : ownerOfContent content with _ | owner
    · simp [step, stage, Host.toldOwner, isRead, Except.toOption, told]
    · simp [step, stage, Host.toldOwner, isRead, Except.toOption, told]

/-- The owner of a lock is read and asked for: if the host `tellsDeadOwner` the lock is stale, and
any other find makes the locker `wait`. -/
theorem reaches_of_readingOwner (host : Host) (stage : work.stage = .readingOwner lock) :
    ∃ after, host.Alike after ∧ Reaches (work, host)
      (if host.tellsDeadOwner work.locker.process work.lock = true then
        (work.atStage (.rechecking lock), after)
      else work.wait after) := by
  have alike := (Host.Alike.refl host).read work.locker.process work.lock
  have result := step_of_readingOwner host stage
  refine ⟨_, alike, ?_⟩
  rw [Host.tellsDeadOwner_eq]
  rcases told : host.toldOwner work.locker.process work.lock with _ | owner
  · rw [told] at result
    exact .of_step result (by simp [stage])
  · rw [told] at result
    have read := Reaches.of_step result (by simp [stage])
    refine read.trans (.of_step ?_ (by simp [atStage]))
    simp only [step, atStage, alike.isAlive, Option.any_some]
    by_cases alive : host.isAlive owner = true
    · simp [alive]
      rfl
    · simp [alive]

/-- A lock that is not `isStale` makes the locker `wait`, and a stale one is looked at once more. -/
theorem reaches_of_judging (stage : work.stage = .judging)
    (looked : host.lstat work.lock = .ok (lock, found)) :
    ∃ after, host.Alike after ∧ Reaches (work, host)
      (if work.locker.isStale host work.lock found = true then
        (work.atStage (.rechecking lock), after)
      else work.wait after) := by
  by_cases outdated : work.locker.settings.isOutdated host.now found = true
  · refine ⟨host, .refl host, .of_step ?_ (by simp [stage])⟩
    simp [step, stage, looked, Locker.isStale, outdated]
  by_cases asks : work.locker.settings.checkOwner = true
  · have judged : Reaches (work, host) (work.atStage (.readingOwner lock), host) :=
      .of_step (by simp [step, stage, looked, outdated, asks]) (by simp [stage])
    have reading : (work.atStage (.readingOwner lock)).stage = .readingOwner lock := rfl
    rcases reaches_of_readingOwner host reading with ⟨after, alike, reaches⟩
    refine ⟨after, alike, judged.trans ?_⟩
    simp only [Locker.isStale, outdated, asks, Bool.false_or, Bool.true_and]
    exact reaches
  · refine ⟨host, .refl host, .of_step ?_ (by simp [stage])⟩
    simp [step, stage, looked, Locker.isStale, outdated, asks]

/-- An acquisition that tries its link again, after it has removed a stale lock. -/
def relinking (work : Acquisition) : Acquisition :=
  (work.counting fun counts => { counts with staleRemoved := counts.staleRemoved + 1 }).atStage
    .linking

/-- A stale lock that can be removed is removed, and the link is tried again. -/
theorem reaches_linking {removed : Host} (stage : work.stage = .rechecking lock)
    (looked : host.lstat work.lock = .ok (lock, found))
    (unlinked : host.unlink work.lock = .ok removed) :
    ∃ after, removed.Alike after ∧ Reaches (work, host) (work.relinking, after) := by
  have rechecked : Reaches (work, host) (work.atStage (.breaking lock), host) :=
    .of_step (by simp [step, stage, looked]) (by simp [stage])
  refine ⟨work.tell removed (.staleRemoved work.lock), (Host.Alike.refl removed).tell _ _,
    rechecked.trans (.of_step ?_ (by simp [atStage]))⟩
  simp only [step, atStage, unlinked]
  rfl

/-- A stale directory ends the acquisition. -/
theorem reaches_error_of_rechecking {error : IoError} (stage : work.stage = .rechecking lock)
    (looked : host.lstat work.lock = .ok (lock, found))
    (refused : host.unlink work.lock = .error error) :
    ∃ after, host.Alike after ∧ Reaches (work, host) (work.atStage (.clearing .error), after) := by
  have rechecked : Reaches (work, host) (work.atStage (.breaking lock), host) :=
    .of_step (by simp [step, stage, looked]) (by simp [stage])
  have there := Host.kind_of_unlink_error (Host.named?_eq_some_iff.mpr ⟨found, looked⟩) refused
  refine ⟨work.tell host (.staleNotRemoved work.lock error), (Host.Alike.refl host).tell _ _,
    rechecked.trans (.of_step ?_ (by simp [atStage]))⟩
  simp only [step, atStage, refused, notBroken, if_neg there]
  rfl

/-! ## Attempts -/

/-- An acquisition at its first attempt after it has rested a number of times. -/
def tried (work : Acquisition) (count : Nat) : Acquisition :=
  { work.counting fun counts => { counts with contentions := counts.contentions + count } with
    attempt := .ofNat count
    stage := .linking }

theorem tried_zero (first : work.attempt = 0) : work.tried 0 = work.atStage .linking := by
  unfold tried
  rw [show UInt32.ofNat 0 = work.attempt from first.symm]
  rfl

@[simp]
theorem temporary_tried (work : Acquisition) (count : Nat) :
    (work.tried count).temporary = work.temporary :=
  rfl

@[simp]
theorem lock_tried (work : Acquisition) (count : Nat) : (work.tried count).lock = work.lock :=
  rfl

theorem wait_of_lt (may : ¬work.retries ≤ work.attempt) :
    work.wait host =
      ({ work.counting fun counts => { counts with contentions := counts.contentions + 1 } with
          attempt := work.attempt + 1
          stage := .resting (host.now + work.locker.settings.pause host (work.attempt + 1)) },
        (host.draw (work.locker.settings.jitterLimit.toNat + 1)).2) := by
  unfold wait
  rw [if_neg may]
  rfl

/-- A locker that may still retry rests and comes to its next attempt. -/
theorem reaches_of_wait {after : Host} {count : Nat} (alike : host.Alike after)
    (may : ¬work.retries ≤ (work.tried count).attempt) :
    ∃ later, (work.locker.settings.rest host (.ofNat (count + 1))).Alike later ∧
      Reaches ((work.tried count).wait after) (work.tried (count + 1), later) := by
  have next : UInt32.ofNat count + 1 = UInt32.ofNat (count + 1) := (UInt32.ofNat_add count 1).symm
  have paused := work.locker.settings.pause_of_alike alike (.ofNat (count + 1))
  have waits : (work.tried count).wait after =
      ((work.tried (count + 1)).atStage
          (.resting (host.now + work.locker.settings.pause host (.ofNat (count + 1)))),
        (after.draw (work.locker.settings.jitterLimit.toNat + 1)).2) := by
    rw [wait_of_lt may]
    simp only [tried, counting, atStage, next, alike.now, paused, Nat.add_assoc]
  refine ⟨_, (alike.draw _).2.elapseUntil
    (host.now + work.locker.settings.pause host (.ofNat (count + 1))), 1, ?_⟩
  rw [Function.iterate_one, waits]
  simp only [round, atStage, step, if_pos (Host.le_now_elapseUntil _ _)]
  rfl

theorem attempt_tried {count : Nat} (within : count ≤ work.retries.toNat) :
    work.retries ≤ (work.tried count).attempt ↔ count = work.retries.toNat := by
  have small := work.retries.toNat_lt
  change work.retries ≤ UInt32.ofNat count ↔ _
  rw [UInt32.le_iff_toNat_le, UInt32.toNat_ofNat_of_lt' (by simpa [UInt32.size] using by omega)]
  omega

end Acquisition

end MailSpool

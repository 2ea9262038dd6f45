import MailSpool.Proofs.Dotlock.Findings
import MailSpool.Proofs.Dotlock.OwnerRecords
import MailSpool.Proofs.Dotlock.Steps

/-!
# What the check of an owner goes by

Whoever reads a file that an acquisition has written reads the owner that was recorded, if that
owner is within the limit. Of any other file the owner is read that its content tells.

The owner matters in one place only. A lock comes under `Suspicion` by a step of one of five kinds,
so what led to its removal can be told step by step backwards, in a world that changes as it likes
between the steps of an acquisition: the lock was found too old, `FoundOld`, or its path led to a
record of an owner that was dead when the locker asked for it, `FoundOrphaned`.
-/

namespace MailSpool

open FileSystem

/-! ## Reading the owner of a file -/

namespace Host

variable {host : Host} {reader : ProcessId} {path : String}

theorem toldOwner_of_stat {id : FileId} {found : File} {content : ByteArray}
    (looked : host.stat path = .ok (id, found)) (regular : found.node = .regular content) :
    host.toldOwner reader path = ownerOfContent content := by
  simp [toldOwner, read_of_stat looked regular, Except.toOption]

theorem toldOwner_eq_some_iff {owner : ProcessId} :
    host.toldOwner reader path = some owner ↔
      ∃ content, (host.read reader path).1 = .ok content ∧ ContentTells content owner := by
  rcases isRead : (host.read reader path).1 with error | content
  · simp [toldOwner, isRead, Except.toOption]
  · simp [toldOwner, isRead, Except.toOption, ownerOfContent_eq_some_iff]

end Host

/-- What an acquisition has written in a file is the `toldOwner` at every path to the file. -/
theorem Acquisition.toldOwner_of_writing {work : Acquisition} {host later : Host} {file : FileId}
    {old : ByteArray} {path : String} {found : File} (stage : work.stage = .writing file)
    (regular : host.files.node? file = some (.regular old))
    (written : (work.step host).1.stage = .linking)
    (looked : later.stat path = .ok (file, found))
    (same : later.files.node? file = (work.step host).2.files.node? file) (reader : ProcessId) :
    later.toldOwner reader path = ownerOfContent (ownerRecord work.locker.recordedOwner) := by
  rcases filled : host.fill file (ownerRecord work.locker.recordedOwner) with error | after
  · simp [Acquisition.step, stage, filled, Acquisition.atStage] at written
  · have isAfter : (work.step host).2 = after := by simp only [Acquisition.step, stage, filled]
    rw [isAfter, Host.node?_of_fill filled regular] at same
    rcases FileSystem.find_eq_ok_iff.mp (Host.stat_eq_ok_iff.mp looked).2 with ⟨_, _, _, isFile⟩
    rw [node?, isFile, Option.map_some, Option.some.injEq] at same
    exact Host.toldOwner_of_stat looked same

/-! ## How a lock comes under suspicion -/

/-- The stages at which a locker asks who owns a lock, or has found the lock stale. -/
def AcquisitionStage.IsSuspecting : AcquisitionStage → Prop
  | .readingOwner _ | .askingOwner _ _ | .rechecking _ | .breaking _ => True
  | _ => False

namespace Acquisition

/-- How a step leads to a stage that `IsSuspecting`. -/
inductive Suspicion (work : Acquisition) (host : Host) : AcquisitionStage → Prop where
  | recent (lock : FileId) (found : File) (stage : work.stage = .judging)
      (looked : host.lstat work.lock = .ok (lock, found))
      (asks : work.locker.settings.checkOwner = true) :
      Suspicion work host (.readingOwner lock)
  | told (lock : FileId) (owner : ProcessId) (stage : work.stage = .readingOwner lock)
      (told : host.toldOwner work.locker.process work.lock = some owner) :
      Suspicion work host (.askingOwner lock owner)
  | outdated (stale : FileId) (found : File) (stage : work.stage = .judging)
      (looked : host.lstat work.lock = .ok (stale, found))
      (old : work.locker.settings.isOutdated host.now found = true) :
      Suspicion work host (.rechecking stale)
  | orphaned (stale : FileId) (owner : ProcessId) (stage : work.stage = .askingOwner stale owner)
      (dead : host.isAlive owner = false) : Suspicion work host (.rechecking stale)
  | confirmed (stale : FileId) (stage : work.stage = .rechecking stale) :
      Suspicion work host (.breaking stale)

theorem not_isSuspecting_wait (work : Acquisition) (host : Host) :
    ¬(work.wait host).1.stage.IsSuspecting := by
  unfold wait
  split <;> simp [atStage, AcquisitionStage.IsSuspecting]

theorem not_isSuspecting_notLinked (work : Acquisition) (host : Host) (refusal : Option IoError) :
    ¬(work.notLinked host refusal).1.stage.IsSuspecting := by
  unfold notLinked
  split
  · simp [atStage, AcquisitionStage.IsSuspecting]
  · split <;> simp [atStage, AcquisitionStage.IsSuspecting]

theorem not_isSuspecting_notBroken (work : Acquisition) (host : Host) (error : IoError) :
    ¬(work.notBroken host error).1.stage.IsSuspecting := by
  unfold notBroken
  split <;> simp [atStage, AcquisitionStage.IsSuspecting]

/-- Every step to a stage that `IsSuspecting` is of one of the kinds of `Suspicion`. -/
theorem suspicion_of_step {work : Acquisition} {host : Host} {next : AcquisitionStage}
    (leads : (work.step host).1.stage = next) (suspecting : next.IsSuspecting) :
    Suspicion work host next := by
  subst leads
  cases stage : work.stage with
  | judging =>
      rcases looked : host.lstat work.lock with error | ⟨lock, found⟩
      · simp only [step, stage, looked] at suspecting
        exact absurd suspecting (not_isSuspecting_wait work host)
      · by_cases old : work.locker.settings.isOutdated host.now found = true
        · simp only [step, stage, looked, if_pos old, atStage]
          exact .outdated lock found stage looked old
        · by_cases asks : work.locker.settings.checkOwner = true
          · simp only [step, stage, looked, if_neg old, if_pos asks, atStage]
            exact .recent lock found stage looked asks
          · simp only [step, stage, looked, if_neg old, if_neg asks] at suspecting
            exact absurd suspecting (not_isSuspecting_wait work host)
  | readingOwner lock =>
      rw [step_of_readingOwner host stage] at suspecting ⊢
      rcases told : host.toldOwner work.locker.process work.lock with _ | owner
      · rw [told] at suspecting
        exact absurd suspecting (not_isSuspecting_wait work _)
      · exact .told lock owner stage told
  | askingOwner lock owner =>
      by_cases alive : host.isAlive owner = true
      · simp only [step, stage, if_pos alive] at suspecting
        exact absurd suspecting (not_isSuspecting_wait work host)
      · simp only [step, stage, if_neg alive, atStage]
        exact .orphaned lock owner stage (Bool.not_eq_true _ ▸ alive)
  | rechecking stale =>
      rcases looked : host.lstat work.lock with error | ⟨lock, found⟩
      · simp only [step, stage, looked] at suspecting
        exact absurd suspecting (not_isSuspecting_notBroken work host error)
      · by_cases same : lock = stale
        · simp only [step, stage, looked, if_pos same, atStage]
          exact .confirmed stale stage
        · simp [step, stage, looked, same, atStage, AcquisitionStage.IsSuspecting] at suspecting
  | breaking stale =>
      simp only [step, stage] at suspecting
      split at suspecting
      · simp [atStage, AcquisitionStage.IsSuspecting] at suspecting
      · exact absurd suspecting (not_isSuspecting_notBroken work host _)
  | comparing refusal =>
      simp only [step, stage] at suspecting
      split at suspecting
      · simp [atStage, AcquisitionStage.IsSuspecting] at suspecting
      · exact absurd suspecting (not_isSuspecting_notLinked work host refusal)
  | comparingLock refusal file =>
      simp only [step, stage] at suspecting
      split at suspecting
      · split at suspecting
        · simp [atStage, AcquisitionStage.IsSuspecting] at suspecting
        · exact absurd suspecting (not_isSuspecting_notLinked work host refusal)
      · exact absurd suspecting (not_isSuspecting_notLinked work host refusal)
  | resting wake =>
      simp only [step, stage] at suspecting
      split at suspecting <;> simp [stage, atStage, AcquisitionStage.IsSuspecting] at suspecting
  | clearing status =>
      simp only [step, stage, finish] at suspecting
      split at suspecting <;> simp [giveUp, atStage, AcquisitionStage.IsSuspecting] at suspecting
  | creating | writing | linking =>
      simp only [step, stage] at suspecting
      split at suspecting <;> simp [giveUp, atStage, AcquisitionStage.IsSuspecting] at suspecting
  | releasing | discarding | finished =>
      simp [step, stage, giveUp, atStage, AcquisitionStage.IsSuspecting] at suspecting

/-! ## What led to the removal of a lock -/

/-- The course of an acquisition in a world that is at each step as others have made it. -/
def course (world : Nat → Host) (work : Acquisition) : Nat → Acquisition
  | 0 => work
  | number + 1 => ((course world work number).step (world number)).1

theorem continues_course (world : Nat → Host) (work : Acquisition) (number : Nat) :
    work.Continues (course world work number) := by
  induction number with
  | zero => exact .refl work
  | succ number ih => exact ih.trans (continues_step _ (world number))

theorem exists_suspicion {world : Nat → Host} {work : Acquisition} {number : Nat}
    {next : AcquisitionStage} (calm : ¬work.stage.IsSuspecting)
    (stage : (course world work number).stage = next) (suspecting : next.IsSuspecting) :
    ∃ early, number = early + 1 ∧ Suspicion (course world work early) (world early) next := by
  rcases number with _ | early
  · exact absurd (stage ▸ suspecting) calm
  · exact ⟨early, rfl, suspicion_of_step stage suspecting⟩

theorem stage_wait_ne_judging (work : Acquisition) (host : Host) :
    (work.wait host).1.stage ≠ .judging := by
  unfold wait
  split <;> simp [atStage]

/-- The owner that is told, and whether that owner `isAlive` when the locker asks, decide whether a
lock that is not too old is found stale. -/
theorem rechecking_iff_of_readingOwner {work : Acquisition} {lock : FileId} (now later : Host)
    (stage : work.stage = .readingOwner lock) :
    ((work.step now).1.step later).1.stage = .rechecking lock ↔
      ∃ owner, now.toldOwner work.locker.process work.lock = some owner ∧
        later.isAlive owner = false := by
  have result := step_of_readingOwner now stage
  rcases told : now.toldOwner work.locker.process work.lock with _ | owner
  · rw [told] at result
    have waits : work.step now = work.wait _ := result
    simp only [reduceCtorEq, false_and, exists_false, iff_false]
    intro rechecking
    rw [waits] at rechecking
    cases suspicion_of_step rechecking trivial with
    | outdated _ found judging => exact stage_wait_ne_judging work _ judging
    | orphaned _ owner asking =>
        refine not_isSuspecting_wait work (now.read work.locker.process work.lock).2 ?_
        rw [asking]
        trivial
  · rw [told] at result
    have asks : work.step now = (work.atStage (.askingOwner lock owner), _) := result
    rw [asks]
    by_cases alive : later.isAlive owner = true
    · simp only [step, atStage, Option.some.injEq, exists_eq_left', alive, if_true, reduceCtorEq,
        iff_false]
      intro rechecking
      refine not_isSuspecting_wait (work.atStage (.askingOwner lock owner)) later ?_
      simp only [atStage, rechecking]
      trivial
    · simp [step, atStage, alive]

/-- Before a step of an acquisition, a lock was found too old by `isOutdated`. -/
def FoundOld (world : Nat → Host) (work : Acquisition) (number : Nat) (stale : FileId) : Prop :=
  ∃ early < number, ∃ found, (world early).lstat work.lock = .ok (stale, found) ∧
    work.locker.settings.isOutdated (world early).now found = true

/-- Before a step of an acquisition, a record was read at the path of a lock that tells an owner by
`ContentTells`, and the owner was dead afterwards. -/
def FoundOrphaned (world : Nat → Host) (work : Acquisition) (number : Nat) (stale : FileId) :
    Prop :=
  work.locker.settings.checkOwner = true ∧ ∃ early, early + 1 < number ∧
    (course world work early).stage = .readingOwner stale ∧
    ∃ content owner, ((world early).read work.locker.process work.lock).1 = .ok content ∧
      ContentTells content owner ∧ (world (early + 1)).isAlive owner = false

variable {world : Nat → Host} {work : Acquisition} {number : Nat} {stale : FileId}

theorem foundOrphaned_of_orphaned {owner : ProcessId} (calm : ¬work.stage.IsSuspecting)
    (asking : (course world work number).stage = .askingOwner stale owner)
    (dead : (world number).isAlive owner = false) :
    FoundOrphaned world work (number + 1) stale := by
  rcases exists_suspicion calm asking trivial with ⟨early, rfl, suspicion⟩
  cases suspicion with
  | told _ _ reading told =>
      rcases exists_suspicion calm reading trivial with ⟨before, rfl, doubt⟩
      cases doubt with
      | recent _ found _ _ asks =>
          rw [(continues_course world work before).settings] at asks
          have same := continues_course world work (before + 1)
          rw [same.process, same.lock] at told
          rcases Host.toldOwner_eq_some_iff.mp told with ⟨content, isRead, tells⟩
          exact ⟨asks, before + 1, by omega, reading, content, owner, isRead, tells, dead⟩

/-- A lock is about to be removed only after `FoundOld` or `FoundOrphaned`. -/
theorem found_of_breaking (calm : ¬work.stage.IsSuspecting)
    (breaking : (course world work number).stage = .breaking stale) :
    FoundOld world work number stale ∨ FoundOrphaned world work number stale := by
  rcases exists_suspicion calm breaking trivial with ⟨late, rfl, confirmation⟩
  cases confirmation with
  | confirmed _ rechecking =>
      rcases exists_suspicion calm rechecking trivial with ⟨early, rfl, suspicion⟩
      cases suspicion with
      | outdated _ found judging looked old =>
          have same := continues_course world work early
          rw [same.lock] at looked
          rw [same.settings] at old
          exact Or.inl ⟨early, by omega, found, looked, old⟩
      | orphaned _ owner asking dead =>
          rcases foundOrphaned_of_orphaned calm asking dead with ⟨asks, before, earlier, rest⟩
          exact Or.inr ⟨asks, before, by omega, rest⟩

/-- The owner in a lock is read as it was recorded, if it is within the limit, and on every content
the `toldOwner` is what `ContentTells`. What was read is all that the check of an owner goes by: in
no `course` of an acquisition is a lock removed that was not too old, unless it was `FoundOrphaned`,
by a path that led to the record of an owner who was dead afterwards. -/
theorem owner_read_as_recorded :
    (∀ (work : Acquisition) (host : Host) (file : FileId) (old : ByteArray),
      work.stage = .writing file → host.files.node? file = some (.regular old) →
      (work.step host).1.stage = .linking →
      ∀ (later : Host) (reader : ProcessId) (path : String) (found : File),
        later.stat path = .ok (file, found) →
        later.files.node? file = (work.step host).2.files.node? file →
        later.toldOwner reader path =
          if 1 ≤ work.locker.recordedOwner.toNat ∧ work.locker.recordedOwner.toNat ≤ 2147483647
          then some work.locker.recordedOwner.toNat else none) ∧
    (∀ (host : Host) (reader : ProcessId) (path : String) (file : FileId) (found : File)
        (content : ByteArray) (owner : ProcessId),
      host.stat path = .ok (file, found) → found.node = .regular content →
      (host.toldOwner reader path = some owner ↔ ContentTells content owner)) ∧
    (∀ (work : Acquisition) (lock : FileId) (now later : Host), work.stage = .readingOwner lock →
      (((work.step now).1.step later).1.stage = .rechecking lock ↔
        ∃ owner, now.toldOwner work.locker.process work.lock = some owner ∧
          later.isAlive owner = false)) ∧
    ∀ (world : Nat → Host) (work : Acquisition) (number : Nat) (stale : FileId),
      ¬work.stage.IsSuspecting → (course world work number).stage = .breaking stale →
      FoundOld world work number stale ∨ FoundOrphaned world work number stale := by
  refine ⟨?_, ?_, ?_, ?_⟩
  · intro work host file old stage regular written later reader path found looked same
    rw [toldOwner_of_writing stage regular written looked same, ownerOfContent_ownerRecord]
    rfl
  · intro host reader path file found content owner looked regular
    rw [Host.toldOwner_of_stat looked regular, ownerOfContent_eq_some_iff]
  · exact fun work lock now later stage => rechecking_iff_of_readingOwner now later stage
  · exact fun world work number stale calm breaking => found_of_breaking calm breaking

/-! ## A lock whose owner is dead -/

/-- The record of an owner with all that may stand around the number. -/
def orphanRecord : ByteArray :=
  "\t +0042\r\nleft behind\n".toUTF8

/-- A spool with a young lock. -/
def orphanHost : Host :=
  { Host.boot (seconds 1000) fun number => number with
    files := ((FileSystem.empty 0).make root "u.lock" (.regular orphanRecord) (seconds 999)).2 }

def orphanWork : Acquisition :=
  (begin { process := 1, settings := { spoolDirectory := "/", honorMail := false } } orphanHost "u"
    "/u.lock" 0).1

/-- The spool after each step of the acquisition. -/
def orphanWorld (number : Nat) : Host :=
  ((fun state : Acquisition × Host => state.1.step state.2)^[number] (orphanWork, orphanHost)).2

theorem contentTells_orphanRecord : ContentTells orphanRecord 42 := by
  have blank : (['\t', ' '] ++ ['\r']).all Text.isBlank = true := by decide
  have digital : ['0', '0', '4', '2'].all Char.isDigit = true := by decide
  have denotes : DigitsDenote ['0', '0', '4', '2'] 42 :=
    ⟨by decide, List.all_eq_true.mp digital, rfl⟩
  refine ⟨"\t +0042\r\nleft behind\n", rfl, "\t +0042\r".toList, ⟨by decide, Or.inr ?_⟩, ?_⟩
  · exact ⟨"left behind\n".toList, by decide⟩
  · exact ⟨['\t', ' '], ['+'], ['0', '0', '4', '2'], ['\r'], by decide, List.all_eq_true.mp blank,
      Or.inr rfl, denotes, by decide, by decide⟩

theorem named?_orphanWorld : (orphanWorld 2).named? "/.lk0000100000000" = some ⟨2⟩ := by
  decide +kernel

theorem named?_orphanHost : orphanHost.named? "/u.lock" = some ⟨1⟩ := by
  decide +kernel

theorem owner_read_as_recorded_orphan :
    (course orphanWorld orphanWork 1).stage = .writing ⟨2⟩ ∧
      (orphanWorld 2).toldOwner 7 "/.lk0000100000000" = some 1 ∧
      orphanHost.toldOwner 7 "/u.lock" = some 42 ∧
      (course orphanWorld orphanWork 6).stage = .readingOwner ⟨1⟩ ∧
      (course orphanWorld orphanWork 8).stage = .rechecking ⟨1⟩ ∧
      (course orphanWorld orphanWork 9).stage = .breaking ⟨1⟩ ∧
      (FoundOld orphanWorld orphanWork 9 ⟨1⟩ ∨ FoundOrphaned orphanWorld orphanWork 9 ⟨1⟩) := by
  have writing : (course orphanWorld orphanWork 1).stage = .writing ⟨2⟩ := by decide +kernel
  have linking : (course orphanWorld orphanWork 2).stage = .linking := by decide +kernel
  have reading : (course orphanWorld orphanWork 6).stage = .readingOwner ⟨1⟩ := by decide +kernel
  have breaking : (course orphanWorld orphanWork 9).stage = .breaking ⟨1⟩ := by decide +kernel
  have dead : (orphanWorld 7).isAlive 42 = false := by decide +kernel
  have told : (orphanWorld 6).toldOwner (course orphanWorld orphanWork 6).locker.process
      (course orphanWorld orphanWork 6).lock = some 42 := by decide +kernel
  rcases owner_read_as_recorded with ⟨written, read, asked, broken⟩
  refine ⟨writing, ?_, ?_, reading, ?_, breaking, broken _ _ _ _ (fun calm => calm) breaking⟩
  · rcases Host.named?_eq_some_iff_names.mp named?_orphanWorld with ⟨writable, names, _⟩
    have record : (orphanWorld 2).files.node? ⟨2⟩ = some (.regular (ownerRecord 1)) := rfl
    rcases Host.exists_stat writable names record with ⟨found, looked, _⟩
    exact written _ (orphanWorld 1) ⟨2⟩ .empty writing rfl linking (orphanWorld 2) 7 _ found looked
      rfl
  · rcases Host.named?_eq_some_iff_names.mp named?_orphanHost with ⟨writable, names, _⟩
    have record : orphanHost.files.node? ⟨1⟩ = some (.regular orphanRecord) := rfl
    rcases Host.exists_stat writable names record with ⟨found, looked, regular⟩
    exact (read orphanHost 7 _ ⟨1⟩ found orphanRecord 42 looked regular).mpr
      contentTells_orphanRecord
  · exact (asked _ ⟨1⟩ (orphanWorld 6) (orphanWorld 7) reading).mpr ⟨42, told, dead⟩

end Acquisition

end MailSpool

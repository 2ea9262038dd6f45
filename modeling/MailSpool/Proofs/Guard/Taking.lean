import MailSpool.Proofs.Guard.Acquire

/-!
# Taking both locks step by step

Others act while a process takes a guard: during the rests of its locker, but also between the lock
file and the mailbox, and before a mailbox that could not be locked is closed. So the taking of a
guard is a machine here, `GuardTaking`, each step of which makes at most one call. Left alone it
comes to the end that `SpoolGuard.acquire` tells, by `reaches_acquire`.
-/

namespace MailSpool

/-- What the taking of a guard does next. -/
inductive TakingStage where
  /-- It takes the lock file. -/
  | mail (work : Acquisition)
  | opening
  | locking (descriptor : Nat)
  /-- It closes the mailbox, which could not be locked. -/
  | closing (descriptor : Nat) (failure : Failure)
  | releasing (failure : Failure)
  | obtained (guard : SpoolGuard)
  | refused (failure : Failure)
  deriving DecidableEq, Repr

/-- The taking of a guard over a bridge. -/
structure GuardTaking where
  bridge : Bridge
  path : String
  mode : LockMode
  stage : TakingStage
  deriving DecidableEq, Repr

namespace GuardTaking

def atStage (taking : GuardTaking) (stage : TakingStage) : GuardTaking :=
  { taking with stage := stage }

def withLocker (taking : GuardTaking) (locker : Locker) : GuardTaking :=
  { taking with bridge := { taking.bridge with locker := locker } }

def begin (bridge : Bridge) (host : Host) (user tag : String) (retries : UInt32) :
    GuardTaking × Host :=
  match bridge.locker.lockPath host user with
  | .error status =>
    let (_, rejected, told) := bridge.locker.reject host user status
    ({ bridge := { bridge with locker := rejected }
       path := bridge.spoolPath user
       mode := .ofTag tag
       stage := .refused (.mailLock status) }, told)
  | .ok lock =>
    let (work, drawn) := Acquisition.begin bridge.locker host user lock retries
    ({ bridge := bridge
       path := bridge.spoolPath user
       mode := .ofTag tag
       stage := .mail work }, drawn)

/-- The next step of the locker, or of the guard when the locker has ended. -/
def mailStep (taking : GuardTaking) (host : Host) (work : Acquisition) : GuardTaking × Host :=
  match work.status? with
  | none => (taking.atStage (.mail (work.step host).1), (work.step host).2)
  | some .success => ((taking.withLocker work.locker).atStage .opening, host)
  | some status => ((taking.withLocker work.locker).atStage (.refused (.mailLock status)), host)

def step (taking : GuardTaking) (host : Host) : GuardTaking × Host :=
  let process := taking.bridge.process
  match taking.stage with
  | .mail work => taking.mailStep host work
  | .opening =>
    match host.openFile process taking.path (taking.mode = .write) with
    | .error error => (taking.atStage (.releasing (SpoolGuard.openFailure taking.path error)), host)
    | .ok (descriptor, opened) => (taking.atStage (.locking descriptor), opened)
  | .locking descriptor =>
    match taking.bridge.tryLock host (.ofNat descriptor) taking.mode.tag with
    | .error failure => (taking.atStage (.closing descriptor failure), host)
    | .ok locked =>
      let (refresher, started) := taking.bridge.startRefresher locked
      (taking.atStage
        (.obtained
          { bridge := taking.bridge
            path := taking.path
            mode := taking.mode
            descriptor := descriptor
            refresher := refresher }),
        started.tell process (.spoolLocked taking.path taking.mode))
  | .closing descriptor failure =>
    (taking.atStage (.releasing failure), host.close process descriptor)
  | .releasing failure =>
    let (freed, released) :=
      taking.bridge.unlockMail (host.tell process (.spoolNotLocked taking.path failure))
    ({ taking with bridge := freed, stage := .refused failure }, released)
  | .obtained _ | .refused _ => (taking, host)

def result? (taking : GuardTaking) : Option (Except (Failure × Bridge) SpoolGuard) :=
  match taking.stage with
  | .obtained guard => some (.ok guard)
  | .refused failure => some (.error (failure, taking.bridge))
  | _ => none

/-- One step, after the time for which the locker rests. -/
def round (state : GuardTaking × Host) : GuardTaking × Host :=
  match state.1.stage with
  | .mail work =>
    match work.stage with
    | .resting wake => state.1.step (state.2.elapseUntil wake)
    | _ => state.1.step state.2
  | _ => state.1.step state.2

/-- Left alone, a taking comes to another one after some rounds. -/
def Reaches (state done : GuardTaking × Host) : Prop :=
  ∃ count, round^[count] state = done

theorem Reaches.refl (state : GuardTaking × Host) : Reaches state state :=
  ⟨0, rfl⟩

theorem Reaches.head {state done : GuardTaking × Host} (reaches : Reaches (round state) done) :
    Reaches state done := by
  rcases reaches with ⟨count, reached⟩
  exact ⟨count + 1, by rw [Function.iterate_succ_apply, reached]⟩

theorem Reaches.trans {state between done : GuardTaking × Host} (first : Reaches state between)
    (second : Reaches between done) : Reaches state done := by
  rcases first with ⟨early, rfl⟩
  rcases second with ⟨late, reached⟩
  exact ⟨late + early, by rw [Function.iterate_add_apply, reached]⟩

variable {taking : GuardTaking} {host : Host} {bridge : Bridge} {user tag : String}
  {retries : UInt32}

/-- Until the locker has ended, a `round` is one of the locker. -/
theorem round_mail {work : Acquisition} (going : work.status? = none) :
    round (taking.atStage (.mail work), host) =
      (taking.atStage (.mail (Acquisition.round (work, host)).1),
        (Acquisition.round (work, host)).2) := by
  cases stage : work.stage with
  | resting wake =>
      simp only [round, Acquisition.round, atStage, stage, step, mailStep, going]
  | finished status => simp [Acquisition.status?, stage] at going
  | releasing | creating | writing | discarding | linking | comparing | comparingLock | judging
  | readingOwner | askingOwner | rechecking | breaking | clearing =>
      simp only [round, Acquisition.round, atStage, stage, step, mailStep, going]

theorem reaches_mail (taking : GuardTaking) (work : Acquisition) (host : Host) (count : Nat)
    (ended : (Acquisition.round^[count] (work, host)).1.status?.isSome) :
    Reaches (taking.atStage (.mail work), host)
      (taking.atStage (.mail (Acquisition.round^[count] (work, host)).1),
        (Acquisition.round^[count] (work, host)).2) := by
  induction count generalizing work host with
  | zero => exact .refl _
  | succ count ih =>
      rw [Function.iterate_succ_apply] at ended ⊢
      rcases status : work.status? with _ | result
      · apply Reaches.head
        rw [round_mail status]
        exact ih _ _ ended
      · have stage := Acquisition.finished_of_status? status
        rw [Acquisition.round_of_finished stage] at ended ⊢
        exact ih _ _ ended

theorem reaches_releasing {failure : Failure} {after : Host}
    (refused : SpoolGuard.openLocked taking.bridge host taking.path taking.mode =
      (.error failure, after)) :
    Reaches (taking.atStage .opening, host) (taking.atStage (.releasing failure), after) := by
  unfold SpoolGuard.openLocked at refused
  split at refused
  case h_1 error opened =>
    cases refused
    apply Reaches.head
    dsimp only [round, step, atStage]
    rw [opened]
    exact .refl _
  case h_2 descriptor between opened =>
    split at refused
    case h_1 => simp at refused
    case h_2 error tried =>
      cases refused
      apply Reaches.head
      dsimp only [round, step, atStage]
      rw [opened]
      apply Reaches.head
      dsimp only [round, step, atStage]
      rw [tried]
      exact .head (.refl _)

theorem reaches_obtained {descriptor : Nat} {after : Host}
    (secured : SpoolGuard.openLocked taking.bridge host taking.path taking.mode =
      (.ok descriptor, after)) :
    Reaches (taking.atStage .opening, host)
      (taking.atStage
        (.obtained
          { bridge := taking.bridge
            path := taking.path
            mode := taking.mode
            descriptor := descriptor
            refresher := (taking.bridge.startRefresher after).1 }),
        (taking.bridge.startRefresher after).2.tell taking.bridge.process
          (.spoolLocked taking.path taking.mode)) := by
  unfold SpoolGuard.openLocked at secured
  split at secured
  case h_1 => simp at secured
  case h_2 number between opened =>
    split at secured
    case h_2 => simp at secured
    case h_1 locked tried =>
      cases secured
      apply Reaches.head
      dsimp only [round, step, atStage]
      rw [opened]
      apply Reaches.head
      dsimp only [round, step, atStage]
      rw [tried]
      exact .refl _

theorem reaches_ended {work : Acquisition} {status : MailLockStatus}
    (ended : work.stage = .finished status) :
    Reaches (taking.atStage (.mail work), host)
      (if status = .success then (taking.withLocker work.locker).atStage .opening
        else (taking.withLocker work.locker).atStage (.refused (.mailLock status)), host) := by
  apply Reaches.head
  have isStatus : work.status? = some status := by simp [Acquisition.status?, ended]
  cases status with
  | success =>
      simp only [round, atStage, ended, step, mailStep, isStatus]
      exact .refl _
  | nameLength | temporaryLock | temporaryWrite | maxTries | error =>
      simp only [round, atStage, ended, step, mailStep, isStatus]
      exact .refl _

/-- Left alone, the taking of a guard `Reaches` the end that `SpoolGuard.acquire` gives. -/
theorem reaches_acquire (bridge : Bridge) (user tag : String) (retries : UInt32)
    (sound : host.files.Sound) :
    ∃ done, Reaches (begin bridge host user tag retries) done ∧
      done.1.result? = some (SpoolGuard.acquire bridge host user tag retries).1 ∧
      done.2 = (SpoolGuard.acquire bridge host user tag retries).2 := by
  rcases found : bridge.locker.lockPath host user with status | lock
  · have failed := MailSettings.ne_success_of_lockPath found
    refine ⟨_, .refl _, ?_⟩
    simp only [begin, SpoolGuard.acquire, Bridge.lockMail, found, Locker.acquire_of_rejected found,
      Locker.reject]
    cases status with
    | success => exact absurd rfl failed
    | nameLength | temporaryLock | temporaryWrite | maxTries | error => exact ⟨rfl, trivial⟩
  rcases taken : bridge.locker.acquire host user retries with ⟨status, next, after⟩
  rcases Locker.exists_finished_of_acquire sound found taken with
    ⟨count, finished, isFinished, ended, rfl, rfl, proceeds⟩
  have process : finished.1.locker.process = bridge.locker.process := proceeds.continues.process
  let taking : GuardTaking := ⟨bridge, bridge.spoolPath user, .ofTag tag, .opening⟩
  have mailed : Reaches (begin bridge host user tag retries)
      (taking.atStage (.mail finished.1), finished.2) := by
    have isMail := reaches_mail taking (Acquisition.begin bridge.locker host user lock retries).1
      (Acquisition.begin bridge.locker host user lock retries).2 count
      (by simp [← isFinished, Acquisition.status?, ended])
    rw [Prod.eta, ← isFinished] at isMail
    simp only [begin, found]
    exact isMail
  have turned := mailed.trans (reaches_ended ended)
  simp only [SpoolGuard.acquire, Bridge.lockMail, taken]
  cases status with
  | success =>
      dsimp only
      rcases opening : SpoolGuard.openLocked { bridge with locker := finished.1.locker } finished.2
        (bridge.spoolPath user) (.ofTag tag) with ⟨failure | descriptor, rest⟩
      · refine ⟨_, (turned.trans (reaches_releasing opening)).trans (.head (.refl _)), ?_⟩
        simp only [round, atStage, step, withLocker, Bridge.process, process]
        exact ⟨rfl, rfl⟩
      · refine ⟨_, turned.trans (reaches_obtained opening), ?_⟩
        simp only [withLocker, Bridge.process, process]
        exact ⟨rfl, rfl⟩
  | nameLength | temporaryLock | temporaryWrite | maxTries | error => exact ⟨_, turned, rfl, rfl⟩

end GuardTaking

end MailSpool

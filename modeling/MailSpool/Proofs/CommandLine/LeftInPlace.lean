import MailSpool.Proofs.CommandLine.MailClient
import MailSpool.Proofs.Dotlock.FreeLock

/-!
# A lock that is left in place

A command that takes the lock of a user leaves it in place when it ends, and later commands know of
it by the files only. From then on the files are those before the first command and the lock: this
is so after every command that touches the lock, and after every one that comes for it while it is
neither too old nor without a living owner. That is the invariant `InPlace`, which `InPlace.serves`
carries along. So a command that gives the lock back leaves the contents of all directories as they
were before the first one, by `unlock_inverts_lock`.
-/

namespace MailSpool

open FileSystem

namespace Host

/-- Others let time pass and start and end processes, but act on no file. -/
structure Idles (host next : Host) : Prop where
  files : next.files = host.files
  still : next.IsStill

/-- A host `Heeds` the lock at a path to the end of a while. -/
def Lasts (host : Host) (settings : Settings) (lock : String) (next : Host) : Prop :=
  ∀ file found, host.lstat lock = .ok (file, found) → next.Heeds settings.mail found

/-- A command that is started now `CanPrepare` its temporary file next to a lock, so that it comes
to attempt a link. -/
def AdmitsAttempt (host : Host) (lock : String) : Prop :=
  host.CanPrepare (temporaryPath lock host.nextProcess (host.draw UInt32.size).1)

instance (host : Host) (settings : MailSettings) (file : File) :
    Decidable (host.Heeds settings file) :=
  decidable_of_iff (settings.isOutdated host.now file = false ∧
      (match file.node with
      | .regular content => (ownerOfContent content).all host.isAlive
      | _ => true) = true) (by
    constructor
    · rintro ⟨fresh, alive⟩
      refine ⟨fresh, fun content owner regular isOwner => ?_⟩
      simpa [regular, isOwner] using alive
    · intro heeds
      refine ⟨heeds.fresh, ?_⟩
      split
      case h_1 content regular =>
        rw [Option.all_eq_true]
        exact fun owner isOwner => heeds.alive content owner regular isOwner
      case h_2 => rfl)

instance (host : Host) (settings : Settings) (lock : String) (next : Host) :
    Decidable (host.Lasts settings lock next) :=
  match looked : host.lstat lock with
  | .error _ => isTrue fun file found isFound => by simp [looked] at isFound
  | .ok (_, found) =>
    decidable_of_iff (next.Heeds settings.mail found) (by
      constructor
      · intro heeds file other isFound
        rw [looked] at isFound
        cases isFound
        exact heeds
      · exact fun lasts => lasts _ _ looked)

end Host

namespace MailClient

variable {client : MailClient} {settings : Settings} {lock : String}

/-- What happens while a lock is in place: time passes, and commands touch the lock, or come for it
while it lasts. -/
inductive Serves (client : MailClient) (settings : Settings) (lock : String) (locked : Host) :
    Host → Prop where
  | refl : client.Serves settings lock locked locked
  | passes {host next : Host} (served : client.Serves settings lock locked host)
      (idles : host.Idles next) : client.Serves settings lock locked next
  | touches {host next : Host} {parent : ProcessId} {arguments : List String} {outcome : Outcome}
      (served : client.Serves settings lock locked host)
      (asks : client.Asks arguments .touch)
      (ran : client.run host parent arguments = some (outcome, next)) :
      client.Serves settings lock locked next
  | contends {host next : Host} {parent : ProcessId} {arguments : List String} {retries : UInt32}
      {outcome : Outcome} (served : client.Serves settings lock locked host)
      (asks : client.Asks arguments (.lock retries))
      (ran : client.run host parent arguments = some (outcome, next))
      (lasts : host.Lasts settings lock next) : client.Serves settings lock locked next

/-- Every command for an action, whoever starts it, comes to an end of which `holds` tells. -/
def Ends (client : MailClient) (host : Host) (action : MailAction)
    (holds : Outcome → Host → Prop) : Prop :=
  ∀ parent arguments, client.Asks arguments action →
    ∃ outcome after, client.run host parent arguments = some (outcome, after) ∧
      holds outcome after

theorem Ends.mono {host : Host} {action : MailAction} {holds weaker : Outcome → Host → Prop}
    (ends : client.Ends host action holds)
    (implies : ∀ outcome after, holds outcome after → weaker outcome after) :
    client.Ends host action weaker := by
  intro parent arguments asks
  rcases ends parent arguments asks with ⟨outcome, after, ran, here⟩
  exact ⟨outcome, after, ran, implies outcome after here⟩

theorem Ends.of_run {host next : Host} {parent : ProcessId} {arguments : List String}
    {action : MailAction} {outcome : Outcome} {holds : Outcome → Host → Prop}
    (ends : client.Ends host action holds) (asks : client.Asks arguments action)
    (ran : client.run host parent arguments = some (outcome, next)) : holds outcome next := by
  rcases ends parent arguments asks with ⟨_, _, ended, here⟩
  rw [ran] at ended
  cases ended
  exact here

/-- A lock with a record is in place: the files are those at the start and the lock, as `OneMore`
says, and nobody else acts on files. -/
structure InPlace (start : Host) (lock : String) (file : FileId) (record : ByteArray)
    (host : Host) : Prop where
  more : OneMore start host lock file
  recorded : host.files.node? file = some (.regular record)
  still : host.IsStill

namespace InPlace

variable {start host next : Host} {file : FileId} {record : ByteArray}

theorem named? (place : InPlace start lock file record host) : host.named? lock = some file := by
  rcases place.more.exists_lstat with ⟨found, _, looked, _⟩
  exact Host.named?_eq_some_iff.mpr ⟨found, looked⟩

theorem reads (place : InPlace start lock file record host) (reads : client.Reads settings start) :
    client.Reads settings host := by
  unfold Reads load at reads ⊢
  split at reads
  case h_1 path _ =>
    rcases read : (start.read start.nextProcess path).1 with error | content
    · simp [Settings.load, Settings.ofContent, read] at reads
    · have beside := place.more.beside
      have stillRead : (host.read host.nextProcess path).1 = .ok content :=
        Host.read_of_keepsNames beside.keepsNames beside.resets.narrows.toSameKinds
          beside.retains read
      simp only [Settings.load, read] at reads
      simpa only [Settings.load, stillRead] using reads
  case h_2 => exact reads

theorem passes (place : InPlace start lock file record host) (idles : host.Idles next) :
    InPlace start lock file record next :=
  ⟨place.more.of_files idles.files, idles.files ▸ place.recorded, idles.still⟩

/-- A command that touches the lock leaves it `InPlace`. -/
theorem ends_touch (place : InPlace start lock file record host)
    (reads : client.Reads settings host) (isLock : client.lockPath settings = .ok lock) :
    client.Ends host .touch fun outcome after =>
      outcome.code = 0 ∧ InPlace start lock file record after := by
  intro parent arguments asks
  refine ⟨_, _, run_touch asks reads isLock place.named?, rfl, ?_⟩
  have starts := client.starts_ready host parent
  have touched := (place.more.of_files starts.files).run_task host.nextProcess
  have kept := (Spares.run_task { process := host.nextProcess, path := lock }
    (client.ready host parent) fun _ => False).node file record (starts.files ▸ place.recorded)
  refine ⟨touched.of_files rfl, kept (by simp),
    (place.still.of_agenda starts.agenda).of_agenda ?_⟩
  exact (RefreshTask.sameWorld_run _ _).agenda

/-- A command that comes for the lock changes nothing if the lock `Lasts`, and ends with code 75 if
it also `AdmitsAttempt`. -/
theorem ends_lock (place : InPlace start lock file record host)
    (reads : client.Reads settings host) (isLock : client.lockPath settings = .ok lock)
    (retries : UInt32) :
    client.Ends host (.lock retries) fun outcome after =>
      host.Lasts settings lock after → InPlace start lock file record after ∧
        SameContents host.files after.files ∧ (host.AdmitsAttempt lock → outcome.code = 75) := by
  intro parent arguments asks
  rcases run_lock asks reads with ⟨status, held, left, outcome, acquired, ran, _, busy⟩
  refine ⟨outcome, _, ran, fun lasts => ?_⟩
  rcases place.more.exists_lstat with ⟨found, content, looked, regular⟩
  have starts := client.starts_ready host parent
  have sound : (client.ready host parent).files.Sound := starts.files ▸ place.more.beside.sound
  have looks : (client.ready host parent).lstat lock = .ok (file, found) := by
    rw [Host.lstat_congr starts.files, looked]
  have heeds : left.Heeds settings.mail found :=
    (lasts file found looked).of_precedes (.exit left host.nextProcess)
  have isLockReady := lockPath_ready host parent (some (.ofNat parent)) isLock
  rcases Locker.concedes_of_acquire sound (place.still.of_agenda starts.agenda) rfl isLockReady
    looks regular heeds acquired with ⟨same, stillAfter, _, gaveUp⟩
  rw [starts.files] at same
  have soundAfter := (Locker.leaves_of_acquire sound isLockReady acquired).sound
  have kept := same.retains.node? place.recorded (by simp)
  exact ⟨⟨place.more.of_sameContents same soundAfter, kept, stillAfter⟩, same,
    fun admits => busy (gaveUp (starts.canPrepare admits))⟩

/-- A command that gives the lock back leaves the `SameContents` that there were at the start. -/
theorem ends_unlock (place : InPlace start lock file record host)
    (reads : client.Reads settings host) (isLock : client.lockPath settings = .ok lock) :
    client.Ends host .unlock fun outcome after =>
      outcome.code = 0 ∧ SameContents start.files after.files := by
  intro parent arguments asks
  rcases run_unlock asks reads isLock place.named? with ⟨after, ran, files⟩
  refine ⟨_, after, ran, rfl, ?_⟩
  rw [files]
  have starts := client.starts_ready host parent
  exact (place.more.of_files starts.files).sameContents_remaining

/-- Whatever `Serves` allows leaves the lock `InPlace`. -/
theorem serves (place : InPlace start lock file record host) (reads : client.Reads settings start)
    (isLock : client.lockPath settings = .ok lock)
    (serves : client.Serves settings lock host next) : InPlace start lock file record next := by
  induction serves with
  | refl => exact place
  | passes _ idles ih => exact ih.passes idles
  | touches _ asks ran ih => exact ((ih.ends_touch (ih.reads reads) isLock).of_run asks ran).2
  | contends _ asks ran lasts ih =>
      exact ((ih.ends_lock (ih.reads reads) isLock _).of_run asks ran lasts).1

end InPlace

/-- A command that takes a free lock, while nobody else acts on files, leaves it `InPlace`. -/
theorem inPlace_of_run {start locked : Host} {parent : ProcessId} {arguments : List String}
    {retries : UInt32} {outcome : Outcome} (sound : start.files.Sound) (still : start.IsStill)
    (reads : client.Reads settings start) (isLock : client.lockPath settings = .ok lock)
    (free : start.named? lock = none) (asks : client.Asks arguments (.lock retries))
    (ran : client.run start parent arguments = some (outcome, locked))
    (success : outcome.code = 0) :
    ∃ file, InPlace start lock file (ownerRecord (.ofNat parent)) locked := by
  rcases run_lock asks reads with ⟨status, held, left, _, acquired, ends, succeeds, _⟩
  rw [ran] at ends
  cases ends
  cases succeeds.mp success
  have starts := client.starts_ready start parent
  rcases Locker.beside_of_acquire (starts.files ▸ sound) (still.of_agenda starts.agenda) rfl
    (lockPath_ready start parent _ isLock) ((Host.named?_congr starts.files lock).trans free)
    acquired with ⟨writable, stillAfter, file, beside, recorded⟩
  rw [starts.files] at beside
  exact ⟨file, ⟨beside, writable⟩, recorded, stillAfter⟩

/-- Locking and unlocking are inverse to each other across processes. A command takes a free lock
and ends; then, after whatever `Serves` allows, the lock is there with the `ownerRecord` of the
process that has started that command, and `Ends` tells of every further command: to touch the lock
does not fail, to come for it while it `Lasts` leaves the `SameContents`, and to give it back leaves
those that there were at the start. Who comes for it is told by code 75 that it is taken, if
`AdmitsAttempt` holds. That says only that the temporary file of the attempt can be made and
written, without which the code is the one of this failure. -/
theorem unlock_inverts_lock {start locked host : Host} {parent : ProcessId}
    {arguments : List String} {retries : UInt32} {outcome : Outcome} (sound : start.files.Sound)
    (still : start.IsStill) (reads : client.Reads settings start)
    (isLock : client.lockPath settings = .ok lock) (free : start.named? lock = none)
    (asks : client.Asks arguments (.lock retries))
    (ran : client.run start parent arguments = some (outcome, locked))
    (success : outcome.code = 0) (serves : client.Serves settings lock locked host) :
    (∃ file, host.named? lock = some file ∧
        host.files.node? file = some (.regular (ownerRecord (.ofNat parent)))) ∧
      (client.Ends host .touch fun outcome _ => outcome.code = 0) ∧
      (∀ retries, client.Ends host (.lock retries) fun outcome after =>
        host.Lasts settings lock after →
          SameContents host.files after.files ∧ (host.AdmitsAttempt lock → outcome.code = 75)) ∧
      client.Ends host .unlock fun outcome after =>
        outcome.code = 0 ∧ SameContents start.files after.files := by
  rcases inPlace_of_run sound still reads isLock free asks ran success with ⟨file, begun⟩
  have place := begun.serves reads isLock serves
  have readsStill := place.reads reads
  refine ⟨⟨file, place.named?, place.recorded⟩, ?_, ?_, place.ends_unlock readsStill isLock⟩
  · exact (place.ends_touch readsStill isLock).mono fun _ _ => And.left
  · intro retries
    exact (place.ends_lock readsStill isLock retries).mono fun _ _ ended lasts => (ended lasts).2

/-! ## A lock that is touched and contended for -/

/-- A user whose mailbox lies in the root. -/
def rootClient : MailClient where
  programs := .standard
  environment := [("MAIL", "/u")]
  config := none
  user := "u"

def bareHost : Host :=
  Host.boot 0 fun number => number

/-- The first process takes the lock. -/
def lockedRun : Outcome × Host :=
  (rootClient.run bareHost 1 ["mail", "lock", "--user", "u"]).get (by decide +kernel)

/-- After 200 seconds the lock is touched. -/
def touchedRun : Outcome × Host :=
  (rootClient.run { lockedRun.2 with now := seconds 200 } 1
    ["mail", "touch", "--user", "u"]).get (by decide +kernel)

/-- After 400 seconds somebody comes for the lock, and once more after a rest. -/
def contendedRun : Outcome × Host :=
  (rootClient.run { touchedRun.2 with now := seconds 400 } 1
    ["mail", "lock", "--retries", "1", "--user", "u"]).get (by decide +kernel)

theorem idles_of_agenda {host : Host} (empty : host.agenda = []) (time : Instant) :
    host.Idles { host with now := time } :=
  ⟨rfl, fun _ member => by simp [empty] at member⟩

theorem eq_some_get {ended : Option (Outcome × Host)} (isSome : ended.isSome = true) :
    ended = some ((ended.get isSome).1, (ended.get isSome).2) :=
  (Option.some_get isSome).symm

theorem asks_lock : rootClient.Asks ["mail", "lock", "--user", "u"] (.lock 5) := by
  unfold Asks
  decide +kernel

theorem run_lockedRun :
    rootClient.run bareHost 1 ["mail", "lock", "--user", "u"] =
      some (lockedRun.1, lockedRun.2) :=
  eq_some_get _

theorem serves_touchedRun : rootClient.Serves {} "/u.lock" lockedRun.2 touchedRun.2 := by
  have agenda : lockedRun.2.agenda = [] := by decide +kernel
  have waited : rootClient.Serves {} "/u.lock" lockedRun.2
      { lockedRun.2 with now := seconds 200 } :=
    .passes .refl (idles_of_agenda agenda _)
  have asks : rootClient.Asks ["mail", "touch", "--user", "u"] .touch := by
    unfold Asks
    decide +kernel
  exact waited.touches asks (eq_some_get _)

theorem serves_contendedRun : rootClient.Serves {} "/u.lock" lockedRun.2 contendedRun.2 := by
  have agenda : touchedRun.2.agenda = [] := by decide +kernel
  have waited : rootClient.Serves {} "/u.lock" lockedRun.2
      { touchedRun.2 with now := seconds 400 } :=
    serves_touchedRun.passes (idles_of_agenda agenda _)
  have asks : rootClient.Asks ["mail", "lock", "--retries", "1", "--user", "u"] (.lock 1) := by
    unfold Asks
    decide +kernel
  exact waited.contends asks (eq_some_get _) (by decide +kernel)

theorem unlock_inverts_lock_contendedRun :
    lockedRun.1.code = 0 ∧ touchedRun.1.code = 0 ∧ contendedRun.1.code = 75 ∧
      rootClient.Serves {} "/u.lock" lockedRun.2 contendedRun.2 ∧
      rootClient.Ends contendedRun.2 .unlock fun outcome after =>
        outcome.code = 0 ∧ SameContents bareHost.files after.files := by
  have still : bareHost.IsStill := fun _ member => by simp [bareHost, Host.boot] at member
  have reads : rootClient.Reads {} bareHost := by
    unfold Reads
    decide +kernel
  have locked : lockedRun.1.code = 0 := by decide +kernel
  refine ⟨locked, by decide +kernel, by decide +kernel, serves_contendedRun, ?_⟩
  have isLock : rootClient.lockPath {} = .ok "/u.lock" := by decide +kernel
  have free : bareHost.named? "/u.lock" = none := by decide +kernel
  exact (unlock_inverts_lock (sound_empty 0) still reads isLock free asks_lock run_lockedRun locked
    serves_contendedRun).2.2.2

end MailClient

end MailSpool

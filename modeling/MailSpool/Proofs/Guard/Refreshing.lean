import MailSpool.Proofs.Dotlock.OwnerRecords
import MailSpool.Proofs.Dotlock.Records
import MailSpool.Proofs.Guard.BothLocks
import MailSpool.Proofs.Spool.Yielding

/-!
# A guard that is refreshed

While a guard lives, its refresher touches the lock file, at the latest when the interval of its
settings and some delay have passed. If the two together are shorter than a lock may go without a
touch, the lock never grows old, and its owner is alive. So, by `never_broken`, no locker with the
same settings comes to break it, at whatever point of its attempt a tick comes, however often the
locker tries and however long it rests.

A locker removes the lock that it holds before it takes another one, and of that lock it knows the
path only. So what is told here is told of lockers that do not hold the path of the guard's lock.
-/

namespace MailSpool

open FileSystem

theorem not_old_of_prompt {now ticked modified : Int} {interval delay limit : Nat}
    (late : now ≤ ticked + (interval + delay : Nat)) (touched : ticked ≤ modified)
    (prompt : interval + delay < limit) : ¬(limit : Int) < now - modified := by
  omega

theorem RefreshTask.exists_touched {task : RefreshTask} {host : Host} {directory : FileId}
    {name : String} {id : FileId} {content : ByteArray} (writable : Host.IsWritable task.path)
    (lies : host.files.LiesAt task.path directory name id)
    (regular : host.files.node? id = some (.regular content)) :
    ∃ found, host.files.file id = some found ∧
      (task.run host).files.file id =
        some { found with modified := host.now, accessed := host.now } ∧
      SameEntries host.files (task.run host).files := by
  rcases Host.exists_stat writable lies.names regular with ⟨found, looked, _⟩
  rcases Host.exists_touch looked with ⟨touching, touched⟩
  rcases touch_spec (Host.touch_eq_ok touched).1 with
    ⟨_, _, lookedAgain, isTouched, same, _, _⟩
  cases (Host.stat_eq_ok_iff.mp looked).2.symm.trans lookedAgain
  rcases find_eq_ok_iff.mp lookedAgain with ⟨_, _, _, isFound⟩
  rw [show task.run host = touching by simp only [run, touched]]
  exact ⟨found, isFound, isTouched, same⟩

/-- A guard that lives, and lockers that share the host with it. -/
structure Contention where
  guard : SpoolGuard
  rivals : SharedSpool
  /-- When the refresher has last touched the lock. -/
  ticked : Instant

/-- What happens while a guard lives. -/
inductive ContentionEvent where
  /-- The refresher does its task. -/
  | tick
  | act (index : Nat) (deed : LockerDeed)
  /-- Time passes, or others act. -/
  | change (next : Host)

namespace Contention

def host (contention : Contention) : Host :=
  contention.rivals.host

def settings (contention : Contention) : MailSettings :=
  contention.guard.bridge.settings.mail

def step (contention : Contention) : ContentionEvent → Contention
  | .tick =>
    { contention with
      rivals := { contention.rivals with
        host := (contention.guard.refresher.map fun task =>
          task.run contention.host).getD contention.host }
      ticked := contention.host.now }
  | .act index deed => { contention with rivals := contention.rivals.step (.act index deed) }
  | .change next => { contention with rivals := contention.rivals.step (.change next) }

/-- A guard and lockers that hold nothing yet come together on a host. -/
def meet (guard : SpoolGuard) (host : Host) (lockers : Nat → Locker) : Contention where
  guard := guard
  rivals := .opened host lockers
  ticked := host.now

def run (contention : Contention) (events : List ContentionEvent) : Contention :=
  events.foldl step contention

/-- What others may do besides, when the refresher is late by a delay at most. They leave the guard
its lock and its process, the rivals their temporary files, and they lead no path of a rival's lock
to an entry to which it did not lead. -/
structure Tolerates (contention : Contention) (lock : StandingLock) (path : String) (delay : Nat)
    (next : Host) : Prop where
  clock : contention.host.now ≤ next.now
  prompt : next.now ≤
    contention.ticked + (seconds contention.settings.refreshInterval.toNat + delay : Nat)
  alive : next.isAlive contention.guard.bridge.process = true
  sound : next.files.Sound
  lies : next.files.LiesAt path lock.directory lock.name lock.file
  file : next.files.file lock.file = contention.host.files.file lock.file
  orderly : ∀ index, (contention.rivals.participant index).Orderly next.files
  paths : ∀ index other, (contention.rivals.participant index).ActsOn other →
    LeadsNoFurther contention.host.files next.files other ∧ next.files.NamesNoLink other

/-- What may happen: ticks, deeds of rivals that contend for locks by `Contends`, and what the
contention `Tolerates`. -/
def Admits (contention : Contention) (lock : StandingLock) (path : String) (delay : Nat) :
    ContentionEvent → Prop
  | .tick => True
  | .act index deed => (contention.rivals.participant index).Contends contention.host deed
  | .change next => contention.Tolerates lock path delay next

def Permits (lock : StandingLock) (path : String) (delay : Nat) :
    Contention → List ContentionEvent → Prop
  | _, [] => True
  | contention, event :: later =>
    contention.Admits lock path delay event ∧ (contention.step event).Permits lock path delay later

/-- The refresher of a guard has just touched the lock, which holds the record of the guard's
process, and no rival holds the lock or is about to take one. -/
structure Begins (contention : Contention) (lock : StandingLock) (path : String) : Prop where
  refresher : contention.guard.refresher =
    some { process := contention.guard.bridge.process, path := path }
  owner : lock.owner = contention.guard.bridge.process
  positive : 0 < lock.owner
  small : lock.owner ≤ ownerLimit
  alive : contention.host.isAlive lock.owner = true
  sound : contention.host.files.Sound
  writable : Host.IsWritable path
  lies : contention.host.files.LiesAt path lock.directory lock.name lock.file
  record : contention.host.files.node? lock.file =
    some (.regular (ownerRecord (.ofNat lock.owner)))
  touched : ∀ found, contention.host.files.file lock.file = some found →
    found.modified = contention.host.now
  ticked : contention.ticked = contention.host.now
  rivals : ∀ index, ∃ locker own,
    contention.rivals.participant index = { activity := .free locker, own := own } ∧
      locker.settings = contention.settings ∧
      ∀ held, locker.held = some held → held.path.toList.getLast? = some 'k' ∧
        lock.Avoided contention.host.files held.path

/-- What holds from the first tick on: the lock is where it was, with the content that it had, and
it was touched at the last tick or later. -/
structure Upholds (contention : Contention) (lock : StandingLock) (path : String) (delay : Nat) :
    Prop where
  refresher : ∃ task, contention.guard.refresher = some task ∧ task.path = path
  owner : lock.owner = contention.guard.bridge.process
  positive : 0 < lock.owner
  small : lock.owner ≤ ownerLimit
  alive : contention.host.isAlive lock.owner = true
  writable : Host.IsWritable path
  tidy : contention.rivals.Tidy
  lies : contention.host.files.LiesAt path lock.directory lock.name lock.file
  file : ∃ found, contention.host.files.file lock.file = some found ∧
    found.node = .regular (ownerRecord (.ofNat lock.owner)) ∧ contention.ticked ≤ found.modified
  clock : contention.ticked ≤ contention.host.now
  prompt : contention.host.now ≤
    contention.ticked + (seconds contention.settings.refreshInterval.toNat + delay : Nat)
  yields : ∀ index, (contention.rivals.participant index).Yields lock contention.settings
    contention.host.files

variable {contention : Contention} {lock : StandingLock} {path : String} {delay : Nat}

theorem Begins.upholds (begins : contention.Begins lock path) :
    contention.Upholds lock path delay where
  refresher := ⟨_, begins.refresher, rfl⟩
  owner := begins.owner
  positive := begins.positive
  small := begins.small
  alive := begins.alive
  writable := begins.writable
  tidy := by
    refine ⟨begins.sound, ?_, ?_⟩
    · intro index
      rcases begins.rivals index with ⟨locker, own, free, _, held⟩
      rw [free]
      exact fun holding isHeld => (held holding isHeld).1
    · intro index other file uses
      rcases begins.rivals index with ⟨locker, own, free, _⟩
      rw [free] at uses
      exact False.elim uses
  lies := begins.lies
  file := by
    rcases Option.map_eq_some_iff.mp begins.record with ⟨found, isFound, holds⟩
    exact ⟨found, isFound, holds,
      Int.le_of_eq (begins.ticked.trans (begins.touched found isFound).symm)⟩
  clock := Int.le_of_eq begins.ticked
  prompt := by
    rw [begins.ticked]
    exact Int.le_add_of_nonneg_right (Int.natCast_nonneg _)
  yields index := by
    rcases begins.rivals index with ⟨locker, own, free, same, held⟩
    rw [free]
    refine Participant.yields_free own same ?_
    intro other isHeld
    rcases Option.map_eq_some_iff.mp isHeld with ⟨holding, isHolding, rfl⟩
    exact (held holding isHolding).2

namespace Upholds

variable (upholds : contention.Upholds lock path delay)
  (prompt : seconds contention.settings.refreshInterval.toNat + delay <
    seconds contention.settings.staleAfter.toNat)
include upholds

theorem record : contention.host.files.node? lock.file =
    some (.regular (ownerRecord (.ofNat lock.owner))) := by
  rcases upholds.file with ⟨found, isFound, holds, _⟩
  rw [node?, isFound, Option.map_some, holds]

include prompt in
/-- The lock `Stands`: it was touched in time, and its owner is alive. -/
theorem stands : lock.Stands contention.settings contention.host where
  child := upholds.lies.child?
  content := by
    refine ⟨_, upholds.record, ?_⟩
    have same : (UInt32.ofNat lock.owner).toNat = lock.owner :=
      UInt32.toNat_ofNat_of_lt (Nat.lt_of_le_of_lt upholds.small (by decide))
    rw [ownerOfContent_ownerRecord, same, if_pos ⟨upholds.positive, upholds.small⟩]
  fresh found isFound := by
    rcases upholds.file with ⟨details, isFile, _, touched⟩
    cases isFile.symm.trans isFound
    exact decide_eq_false (not_old_of_prompt upholds.prompt touched prompt)
  alive := upholds.alive

omit prompt in
/-- A tick keeps `Upholds`, and the lock is fresh again. -/
theorem tick : (contention.step .tick).Upholds lock path delay := by
  rcases upholds.refresher with ⟨task, isTask, isPath⟩
  rcases RefreshTask.exists_touched (isPath ▸ upholds.writable) (isPath ▸ upholds.lies)
    upholds.record with ⟨found, isFound, isTouched, same⟩
  rcases upholds.file with ⟨old, isOld, holds, _⟩
  cases isOld.symm.trans isFound
  have ticks : contention.step .tick =
      { contention with
        rivals := { contention.rivals with host := task.run contention.host }
        ticked := contention.host.now } := by
    simp only [step, isTask, Option.map_some, Option.getD_some]
  rw [ticks]
  have spares : Spares contention.host.files (task.run contention.host).files fun _ => False :=
    .run_task task contention.host _
  have world := task.sameWorld_run contention.host
  exact
    { refresher := ⟨task, isTask, isPath⟩
      owner := upholds.owner
      positive := upholds.positive
      small := upholds.small
      alive := (congrArg (fun process => (process lock.owner).isSome) world.process).trans
        upholds.alive
      writable := upholds.writable
      tidy :=
        ⟨spares.sound upholds.tidy.sound,
          fun index => (upholds.tidy.orderly index).spared spares fun _ _ => not_false,
          upholds.tidy.distinct⟩
      lies := upholds.lies.sameEntries same
      file := ⟨_, isTouched, holds, Int.le_refl _⟩
      clock := Int.le_of_eq world.now.symm
      prompt := by
        change (task.run contention.host).now ≤ _
        rw [world.now]
        exact Int.le_add_of_nonneg_right (Int.natCast_nonneg _)
      yields := fun index => (upholds.yields index).of_narrows same.narrows }

include prompt in
/-- The deed of a rival that `Contends` keeps `Upholds`. -/
theorem act {index : Nat} {deed : LockerDeed}
    (contends : (contention.rivals.participant index).Contends contention.host deed) :
    (contention.step (.act index deed)).Upholds lock path delay := by
  have stands := upholds.stands prompt
  have yields := upholds.yields index
  have orderly := upholds.tidy.orderly index
  have sound := upholds.tidy.sound
  rcases Participant.sameTime_perform (contention.rivals.participant index)
    contention.host deed with
    ⟨sameNow, sameProcess⟩
  have tidy := upholds.tidy.step_act index deed
  have lies := yields.lies_perform orderly sound upholds.lies deed
  refine ⟨upholds.refresher, upholds.owner, upholds.positive, upholds.small, ?_, upholds.writable,
    tidy, lies, ?_, sameNow ▸ upholds.clock, sameNow ▸ upholds.prompt, ?_⟩
  · exact (congrArg (fun process => (process lock.owner).isSome) sameProcess).trans upholds.alive
  · rcases upholds.file with ⟨old, isOld, holds, touched⟩
    rcases Option.isSome_iff_exists.mp (tidy.sound.named _ _ _ lies.child?) with ⟨found, isFound⟩
    rcases yields.renews_perform orderly sound stands deed found isFound with
      ⟨before, isBefore, sameNode, renewed⟩
    cases isBefore.symm.trans isOld
    refine ⟨found, isFound, sameNode.trans holds, ?_⟩
    rcases renewed with same | now
    · rw [same]
      exact touched
    · rw [now]
      exact upholds.clock
  · intro other
    change ((contention.rivals.step (.act index deed)).participant other).Yields lock
      contention.settings (contention.rivals.step (.act index deed)).host.files
    by_cases acts : other = index
    · subst acts
      rw [SharedSpool.participant_step_act_self]
      exact yields.perform stands orderly sound contends
    · rw [SharedSpool.participant_step_act_of_ne _ deed acts]
      exact (upholds.yields other).of_narrows (upholds.tidy.spares_act index deed).narrows

/-- What a contention `Tolerates` of time and of others keeps `Upholds`. -/
theorem change {next : Host} (tolerates : contention.Tolerates lock path delay next) :
    (contention.step (.change next)).Upholds lock path delay where
  refresher := upholds.refresher
  owner := upholds.owner
  positive := upholds.positive
  small := upholds.small
  alive := upholds.owner ▸ tolerates.alive
  writable := upholds.writable
  tidy := ⟨tolerates.sound, tolerates.orderly, upholds.tidy.distinct⟩
  lies := tolerates.lies
  file := by
    rcases upholds.file with ⟨found, isFound, recorded⟩
    exact ⟨found, tolerates.file.trans isFound, recorded⟩
  clock := Int.le_trans upholds.clock tolerates.clock
  prompt := tolerates.prompt
  yields index := (upholds.yields index).kept fun other acts => tolerates.paths index other acts

include prompt in
theorem run {events : List ContentionEvent} (permits : contention.Permits lock path delay events) :
    (contention.run events).Upholds lock path delay := by
  induction events generalizing contention with
  | nil => exact upholds
  | cons event later ih =>
      rcases permits with ⟨admits, permits⟩
      cases event with
      | tick => exact ih upholds.tick prompt permits
      | act index deed => exact ih (upholds.act prompt admits) prompt permits
      | change next => exact ih (upholds.change admits) prompt permits

omit prompt in
/-- The mere passing of time is what a contention `Tolerates` until the refresher is too late. -/
theorem tolerates_later {later : Instant} (clock : contention.host.now ≤ later)
    (inTime : later ≤
      contention.ticked + (seconds contention.settings.refreshInterval.toNat + delay : Nat)) :
    contention.Tolerates lock path delay { contention.host with now := later } where
  clock := clock
  prompt := inTime
  alive := upholds.owner ▸ upholds.alive
  sound := upholds.tidy.sound
  lies := upholds.lies
  file := rfl
  orderly := upholds.tidy.orderly
  paths index other acts :=
    ⟨(Narrows.refl contention.host.files).leadsNoFurther other, (upholds.yields index).noLink acts⟩

omit prompt in
theorem namesNoLink : contention.host.files.NamesNoLink path := by
  intro link names
  rw [upholds.lies.names.leads.eq_of_names names]
  exact (plain_of_node? upholds.record).2

end Upholds

theorem permits_steps (contention : Contention) (index count : Nat) :
    contention.Permits lock path delay (List.replicate count (.act index .step)) := by
  induction count generalizing contention with
  | zero => trivial
  | succ count ih => exact ⟨Participant.contends_step _ _, ih _⟩

/-- Lockers with the settings of a bridge meet its guard, whose refresher ticks. -/
def watched : Contention :=
  step
    (meet SpoolGuard.plainGuard
      (SpoolGuard.acquire SpoolGuard.plainBridge SpoolGuard.readerHost "u" "rw" 0).2
      fun _ => SpoolGuard.plainBridge.locker) .tick

/-- The refresher is late by more than a minute, and then a rival tries to take the lock. -/
def attempt : List ContentionEvent :=
  .change { watched.host with now := watched.host.now + seconds 100 } :: .tick ::
    .act 0 (.acquire "u" 0) :: List.replicate 9 (.act 0 .step)

end Contention

end MailSpool

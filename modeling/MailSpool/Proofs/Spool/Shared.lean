import Mathlib.Logic.Function.Basic
import MailSpool.Proofs.Dotlock.Steps

/-!
# A spool that lockers share

Any number of lockers share the files of a host. Each of them is free or takes a lock, one step at
a time, so the steps of several lockers and all that others do come in any order. A task that
refreshes a lock lives apart from the locker that has lent it. Which file a locker has made, or
found when it adopted a lock, is no part of what lockers know: `own` keeps account of it.
-/

namespace MailSpool

/-- The path of the lock that a locker holds. -/
def Locker.heldPath? (locker : Locker) : Option String :=
  locker.held.map HeldLock.path

theorem Locker.files_release_of_heldPath? {locker : Locker} {path : String} (host : Host)
    (held : locker.heldPath? = some path) :
    (locker.release host).2.files = host.remaining path := by
  rcases Option.map_eq_some_iff.mp held with ⟨holding, isHeld, rfl⟩
  rw [files_release, isHeld]
  rfl

/-- What a locker of a shared spool is about. -/
inductive LockerActivity where
  | free (locker : Locker)
  | taking (work : Acquisition)
  | gone
  deriving DecidableEq, Repr

namespace LockerActivity

/-- An acquisition that has ended sets its locker free. -/
def ofAcquisition (work : Acquisition) : LockerActivity :=
  match work.stage with
  | .finished _ => .free work.locker
  | _ => .taking work

def locker? : LockerActivity → Option Locker
  | .free locker => some locker
  | .taking work => some work.locker
  | .gone => none

@[simp]
theorem locker?_ofAcquisition (work : Acquisition) :
    (ofAcquisition work).locker? = some work.locker := by
  unfold ofAcquisition
  split <;> rfl

end LockerActivity

/-- A locker of a shared spool. -/
structure Participant where
  activity : LockerActivity
  /-- The file that it has made to link it, or has found when it adopted a lock. -/
  own : Option FileId := none
  deriving DecidableEq, Repr

/-- What a locker does at one time. Taking a lock is begun, and then made step by step. -/
inductive LockerDeed where
  | acquire (user : String) (retries : UInt32)
  | step
  | adopt (user : String)
  | release
  | refresh
  | persist
  | drop
  deriving DecidableEq, Repr

/-- A task that touches a lock, and the file that its locker called its own when it lent it. -/
structure LentTask where
  task : RefreshTask
  own : Option FileId
  deriving DecidableEq, Repr

namespace Participant

def heldPath? (participant : Participant) : Option String :=
  participant.activity.locker?.bind Locker.heldPath?

/-- A deed of a locker. One that takes a lock can do nothing but the next step of that. -/
def perform (participant : Participant) (host : Host) (deed : LockerDeed) : Participant × Host :=
  match participant.activity, deed with
  | .free locker, .acquire user retries =>
    match locker.lockPath host user with
    | .error status =>
      let (_, rejected, told) := locker.reject host user status
      ({ participant with activity := .free rejected }, told)
    | .ok lock =>
      let (work, drawn) := Acquisition.begin locker host user lock retries
      ({ participant with activity := .taking work }, drawn)
  | .taking work, .step =>
    let (next, after) := work.step host
    ({ activity := .ofAcquisition next, own := next.stage.made?.or participant.own }, after)
  | .free locker, .adopt user =>
    let (status, adopted) := locker.adopt host user
    let own :=
      if status.isSuccess then adopted.held.bind fun held => host.named? held.path
      else participant.own
    ({ activity := .free adopted, own := own }, host)
  | .free locker, .release =>
    let (freed, after) := locker.release host
    ({ participant with activity := .free freed }, after)
  | .free locker, .refresh => (participant, locker.refresh host)
  | .free locker, .persist => ({ participant with activity := .free locker.persist.2 }, host)
  | .free locker, .drop => ({ participant with activity := .gone }, locker.drop host)
  | _, _ => (participant, host)

theorem perform_adopt (locker : Locker) (own : Option FileId) (host : Host) (user : String) :
    (∃ path file, locker.lockPath host user = .ok path ∧ host.named? path = some file ∧
      perform { activity := .free locker, own := own } host (.adopt user) =
        ({ activity := .free { locker with held := some { user := user, path := path } }
           own := some file }, host)) ∨
    perform { activity := .free locker, own := own } host (.adopt user) =
      ({ activity := .free locker, own := own }, host) := by
  rcases locker.adopt_cases host user with
    ⟨path, file, found, named, adopted⟩ | ⟨status, failed, same⟩
  · refine Or.inl ⟨path, file, found, named, ?_⟩
    simp [perform, adopted, named, MailLockStatus.isSuccess]
  · refine Or.inr ?_
    simp [perform, same, failed, MailLockStatus.isSuccess]

theorem perform_release (locker : Locker) (own : Option FileId) (host : Host) :
    perform { activity := .free locker, own := own } host .release =
      ({ activity := .free { locker with held := none }, own := own },
        (locker.release host).2) := by
  rw [← locker.locker_release host]
  rfl

def lend? (participant : Participant) : Option LentTask :=
  match participant.activity with
  | .free locker =>
    locker.refreshTask?.map fun task => { task := task, own := participant.own }
  | _ => none

end Participant

/-- What can happen on a shared spool. -/
inductive SpoolEvent where
  | act (index : Nat) (deed : LockerDeed)
  /-- A locker lends a task that refreshes the lock that it holds. -/
  | lend (index : Nat)
  /-- A task that was lent is done. -/
  | run (number : Nat)
  /-- Time passes, a process starts or ends, or somebody else acts. -/
  | change (next : Host)

structure SharedSpool where
  host : Host
  participant : Nat → Participant
  tasks : List LentTask

namespace SharedSpool

/-- Lockers that hold nothing yet come together on a host. -/
def opened (host : Host) (lockers : Nat → Locker) : SharedSpool where
  host := host
  participant index := { activity := .free { lockers index with held := none } }
  tasks := []

/-- A spool on which nothing has happened yet, with files of which each has a number of its own. -/
def IsOpened (spool : SharedSpool) : Prop :=
  spool.host.files.Sound ∧ ∃ lockers, spool = opened spool.host lockers

/-- What happens on the spool. A task that was not lent cannot be done. -/
def step (spool : SharedSpool) : SpoolEvent → SharedSpool
  | .act index deed =>
    let (next, host) := (spool.participant index).perform spool.host deed
    { spool with host := host, participant := Function.update spool.participant index next }
  | .lend index => { spool with tasks := spool.tasks ++ (spool.participant index).lend?.toList }
  | .run number =>
    { spool with
      host := (spool.tasks[number]?.map fun lent => lent.task.run spool.host).getD spool.host }
  | .change next => { spool with host := next }

def run (spool : SharedSpool) (events : List SpoolEvent) : SharedSpool :=
  events.foldl step spool

/-- Each event of a run is one of those that are permitted in the state it finds. -/
def Permits (permitted : SharedSpool → SpoolEvent → Prop) : SharedSpool → List SpoolEvent → Prop
  | _, [] => True
  | spool, event :: later =>
    permitted spool event ∧ (spool.step event).Permits permitted later

variable {permitted : SharedSpool → SpoolEvent → Prop}

theorem run_append (spool : SharedSpool) (early late : List SpoolEvent) :
    spool.run (early ++ late) = (spool.run early).run late :=
  List.foldl_append

theorem run_append_singleton (spool : SharedSpool) (events : List SpoolEvent)
    (event : SpoolEvent) : spool.run (events ++ [event]) = (spool.run events).step event := by
  rw [run_append]
  rfl

theorem permits_append_iff {spool : SharedSpool} {early late : List SpoolEvent} :
    spool.Permits permitted (early ++ late) ↔
      spool.Permits permitted early ∧ (spool.run early).Permits permitted late := by
  induction early generalizing spool with
  | nil => simp [Permits, run]
  | cons event rest ih =>
      simp only [List.cons_append, Permits, ih, and_assoc]
      rfl

theorem permits_append_singleton_iff {spool : SharedSpool} {events : List SpoolEvent}
    {event : SpoolEvent} :
    spool.Permits permitted (events ++ [event]) ↔
      spool.Permits permitted events ∧ permitted (spool.run events) event := by
  rw [permits_append_iff]
  simp [Permits]

theorem permits_of_forall {spool : SharedSpool} {events : List SpoolEvent}
    (always : ∀ event ∈ events, ∀ state, permitted state event) :
    spool.Permits permitted events := by
  induction events generalizing spool with
  | nil => trivial
  | cons event later ih =>
      refine ⟨always event List.mem_cons_self spool, ih ?_⟩
      exact fun other member => always other (List.mem_cons_of_mem event member)

/-- What every event preserves holds throughout a run that `Permits` allows. -/
theorem run_induction {Invariant : SharedSpool → Prop} {spool : SharedSpool}
    {events : List SpoolEvent} (initial : Invariant spool)
    (preserved : ∀ state event, Invariant state → permitted state event →
      Invariant (state.step event))
    (permits : spool.Permits permitted events) : Invariant (spool.run events) := by
  induction events generalizing spool with
  | nil => exact initial
  | cons event later ih => exact ih (preserved spool event initial permits.1) permits.2

@[simp]
theorem participant_step_act_self (spool : SharedSpool) (index : Nat) (deed : LockerDeed) :
    (spool.step (.act index deed)).participant index =
      ((spool.participant index).perform spool.host deed).1 :=
  Function.update_self ..

theorem participant_step_act_of_ne (spool : SharedSpool) {index other : Nat} (deed : LockerDeed)
    (different : other ≠ index) :
    (spool.step (.act index deed)).participant other = spool.participant other :=
  Function.update_of_ne different ..

/-- What no two lockers have in common they do not have in common after a deed of one of them, if
that one comes to have nothing that another has. -/
theorem unshared_act {spool : SharedSpool} {Has : Participant → FileId → Prop} {index : Nat}
    {deed : LockerDeed}
    (unshared : ∀ one other file, Has (spool.participant one) file →
      Has (spool.participant other) file → one = other)
    (apart : ∀ other file, other ≠ index → Has (spool.participant other) file →
      ¬Has ((spool.participant index).perform spool.host deed).1 file) :
    ∀ one other file, Has ((spool.step (.act index deed)).participant one) file →
      Has ((spool.step (.act index deed)).participant other) file → one = other := by
  intro one other file hasOne hasOther
  by_cases oneActs : one = index
  · subst oneActs
    by_cases otherActs : other = one
    · exact otherActs.symm
    · rw [participant_step_act_self] at hasOne
      rw [participant_step_act_of_ne spool deed otherActs] at hasOther
      exact absurd hasOne (apart other file otherActs hasOther)
  · rw [participant_step_act_of_ne spool deed oneActs] at hasOne
    by_cases otherActs : other = index
    · subst otherActs
      rw [participant_step_act_self] at hasOther
      exact absurd hasOther (apart one file oneActs hasOne)
    · rw [participant_step_act_of_ne spool deed otherActs] at hasOther
      exact unshared one other file hasOne hasOther

/-- Lockers of one process share a root directory in which nothing lies yet. -/
def bareSpool : SharedSpool :=
  opened (Host.boot 0 fun number => number) fun _ =>
    { process := 1, settings := { spoolDirectory := "/", honorMail := false, checkOwner := false } }

/-- A locker takes the lock of a user in a number of steps, without retrying. -/
def taking (index steps : Nat) : List SpoolEvent :=
  .act index (.acquire "u" 0) :: List.replicate steps (.act index .step)

theorem isOpened_bareSpool : bareSpool.IsOpened :=
  ⟨FileSystem.sound_empty 0, _, rfl⟩

end SharedSpool

end MailSpool

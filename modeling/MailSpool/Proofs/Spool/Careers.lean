import Mathlib.Algebra.GroupWithZero.Nat
import MailSpool.Proofs.Dotlock.Turns
import MailSpool.Proofs.Spool.Shared

/-!
# What the state of a locker tells of its calls

A locker remembers the lock that it holds and counts what it has done. Beside it a list is kept of
the calls that have returned, each with what came of it. Between two calls, what the locker
remembers is told by that list, `Locker.Tells`: the lock that it holds is the one that it was the
last to obtain, if it has done nothing since to let it go, and its counts are those of the calls in
the list.

Taking a lock is many steps, and others may act between any two of them. A step counts one thing at
most, by `Tally`: an attempt that has to wait, or the end. The lock that was held before is let go
at the first step, and a lock is held again only at the end, if it was taken.
-/

namespace MailSpool

namespace AcquisitionStage

/-- A stage behind the first step and before the end. -/
def IsUnderWay (stage : AcquisitionStage) : Prop :=
  stage ≠ .releasing ∧ ∀ status, stage ≠ .finished status

end AcquisitionStage

namespace Acquisition

/-- What a step that is not beyond the end counts, and which lock is held then. -/
inductive Tally (work next : Acquisition) : Prop where
  | goesOn (removed : Nat) (underWay : next.stage.IsUnderWay)
      (attempt : next.attempt = work.attempt)
      (held : next.locker.held = none ∨
        work.stage ≠ .releasing ∧ next.locker.held = work.locker.held)
      (counts : next.locker.counts = { work.locker.counts with staleRemoved := removed })
  | waits (begun : work.stage ≠ .releasing) (underWay : next.stage.IsUnderWay)
      (may : work.attempt.toNat < work.retries.toNat)
      (attempt : next.attempt.toNat = work.attempt.toNat + 1)
      (held : next.locker.held = work.locker.held)
      (counts : next.locker.counts =
        { work.locker.counts with contentions := work.locker.counts.contentions + 1 })
  | succeeds (stage : next.stage = .finished .success)
      (held : next.locker.held = some { user := work.user, path := work.lock })
      (counts : next.locker.counts =
        { work.locker.counts with acquisitions := work.locker.counts.acquisitions + 1 })
  | fails (status : MailLockStatus) (begun : work.stage ≠ .releasing)
      (stage : next.stage = .finished status) (failed : status ≠ .success)
      (held : next.locker.held = work.locker.held)
      (counts : next.locker.counts =
        { work.locker.counts with failures := work.locker.counts.failures + 1 })

variable {work : Acquisition}

theorem tally_atStage (begun : work.stage ≠ .releasing) {stage : AcquisitionStage}
    (underWay : stage.IsUnderWay) : Tally work (work.atStage stage) :=
  .goesOn work.locker.counts.staleRemoved underWay rfl (Or.inr ⟨begun, rfl⟩) rfl

theorem tally_giveUp (begun : work.stage ≠ .releasing) {status : MailLockStatus}
    (failed : status ≠ .success) : Tally work (work.giveUp status) :=
  .fails status begun rfl failed rfl rfl

theorem tally_wait (begun : work.stage ≠ .releasing) (host : Host) :
    Tally work (work.wait host).1 := by
  unfold wait
  split
  case isTrue => exact tally_atStage begun ⟨by simp, by simp⟩
  case isFalse may =>
    have less : work.attempt.toNat < work.retries.toNat := by
      rwa [UInt32.not_le, UInt32.lt_iff_toNat_lt] at may
    refine .waits begun ⟨by simp, by simp⟩ less ?_ rfl rfl
    have small := work.retries.toNat_lt
    simp only [UInt32.toNat_add, UInt32.toNat_one]
    omega

theorem tally_notLinked (begun : work.stage ≠ .releasing) (host : Host)
    (refusal : Option IoError) : Tally work (work.notLinked host refusal).1 := by
  unfold notLinked
  split
  · exact tally_atStage begun ⟨by simp, by simp⟩
  · split
    · exact tally_atStage begun ⟨by simp, by simp⟩
    · exact tally_atStage begun ⟨by simp, by simp⟩

theorem tally_notBroken (begun : work.stage ≠ .releasing) (host : Host) (error : IoError) :
    Tally work (work.notBroken host error).1 := by
  unfold notBroken
  split
  · exact tally_atStage begun ⟨by simp, by simp⟩
  · exact tally_atStage begun ⟨by simp, by simp⟩

theorem tally_finish (begun : work.stage ≠ .releasing) (host : Host) (status : MailLockStatus) :
    Tally work (work.finish host status).1 := by
  unfold finish
  split
  case isTrue success =>
    obtain rfl : status = .success := by simpa [MailLockStatus.isSuccess] using success
    exact .succeeds rfl rfl rfl
  case isFalse failed =>
    exact tally_giveUp begun (by simpa [MailLockStatus.isSuccess] using failed)

theorem tally_readingOwner {found : FileId} (host : Host)
    (stage : work.stage = .readingOwner found) : Tally work (work.step host).1 := by
  have begun : work.stage ≠ .releasing := by simp [stage]
  simp only [step, stage]
  split
  · split
    · exact tally_atStage begun ⟨by simp, by simp⟩
    · exact tally_wait begun _
  · exact tally_wait begun _

theorem tally_step (host : Host) (going : ∀ status, work.stage ≠ .finished status) :
    Tally work (work.step host).1 := by
  by_cases first : work.stage = .releasing
  · simp only [step, first, Locker.locker_release]
    exact .goesOn work.locker.counts.staleRemoved ⟨by simp, by simp⟩ rfl (Or.inl rfl) rfl
  cases stage : work.stage with
  | releasing => exact absurd stage first
  | creating =>
      simp only [step, stage]
      split
      · exact tally_atStage first ⟨by simp, by simp⟩
      · exact tally_giveUp first (by simp)
  | writing file =>
      simp only [step, stage]
      split
      · exact tally_atStage first ⟨by simp, by simp⟩
      · exact tally_atStage first ⟨by simp, by simp⟩
  | discarding =>
      simp only [step, stage]
      exact tally_giveUp first (by simp)
  | linking =>
      simp only [step, stage]
      split
      · exact tally_atStage first ⟨by simp, by simp⟩
      · exact tally_atStage first ⟨by simp, by simp⟩
  | comparing refusal =>
      simp only [step, stage]
      split
      · exact tally_atStage first ⟨by simp, by simp⟩
      · exact tally_notLinked first host refusal
  | comparingLock refusal file =>
      simp only [step, stage]
      split
      · split
        · exact tally_atStage first ⟨by simp, by simp⟩
        · exact tally_notLinked first host refusal
      · exact tally_notLinked first host refusal
  | judging =>
      simp only [step, stage]
      split
      · split
        · exact tally_atStage first ⟨by simp, by simp⟩
        · split
          · exact tally_atStage first ⟨by simp, by simp⟩
          · exact tally_wait first host
      · exact tally_wait first host
  | readingOwner found => exact tally_readingOwner host stage
  | askingOwner found owner =>
      simp only [step, stage]
      split
      · exact tally_wait first host
      · exact tally_atStage first ⟨by simp, by simp⟩
  | rechecking stale =>
      simp only [step, stage]
      split
      case h_1 found file looked =>
        refine tally_atStage first ?_
        split
        · exact ⟨by simp, by simp⟩
        · exact ⟨by simp, by simp⟩
      case h_2 error looked => exact tally_notBroken first host error
  | breaking stale =>
      simp only [step, stage]
      split
      · exact .goesOn _ ⟨by simp [atStage], by simp [atStage]⟩ rfl (Or.inr ⟨first, rfl⟩) rfl
      · exact tally_notBroken first host _
  | resting wake =>
      simp only [step, stage]
      split
      · exact tally_atStage first ⟨by simp, by simp⟩
      · exact .goesOn work.locker.counts.staleRemoved ⟨first, going⟩ rfl (Or.inr ⟨first, rfl⟩) rfl
  | clearing status =>
      simp only [step, stage]
      exact tally_finish first _ status
  | finished status => exact absurd stage (going status)

end Acquisition

/-- A call of a locker that has returned, and what came of it. -/
inductive PastCall where
  /-- A lock was asked for, at the path if the name of the user was accepted. -/
  | acquire (path : Option String) (retries : UInt32) (status : MailLockStatus)
  | adopt (path : Option String) (status : MailLockStatus)
  | release
  | refresh
  | persist
  deriving DecidableEq, Repr

namespace PastCall

/-- By this call, the lock at a path was taken or adopted. -/
def Obtains (path : String) : PastCall → Prop
  | .acquire lock _ status => lock = some path ∧ status = .success
  | .adopt lock status => lock = some path ∧ status = .success
  | _ => False

/-- After this call, no lock is held that was held before. -/
def Forgets : PastCall → Prop
  | .acquire lock _ _ => lock.isSome
  | .adopt _ status => status = .success
  | .release | .persist => True
  | .refresh => False

def isAcquire : PastCall → Bool
  | .acquire _ _ _ => true
  | _ => false

/-- Whether a lock was asked for and taken. -/
def hasTaken : PastCall → Bool
  | .acquire _ _ status => status = .success
  | _ => false

/-- How often the locker was to retry. -/
def retries : PastCall → Nat
  | .acquire _ retries _ => retries.toNat
  | _ => 0

/-- A call `Obtains` a lock at a path, and no later one `Forgets` it. -/
def HeldSince (past : List PastCall) (path : String) : Prop :=
  ∃ earlier call later, past = earlier ++ call :: later ∧ call.Obtains path ∧
    ∀ other ∈ later, ¬other.Forgets

variable {past : List PastCall} {path : String}

theorem not_heldSince_nil (path : String) : ¬HeldSince [] path := by
  rintro ⟨earlier, call, later, split, _⟩
  simp at split

/-- A lock is `HeldSince` a call that `Obtains` it, until one `Forgets` it. -/
theorem heldSince_append_iff (past : List PastCall) (last : PastCall) (path : String) :
    HeldSince (past ++ [last]) path ↔
      last.Obtains path ∨ ¬last.Forgets ∧ HeldSince past path := by
  constructor
  · rintro ⟨earlier, call, later, split, obtains, unforgotten⟩
    rcases List.eq_nil_or_concat' later with rfl | ⟨between, other, rfl⟩
    · obtain ⟨rfl, rfl⟩ : past = earlier ∧ last = call := by simpa using split
      exact Or.inl obtains
    · rw [← List.cons_append, ← List.append_assoc] at split
      rcases List.append_inj' split rfl with ⟨rfl, sameLast⟩
      cases sameLast
      refine Or.inr ⟨unforgotten last (by simp), earlier, call, between, rfl, obtains, ?_⟩
      exact fun other member => unforgotten other (by simp [member])
  · rintro (obtains | ⟨keeps, earlier, call, later, rfl, obtains, unforgotten⟩)
    · exact ⟨past, last, [], rfl, obtains, by simp⟩
    · refine ⟨earlier, call, later ++ [last], by simp, obtains, ?_⟩
      intro other member
      rcases List.mem_append.mp member with early | isLast
      · exact unforgotten other early
      · rw [List.mem_singleton.mp isLast]
        exact keeps

end PastCall

open PastCall

/-- The counts of a locker are those of the calls that have returned; for an attempt that is not yet
at its end, a number of waits was counted besides. -/
structure Locker.Tells (locker : Locker) (past : List PastCall) (waits : Nat) : Prop where
  acquisitions : locker.counts.acquisitions = past.countP hasTaken
  calls : locker.counts.acquisitions + locker.counts.failures = past.countP isAcquire
  contentions : locker.counts.contentions ≤ (past.map retries).sum + waits

namespace Locker.Tells

variable {locker next : Locker} {past : List PastCall} {waits : Nat}

theorem of_removed (tells : locker.Tells past waits) {removed : Nat}
    (counts : next.counts = { locker.counts with staleRemoved := removed }) :
    next.Tells past waits := by
  rcases tells with ⟨acquisitions, calls, contentions⟩
  refine ⟨?_, ?_, ?_⟩ <;> rw [counts] <;> assumption

theorem wait (tells : locker.Tells past waits)
    (counts : next.counts = { locker.counts with contentions := locker.counts.contentions + 1 }) :
    next.Tells past (waits + 1) := by
  rcases tells with ⟨acquisitions, calls, contentions⟩
  refine ⟨?_, ?_, ?_⟩ <;> rw [counts]
  · exact acquisitions
  · exact calls
  · exact Nat.succ_le_succ contentions

theorem append_other (tells : locker.Tells past waits) {call : PastCall}
    (other : call.isAcquire = false) (counts : next.counts = locker.counts) :
    next.Tells (past ++ [call]) waits := by
  have untaken : call.hasTaken = false := by cases call <;> simp_all [isAcquire, hasTaken]
  have unretried : call.retries = 0 := by cases call <;> simp_all [isAcquire, retries]
  rcases tells with ⟨acquisitions, calls, contentions⟩
  refine ⟨?_, ?_, ?_⟩ <;> rw [counts]
  · simp [acquisitions, untaken]
  · simp [calls, other]
  · simpa [unretried] using contentions

theorem append_success (tells : locker.Tells past waits) {path : Option String} {retries : UInt32}
    (allowed : waits ≤ retries.toNat)
    (counts : next.counts = { locker.counts with acquisitions := locker.counts.acquisitions + 1 }) :
    next.Tells (past ++ [.acquire path retries .success]) 0 := by
  rcases tells with ⟨acquisitions, calls, contentions⟩
  refine ⟨?_, ?_, ?_⟩ <;> rw [counts]
  · simp [acquisitions, hasTaken]
  · simp [← calls, isAcquire]
    omega
  · simp [PastCall.retries]
    omega

theorem append_failure (tells : locker.Tells past waits) {path : Option String} {retries : UInt32}
    {status : MailLockStatus} (failed : status ≠ .success) (allowed : waits ≤ retries.toNat)
    (counts : next.counts = { locker.counts with failures := locker.counts.failures + 1 }) :
    next.Tells (past ++ [.acquire path retries status]) 0 := by
  rcases tells with ⟨acquisitions, calls, contentions⟩
  refine ⟨?_, ?_, ?_⟩ <;> rw [counts]
  · simp [acquisitions, hasTaken, failed]
  · simp [← calls, isAcquire]
    omega
  · simp [PastCall.retries]
    omega

end Locker.Tells

/-- A locker from its making on, with the calls that have returned. -/
structure Career where
  host : Host
  participant : Participant
  /-- The lock that the present call asks for, and how often it may retry. -/
  asked : Option (String × UInt32) := none
  past : List PastCall := []

/-- What happens to a locker, and around it. -/
inductive CareerEvent where
  | act (deed : LockerDeed)
  /-- Time passes, or others act. -/
  | change (next : Host)

namespace Career

/-- A new locker on a host. -/
def opened (host : Host) (process : ProcessId) (settings : MailSettings) (owner : Option UInt32) :
    Career where
  host := host
  participant :=
    { activity := .free { process := process, settings := settings, owner := owner } }

/-- What the locker is asked for with a deed. -/
def askedWith (career : Career) (deed : LockerDeed) : Option (String × UInt32) :=
  match career.participant.activity, deed with
  | .free locker, .acquire user retries =>
    (locker.lockPath career.host user).toOption.map fun path => (path, retries)
  | _, _ => career.asked

/-- The call that returns with a deed, if one does. -/
def returned? (career : Career) (deed : LockerDeed) : Option PastCall :=
  match career.participant.activity, deed with
  | .free locker, .acquire user retries =>
    match locker.lockPath career.host user with
    | .error status => some (.acquire none retries status)
    | .ok _ => none
  | .taking work, .step =>
    match career.asked, (work.step career.host).1.status? with
    | some (path, retries), some status => some (.acquire (some path) retries status)
    | _, _ => none
  | .free locker, .adopt user =>
    some (.adopt (locker.lockPath career.host user).toOption (locker.adopt career.host user).1)
  | .free _, .release => some .release
  | .free _, .refresh => some .refresh
  | .free _, .persist => some .persist
  | _, _ => none

def step (career : Career) : CareerEvent → Career
  | .act deed =>
    let (next, after) := career.participant.perform career.host deed
    { host := after
      participant := next
      asked := career.askedWith deed
      past := career.past ++ (career.returned? deed).toList }
  | .change next => { career with host := next }

def run (career : Career) (events : List CareerEvent) : Career :=
  events.foldl step career

/-- What the locker remembers is told by the calls that have returned. While a lock is taken, the
call has let go what was held before from its first step on. -/
structure Reflects (career : Career) : Prop where
  free : ∀ locker, career.participant.activity = .free locker →
    locker.Tells career.past 0 ∧
      ∀ path, locker.heldPath? = some path ↔ HeldSince career.past path
  taking : ∀ work, career.participant.activity = .taking work →
    career.asked = some (work.lock, work.retries) ∧
      work.locker.Tells career.past work.attempt.toNat ∧
      work.attempt.toNat ≤ work.retries.toNat ∧
      (∀ status, work.stage ≠ .finished status) ∧
      (work.stage = .releasing ∨ work.locker.held = none)

variable {career : Career}

theorem reflects_opened (host : Host) (process : ProcessId) (settings : MailSettings)
    (owner : Option UInt32) : (opened host process settings owner).Reflects where
  free := by
    rintro locker ⟨⟩
    refine ⟨⟨rfl, rfl, Nat.le_refl 0⟩, ?_⟩
    intro path
    simp [Locker.heldPath?, opened, not_heldSince_nil]
  taking := by
    rintro work ⟨⟩

theorem Reflects.of_idle {next : Career} (reflects : career.Reflects)
    (participant : next.participant = career.participant) (asked : next.asked = career.asked)
    (past : next.past = career.past) : next.Reflects := by
  rcases reflects with ⟨free, taking⟩
  rw [← participant, ← past] at free
  rw [← participant, ← past, ← asked] at taking
  exact ⟨free, taking⟩

section Deeds

variable {locker : Locker} {own : Option FileId} {host after : Host}
  {asked : Option (String × UInt32)} {past : List PastCall}

/-- A locker that is free after a call `Reflects` it if its counts do and the lock that it holds is
the one that the call has left. -/
theorem reflects_of_call {next : Locker} {call : PastCall} {nextOwn : Option FileId}
    {nextAsked : Option (String × UInt32)} (tells : next.Tells (past ++ [call]) 0)
    (held : ∀ path, next.heldPath? = some path ↔
      call.Obtains path ∨ ¬call.Forgets ∧ HeldSince past path) :
    Reflects ⟨after, ⟨.free next, nextOwn⟩, nextAsked, past ++ [call]⟩ where
  free := by
    rintro _ ⟨⟩
    exact ⟨tells, fun path => by rw [held, heldSince_append_iff]⟩
  taking := by
    rintro work ⟨⟩

theorem Reflects.of_other {next : Locker} {call : PastCall} {nextOwn : Option FileId}
    {nextAsked : Option (String × UInt32)}
    (reflects : Reflects ⟨host, ⟨.free locker, own⟩, asked, past⟩)
    (other : call.isAcquire = false) (counts : next.counts = locker.counts)
    (held : ∀ path, next.heldPath? = some path ↔
      call.Obtains path ∨ ¬call.Forgets ∧ locker.heldPath? = some path) :
    Reflects ⟨after, ⟨.free next, nextOwn⟩, nextAsked, past ++ [call]⟩ := by
  rcases reflects.free locker rfl with ⟨tells, heldBefore⟩
  refine reflects_of_call (tells.append_other other counts) ?_
  intro path
  rw [held, heldBefore]

theorem Reflects.acquire {user : String} {retries : UInt32}
    (reflects : Reflects ⟨host, ⟨.free locker, own⟩, asked, past⟩) :
    Reflects (step ⟨host, ⟨.free locker, own⟩, asked, past⟩ (.act (.acquire user retries))) := by
  rcases reflects.free locker rfl with ⟨tells, held⟩
  rcases found : locker.lockPath host user with status | path
  · have failed := MailSettings.ne_success_of_lockPath found
    simp only [step, Participant.perform, returned?, found, Option.toList_some]
    refine reflects_of_call (tells.append_failure failed (Nat.zero_le _) rfl) ?_
    intro path
    simpa [Obtains, Forgets, Locker.reject, Locker.heldPath?] using held path
  · simp only [step, Participant.perform, returned?, askedWith, found, Acquisition.begin_eq,
      Option.toList_none, List.append_nil]
    refine ⟨by rintro _ ⟨⟩, ?_⟩
    rintro work ⟨⟩
    refine ⟨rfl, tells, Nat.zero_le _, ?_, ?_⟩
    · intro status
      dsimp only
      split <;> simp
    · cases locker.held <;> simp

theorem step_of_underWay (own : Option FileId) (asked : Option (String × UInt32))
    (past : List PastCall) {work next : Acquisition} (stepped : work.step host = (next, after))
    (underWay : next.stage.IsUnderWay) :
    ∃ nextOwn, step ⟨host, ⟨.taking work, own⟩, asked, past⟩ (.act .step) =
      ⟨after, ⟨.taking next, nextOwn⟩, asked, past⟩ := by
  have unended : next.status? = none := by
    unfold Acquisition.status?
    split
    case h_1 status stage => exact absurd stage (underWay.2 status)
    case h_2 => rfl
  have still : LockerActivity.ofAcquisition next = .taking next := by
    unfold LockerActivity.ofAcquisition
    split
    case h_1 status stage => exact absurd stage (underWay.2 status)
    case h_2 => rfl
  refine ⟨next.stage.made?.or own, ?_⟩
  simp [step, Participant.perform, returned?, askedWith, stepped, unended, still]

theorem step_of_finished (own : Option FileId) (past : List PastCall) {work next : Acquisition}
    {status : MailLockStatus} (isAsked : asked = some (work.lock, work.retries))
    (stepped : work.step host = (next, after)) (ended : next.stage = .finished status) :
    ∃ nextOwn, step ⟨host, ⟨.taking work, own⟩, asked, past⟩ (.act .step) =
      ⟨after, ⟨.free next.locker, nextOwn⟩, asked,
        past ++ [.acquire (some work.lock) work.retries status]⟩ := by
  have isStatus : next.status? = some status := by simp [Acquisition.status?, ended]
  have free : LockerActivity.ofAcquisition next = .free next.locker := by
    simp [LockerActivity.ofAcquisition, ended]
  refine ⟨next.stage.made?.or own, ?_⟩
  simp [step, Participant.perform, returned?, askedWith, stepped, isStatus, isAsked, free]

theorem Reflects.taking_step {work : Acquisition}
    (reflects : Reflects ⟨host, ⟨.taking work, own⟩, asked, past⟩) :
    Reflects (step ⟨host, ⟨.taking work, own⟩, asked, past⟩ (.act .step)) := by
  rcases reflects.taking work rfl with ⟨isAsked, tells, allowed, going, unheld⟩
  have tally := Acquisition.tally_step host going
  have sameLock := (work.continues_step host).lock
  have sameRetries := work.retries_step host
  rcases stepped : work.step host with ⟨next, after⟩
  rw [stepped] at tally sameLock sameRetries
  have idle : work.stage ≠ .releasing → work.locker.held = none := unheld.resolve_left
  cases tally with
  | goesOn removed underWay attempt held counts =>
      rcases step_of_underWay own asked past stepped underWay with
        ⟨nextOwn, result⟩
      rw [result]
      refine ⟨by rintro _ ⟨⟩, ?_⟩
      rintro _ ⟨⟩
      refine ⟨?_, ?_, ?_, underWay.2, Or.inr ?_⟩
      · rw [sameLock, sameRetries]
        exact isAsked
      · rw [attempt]
        exact tells.of_removed counts
      · rw [attempt, sameRetries]
        exact allowed
      · rcases held with given | ⟨begun, same⟩
        · exact given
        · rw [same, idle begun]
  | waits begun underWay may attempt held counts =>
      rcases step_of_underWay own asked past stepped underWay with
        ⟨nextOwn, result⟩
      rw [result]
      refine ⟨by rintro _ ⟨⟩, ?_⟩
      rintro _ ⟨⟩
      refine ⟨?_, ?_, ?_, underWay.2, Or.inr ?_⟩
      · rw [sameLock, sameRetries]
        exact isAsked
      · rw [attempt]
        exact tells.wait counts
      · rw [attempt, sameRetries]
        exact may
      · rw [held, idle begun]
  | succeeds stage held counts =>
      rcases step_of_finished own past isAsked stepped stage with
        ⟨nextOwn, result⟩
      rw [result]
      have isHeld : next.locker.heldPath? = some work.lock := by
        rw [Locker.heldPath?, held]
        rfl
      refine reflects_of_call (tells.append_success allowed counts) ?_
      intro path
      simp [isHeld, Obtains, Forgets]
  | fails status begun stage failed held counts =>
      rcases step_of_finished own past isAsked stepped stage with
        ⟨nextOwn, result⟩
      rw [result]
      have isFree : next.locker.heldPath? = none := by
        rw [Locker.heldPath?, held, idle begun]
        rfl
      refine reflects_of_call (tells.append_failure failed allowed counts) ?_
      intro path
      simp [isFree, Obtains, Forgets, failed]

theorem Reflects.adopt {user : String}
    (reflects : Reflects ⟨host, ⟨.free locker, own⟩, asked, past⟩) :
    Reflects (step ⟨host, ⟨.free locker, own⟩, asked, past⟩ (.act (.adopt user))) := by
  rcases locker.adopt_cases host user with
    ⟨path, file, found, named, adopted⟩ | ⟨status, failed, same⟩
  · simp only [step, Participant.perform, returned?, adopted, found]
    refine reflects.of_other rfl rfl ?_
    intro other
    simp [Obtains, Forgets, Locker.heldPath?, Except.toOption]
  · simp only [step, Participant.perform, returned?, same]
    refine reflects.of_other rfl rfl ?_
    intro other
    simp [Obtains, Forgets, failed]

theorem Reflects.release (reflects : Reflects ⟨host, ⟨.free locker, own⟩, asked, past⟩) :
    Reflects (step ⟨host, ⟨.free locker, own⟩, asked, past⟩ (.act .release)) := by
  simp only [step, Participant.perform_release, returned?]
  refine reflects.of_other rfl rfl ?_
  intro path
  simp [Obtains, Forgets, Locker.heldPath?]

theorem Reflects.refresh (reflects : Reflects ⟨host, ⟨.free locker, own⟩, asked, past⟩) :
    Reflects (step ⟨host, ⟨.free locker, own⟩, asked, past⟩ (.act .refresh)) := by
  simp only [step, Participant.perform, returned?]
  refine reflects.of_other rfl rfl ?_
  intro path
  simp [Obtains, Forgets]

theorem Reflects.persist (reflects : Reflects ⟨host, ⟨.free locker, own⟩, asked, past⟩) :
    Reflects (step ⟨host, ⟨.free locker, own⟩, asked, past⟩ (.act .persist)) := by
  simp only [step, Participant.perform, returned?]
  refine reflects.of_other rfl rfl ?_
  intro path
  simp [Obtains, Forgets, Locker.persist, Locker.heldPath?]

theorem Reflects.free_act (deed : LockerDeed)
    (reflects : Reflects ⟨host, ⟨.free locker, own⟩, asked, past⟩) :
    Reflects (step ⟨host, ⟨.free locker, own⟩, asked, past⟩ (.act deed)) := by
  cases deed with
  | acquire user retries => exact reflects.acquire
  | adopt user => exact reflects.adopt
  | release => exact reflects.release
  | refresh => exact reflects.refresh
  | persist => exact reflects.persist
  | step => exact reflects.of_idle rfl rfl (by simp [step, returned?])
  | drop =>
      refine ⟨?_, ?_⟩
      · rintro _ ⟨⟩
      · rintro _ ⟨⟩

end Deeds

theorem Reflects.act (reflects : career.Reflects) (deed : LockerDeed) :
    (career.step (.act deed)).Reflects := by
  rcases career with ⟨host, ⟨locker | work | _, own⟩, asked, past⟩
  case free => exact reflects.free_act deed
  case taking =>
    cases deed with
    | step => exact reflects.taking_step
    | acquire | adopt | release | refresh | persist | drop =>
        exact reflects.of_idle rfl rfl (by simp [step, returned?])
  case gone => exact reflects.of_idle rfl (by cases deed <;> rfl) (by simp [step, returned?])

theorem Reflects.run (reflects : career.Reflects) (events : List CareerEvent) :
    (career.run events).Reflects := by
  induction events generalizing career with
  | nil => exact reflects
  | cons event later ih =>
      cases event with
      | act deed => exact ih (reflects.act deed)
      | change next => exact ih (reflects.of_idle rfl rfl rfl)

theorem refreshTask?_eq (locker : Locker) :
    locker.refreshTask? =
      locker.heldPath?.map fun path => { process := locker.process, path := path } := by
  rw [Locker.refreshTask?, Locker.heldPath?, Option.map_map]
  rfl

/-- A deed that is no acquisition, nor a step of one, is at once a call that has returned and that
counts nothing. -/
theorem counts_act {locker : Locker} (free : career.participant.activity = .free locker)
    {deed : LockerDeed}
    (calm : deed = .release ∨ deed = .refresh ∨ deed = .persist ∨ ∃ user, deed = .adopt user) :
    ∃ next, (career.step (.act deed)).participant.activity = .free next ∧
      next.counts = locker.counts := by
  rcases career with ⟨host, ⟨activity, own⟩, asked, past⟩
  obtain rfl : activity = .free locker := free
  rcases calm with rfl | rfl | rfl | ⟨user, rfl⟩
  · exact ⟨{ locker with held := none }, by simp [step, Participant.perform_release], rfl⟩
  · exact ⟨locker, rfl, rfl⟩
  · exact ⟨locker.persist.2, rfl, rfl⟩
  · refine ⟨(locker.adopt host user).2, rfl, ?_⟩
    rcases locker.adopt_cases host user with ⟨_, _, _, _, adopted⟩ | ⟨_, _, same⟩
    · rw [adopted]
    · rw [same]

/-- Whatever others do between any two steps: a locker that is free holds the lock at a path exactly
if `HeldSince` says so of its calls, that is, if the last call by which it obtained one did so
there, and since then it has not given it back, not left it behind, adopted no other and asked for
none of a user whose name is accepted. It has a `refreshTask?` exactly then. Its `LockerCounts` are
those of the calls that have returned, it has waited at most as often as these allow, and other
calls than those that ask for a lock count nothing. -/
theorem state_reflects_calls (host : Host) (process : ProcessId) (settings : MailSettings)
    (owner : Option UInt32) (events : List CareerEvent) {career : Career} {locker : Locker}
    (course : (opened host process settings owner).run events = career)
    (free : career.participant.activity = .free locker) :
    (∀ path, locker.heldPath? = some path ↔ HeldSince career.past path) ∧
      (∀ task, locker.refreshTask? = some task ↔
        task.process = locker.process ∧ HeldSince career.past task.path) ∧
      locker.counts.acquisitions = career.past.countP hasTaken ∧
      locker.counts.acquisitions + locker.counts.failures = career.past.countP isAcquire ∧
      locker.counts.contentions ≤ (career.past.map retries).sum ∧
      ∀ deed, (deed = .release ∨ deed = .refresh ∨ deed = .persist ∨ ∃ user, deed = .adopt user) →
        ∃ next, (career.step (.act deed)).participant.activity = .free next ∧
          next.counts = locker.counts := by
  have reflects := (reflects_opened host process settings owner).run events
  rw [course] at reflects
  rcases reflects.free locker free with ⟨tells, held⟩
  refine ⟨held, ?_, tells.acquisitions, tells.calls, tells.contentions, ?_⟩
  · rintro ⟨lender, path⟩
    rw [refreshTask?_eq, ← held path]
    simp [eq_comm, and_comm]
  · intro deed calm
    exact counts_act free calm

/-! ## A lock that is waited for in vain -/

/-- A host on which somebody holds the lock of `v`. -/
def contendedHost : Host :=
  { Host.boot 0 fun number => number with
    files := ((FileSystem.empty 0).make FileSystem.root "v.lock" (.regular .empty) 0).2 }

def contendedSettings : MailSettings :=
  { spoolDirectory := "/", honorMail := false, checkOwner := false }

/-- The locker asks for the lock of `v`, and comes to rest before it tries again. -/
def contention : List CareerEvent :=
  .act (.acquire "v" 1) :: List.replicate 6 (.act .step)

/-- The time of its rest is over. -/
def contendedLater : Host :=
  { ((opened contendedHost 1 contendedSettings none).run contention).host with now := seconds 60 }

/-- It does not obtain the lock of `v`, obtains that of `u`, and asks for two that cannot be. -/
def contendedCareer : List CareerEvent :=
  contention ++ .change contendedLater :: List.replicate 7 (.act .step) ++
    .act (.acquire "u" 0) :: List.replicate 6 (.act .step) ++
    [.act (.acquire "a/b" 2), .act (.adopt "w")]

def contendedLocker : Locker where
  process := 1
  settings := contendedSettings
  held := some { user := "u", path := "/u.lock" }
  counts := { acquisitions := 1, contentions := 1, failures := 2 }

theorem free_contendedCareer :
    ((opened contendedHost 1 contendedSettings none).run contendedCareer).participant.activity =
      .free contendedLocker := by
  decide +kernel

theorem state_reflects_calls_contendedCareer :
    ((opened contendedHost 1 contendedSettings none).run contendedCareer).participant.activity =
        .free contendedLocker ∧
      HeldSince ((opened contendedHost 1 contendedSettings none).run contendedCareer).past
        "/u.lock" ∧
      ((opened contendedHost 1 contendedSettings none).run contendedCareer).past.countP hasTaken =
        1 ∧
      ((opened contendedHost 1 contendedSettings none).run contendedCareer).past.countP isAcquire =
        3 ∧
      1 ≤ (((opened contendedHost 1 contendedSettings none).run contendedCareer).past.map
        retries).sum := by
  rcases state_reflects_calls contendedHost 1 contendedSettings none contendedCareer rfl
    free_contendedCareer with ⟨held, _, taken, calls, waited, _⟩
  exact ⟨free_contendedCareer, (held "/u.lock").mp rfl, taken.symm, calls.symm, waited⟩

end Career

end MailSpool

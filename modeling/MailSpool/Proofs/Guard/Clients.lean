import Mathlib.Logic.Function.Basic
import MailSpool.Proofs.Guard.Taking
import MailSpool.SpoolGuard.Drop

/-!
# Processes that guard mailboxes

Each of any number of processes has one bridge. As a `GuardClient` it takes a guard over the bridge,
step by step, and drops it again, step by step, as often as it likes, while the others do the same.
Between any two steps a process may end, and files, the clock and the agenda may change in any way.
A mailbox is opened for a guard only: what else processes open and close are other files.
-/

namespace MailSpool

/-- A stage of a drop at which the record lock has not been given up. -/
def DropStage.IsLocked : DropStage → Prop
  | .stopping | .joining | .unlocking => True
  | .releasing | .closing | .finished => False

instance (stage : DropStage) : Decidable stage.IsLocked :=
  match stage with
  | .stopping | .joining | .unlocking => isTrue trivial
  | .releasing | .closing | .finished => isFalse id

/-- What a process is about with its bridge. -/
inductive GuardClient where
  | idle (bridge : Bridge)
  | taking (work : GuardTaking)
  | guarding (guard : SpoolGuard)
  | dropping (work : GuardDrop)
  deriving DecidableEq, Repr

/-- What a process does with its bridge at one time. -/
inductive GuardDeed where
  | acquire (user tag : String) (retries : UInt32)
  /-- It takes the next step of the taking that it is about. -/
  | step
  | touch
  | drop
  /-- The next step of its drop, by itself or by the thread of the refresher. -/
  | stepDrop (event : DropEvent)
  deriving DecidableEq, Repr

namespace GuardClient

/-- A taking that has ended leaves a guard, or the bridge alone. -/
def ofTaking (work : GuardTaking) : GuardClient :=
  match work.result? with
  | none => .taking work
  | some (.ok guard) => .guarding guard
  | some (.error (_, bridge)) => .idle bridge

/-- A drop that has ended leaves the bridge alone. -/
def ofDrop (work : GuardDrop) : GuardClient :=
  if work.stage = .finished then .idle work.guard.bridge else .dropping work

/-- The guard of a process, until its record lock is given up. -/
def guard? : GuardClient → Option SpoolGuard
  | .guarding guard => some guard
  | .dropping work => if work.stage.IsLocked then some work.guard else none
  | _ => none

/-- A deed of a process. What it is not about does nothing. -/
def perform (client : GuardClient) (host : Host) (deed : GuardDeed) : GuardClient × Host :=
  match client, deed with
  | .idle bridge, .acquire user tag retries =>
    let (work, begun) := GuardTaking.begin bridge host user tag retries
    (ofTaking work, begun)
  | .taking work, .step =>
    let (next, after) := work.step host
    (ofTaking next, after)
  | .guarding guard, .touch => (client, guard.touch host)
  | .guarding guard, .drop =>
    let (work, begun) := GuardDrop.begin guard host
    (.dropping work, begun)
  | .dropping work, .stepDrop event =>
    let (next, after) := (work.step? host event).getD (work, host)
    (ofDrop next, after)
  | _, _ => (client, host)

end GuardClient

/-- What can happen to processes that guard mailboxes. -/
inductive GuardEvent where
  | act (id : ProcessId) (deed : GuardDeed)
  /-- A process opens a file of its own. -/
  | openFile (id : ProcessId) (path : String) (writable : Bool)
  | close (id : ProcessId) (number : Nat)
  | exit (id : ProcessId)
  /-- Files, the clock and the agenda change. -/
  | change (files : FileSystem) (now : Instant) (agenda : List Appointment)

structure GuardedHost where
  host : Host
  client : ProcessId → GuardClient

/-- A process can be given a descriptor of 31 bits. -/
def Host.HasRoom (host : Host) (id : ProcessId) : Prop :=
  ∀ state ∈ host.process id, state.freeDescriptor < 2147483648

instance (host : Host) (id : ProcessId) : Decidable (host.HasRoom id) :=
  inferInstanceAs (Decidable (∀ state ∈ host.process id, state.freeDescriptor < 2147483648))

namespace GuardedHost

/-- What happens. A process that has ended does nothing. -/
def step (guarded : GuardedHost) : GuardEvent → GuardedHost
  | .act id deed =>
    if guarded.host.isAlive id then
      let (next, after) := (guarded.client id).perform guarded.host deed
      { host := after, client := Function.update guarded.client id next }
    else guarded
  | .openFile id path writable =>
    match guarded.host.openFile id path writable with
    | .ok (_, opened) => { guarded with host := opened }
    | .error _ => guarded
  | .close id number => { guarded with host := guarded.host.close id number }
  | .exit id => { guarded with host := guarded.host.exit id }
  | .change files now agenda =>
    { guarded with host := { guarded.host with files := files, now := now, agenda := agenda } }

/-- What may happen: the numbers of descriptors are not used up, and the mailbox is opened and
closed for guards only. -/
def Allows (mailbox : FileId) (guarded : GuardedHost) : GuardEvent → Prop
  | .act id _ => guarded.host.HasRoom id
  | .openFile _ path _ => ∀ found ∈ (guarded.host.stat path).toOption, found.1 ≠ mailbox
  | .close id number => ∀ opened ∈ guarded.host.descriptor? id number, opened.file ≠ mailbox
  | .exit _ | .change _ _ _ => True

instance (mailbox : FileId) (guarded : GuardedHost) :
    (event : GuardEvent) → Decidable (guarded.Allows mailbox event)
  | .act id _ => inferInstanceAs (Decidable (guarded.host.HasRoom id))
  | .openFile _ path _ =>
    inferInstanceAs (Decidable (∀ found ∈ (guarded.host.stat path).toOption, found.1 ≠ mailbox))
  | .close id number =>
    inferInstanceAs (Decidable (∀ opened ∈ guarded.host.descriptor? id number,
      opened.file ≠ mailbox))
  | .exit _ | .change _ _ _ => isTrue trivial

def run (guarded : GuardedHost) (events : List GuardEvent) : GuardedHost :=
  events.foldl step guarded

/-- Each event of a run is one that the state it finds `Allows`. -/
def Permits (mailbox : FileId) : GuardedHost → List GuardEvent → Prop
  | _, [] => True
  | guarded, event :: later =>
    guarded.Allows mailbox event ∧ (guarded.step event).Permits mailbox later

instance decidablePermits (mailbox : FileId) :
    (guarded : GuardedHost) → (events : List GuardEvent) →
      Decidable (guarded.Permits mailbox events)
  | _, [] => isTrue trivial
  | guarded, event :: later =>
    have := decidablePermits mailbox (guarded.step event) later
    inferInstanceAs (Decidable (_ ∧ _))

/-- A process that is alive has a guard of a mailbox. -/
structure IsLive (guarded : GuardedHost) (mailbox : FileId) (id : ProcessId) (guard : SpoolGuard) :
    Prop where
  alive : guarded.host.isAlive id = true
  isGuard : (guarded.client id).guard? = some guard
  file : (guarded.host.descriptor? id guard.descriptor).map OpenFile.file = some mailbox

/-- Processes that have not begun: each has a bridge without an offset and waits for no lock, and no
two locks stand against each other. -/
structure IsOpened (guarded : GuardedHost) : Prop where
  compatible : guarded.host.locks.Compatible
  idle : ∀ id, guarded.host.locks.isWaiting id = false
  client : ∀ id, ∃ bridge, guarded.client id = .idle bridge ∧ bridge.process = id ∧
    bridge.settings.descriptorOffset = 0

/-- What every event preserves that a host `Allows` holds throughout a run that it `Permits`. -/
theorem run_induction {mailbox : FileId} {Invariant : GuardedHost → Prop} {guarded : GuardedHost}
    {events : List GuardEvent} (initial : Invariant guarded)
    (preserved : ∀ state event, Invariant state → state.Allows mailbox event →
      Invariant (state.step event))
    (permits : guarded.Permits mailbox events) : Invariant (guarded.run events) := by
  induction events generalizing guarded with
  | nil => exact initial
  | cons event later ih => exact ih (preserved guarded event initial permits.1) permits.2

end GuardedHost

end MailSpool

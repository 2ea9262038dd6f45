import MailSpool.Bridge
import MailSpool.Proofs.Dotlock.Leavings
import MailSpool.Proofs.Dotlock.Reacquiring
import MailSpool.Proofs.Spool.Shared

/-!
# The locks that a locker has taken

A locker remembers one lock. Whatever lock files it has taken or adopted in the course of its calls,
all of them should be gone but the one that it holds. The account of what was `taken` is kept beside
the locker, in a `LockerHistory`: a lock that is left behind on purpose is struck off, and all
others stay on the account for good.

The invariant `InOrder` is that a lock on the account is on disk only if it is the one at the path
that is held, and that this path leads nowhere else. To give back a lock removes that name, so
nothing on the account is on disk any more when the next lock is taken. To adopt a lock gives
nothing back: the lock that was held before is forgotten.
-/

namespace MailSpool

open FileSystem

/-- A lock file that was taken: its path, and the entry and the file to which that path led. -/
structure LockFile where
  path : String
  directory : FileId
  name : String
  file : FileId
  deriving DecidableEq, Repr

namespace LockFile

/-- The lock file to which a path leads. -/
def at? (files : FileSystem) (path : String) : Option LockFile :=
  match files.locate false path with
  | .ok (.entry directory name (some file)) =>
    some { path := path, directory := directory, name := name, file := file }
  | _ => none

def OnDisk (lock : LockFile) (files : FileSystem) : Prop :=
  files.child? lock.directory lock.name = some lock.file

instance (lock : LockFile) (files : FileSystem) : Decidable (lock.OnDisk files) :=
  inferInstanceAs (Decidable (files.child? lock.directory lock.name = some lock.file))

variable {files before after : FileSystem} {path : String} {lock other : LockFile}

theorem liesAt_of_at? (found : at? files path = some lock) :
    lock.path = path ∧ files.LiesAt path lock.directory lock.name lock.file := by
  unfold at? at found
  split at found
  case h_1 directory name file located =>
    cases found
    exact ⟨rfl, located⟩
  case h_2 => simp at found

theorem OnDisk.of_inherits (onDisk : lock.OnDisk after) (inherits : before.Inherits after)
    (known : (before.file lock.file).isSome) : lock.OnDisk before :=
  inherits.old lock.directory lock.name lock.file onDisk known

theorem OnDisk.eq_of_at? (onDisk : lock.OnDisk files) (samePath : lock.path = path)
    (within : files.LeadsWithin lock.path (· = (lock.directory, some lock.name)))
    (found : at? files path = some other) : lock = other := by
  rcases liesAt_of_at? found with ⟨otherPath, lies⟩
  rw [samePath] at within
  have spot := within _ lies
  simp only [Place.spot, Prod.mk.injEq, Option.some.injEq] at spot
  have child := lies.child?
  rw [spot.1, spot.2, onDisk, Option.some.injEq] at child
  cases lock
  cases other
  simp_all

end LockFile

/-- What is done with a locker. -/
inductive LockerCall where
  | acquire (user : String) (retries : UInt32)
  | release
  | refresh
  | adopt (user : String)
  | persist
  /-- Another locker takes its place in a bridge. -/
  | replace (settings : Settings) (other : Locker)
  | drop
  deriving DecidableEq, Repr

/-- A locker in the course of its calls, until it is gone, and the account of the locks that it has
taken and not left behind on purpose. -/
structure LockerHistory where
  host : Host
  locker : Option Locker
  taken : List LockFile

/-- What happens to a locker and to the host that it works on. -/
inductive HistoryEvent where
  | call (call : LockerCall)
  /-- Time passes, or others act. -/
  | change (next : Host)

namespace LockerHistory

/-- A locker that holds nothing yet. -/
def opened (host : Host) (locker : Locker) : LockerHistory where
  host := host
  locker := some { locker with held := none }
  taken := []

/-- The history after a lock was asked for, which is entered in the account if it was obtained. -/
def enter (history : LockerHistory) (status : MailLockStatus) (next : Locker) (after : Host) :
    LockerHistory where
  host := after
  locker := some next
  taken :=
    if status.isSuccess then
      history.taken ++ (next.heldPath?.bind (LockFile.at? after.files)).toList
    else history.taken

theorem enter_of_failed (history : LockerHistory) {status : MailLockStatus} (next : Locker)
    (after : Host) (failed : status ≠ .success) :
    history.enter status next after =
      { host := after, locker := some next, taken := history.taken } := by
  simp [enter, MailLockStatus.isSuccess, failed]

/-- A call of the locker. One that is gone is called no more. -/
def called (history : LockerHistory) (locker : Locker) : LockerCall → LockerHistory
  | .acquire user retries =>
    let (status, next, after) := locker.acquire history.host user retries
    history.enter status next after
  | .release =>
    let (freed, after) := locker.release history.host
    { history with host := after, locker := some freed }
  | .refresh => { history with host := locker.refresh history.host }
  | .adopt user =>
    let (status, next) := locker.adopt history.host user
    history.enter status next history.host
  | .persist =>
    let (path, next) := locker.persist
    { history with
      locker := some next
      taken := history.taken.filter fun lock =>
        ¬(path = some lock.path ∧ lock.OnDisk history.host.files) }
  | .replace settings other =>
    let bridge : Bridge := { settings := settings, locker := locker }
    { history with host := (bridge.withLocker history.host other).2, locker := none }
  | .drop => { history with host := locker.drop history.host, locker := none }

def step (history : LockerHistory) : HistoryEvent → LockerHistory
  | .call call => (history.locker.map fun locker => history.called locker call).getD history
  | .change next => { history with host := next }

def run (history : LockerHistory) (events : List HistoryEvent) : LockerHistory :=
  events.foldl step history

/-- The lock that is held can be removed, or no lock on the account is there any more. -/
def Frees (history : LockerHistory) (locker : Locker) : Prop :=
  ∀ held ∈ locker.held, (history.host.unlink held.path).toOption.isSome ∨
    ∀ lock ∈ history.taken, ¬lock.OnDisk history.host.files

/-- A held lock that is to be removed can be removed, and no lock is adopted while one is held at
another path. -/
def AllowsCall (history : LockerHistory) (locker : Locker) : LockerCall → Prop
  | .acquire user _ =>
    (locker.lockPath history.host user).toOption.isSome → history.Frees locker
  | .adopt user =>
    locker.held.isSome → (locker.adopt history.host user).2.heldPath? = locker.heldPath?
  | .release | .replace _ _ | .drop => history.Frees locker
  | .refresh | .persist => True

/-- What may happen. Others give no old file a new name. -/
def Allows (history : LockerHistory) : HistoryEvent → Prop
  | .call call => ∀ locker ∈ history.locker, history.AllowsCall locker call
  | .change next => history.host.files.Inherits next.files ∧
    Recalls history.host.files next.files ∧ next.files.Sound

instance (history : LockerHistory) (locker : Locker) : Decidable (history.Frees locker) :=
  inferInstanceAs (Decidable (∀ held ∈ locker.held,
    (history.host.unlink held.path).toOption.isSome ∨
      ∀ lock ∈ history.taken, ¬lock.OnDisk history.host.files))

instance (history : LockerHistory) (locker : Locker) :
    (call : LockerCall) → Decidable (history.AllowsCall locker call)
  | .acquire user _ => inferInstanceAs (Decidable
      ((locker.lockPath history.host user).toOption.isSome → history.Frees locker))
  | .adopt user => inferInstanceAs (Decidable (locker.held.isSome →
      (locker.adopt history.host user).2.heldPath? = locker.heldPath?))
  | .release | .replace _ _ | .drop => inferInstanceAs (Decidable (history.Frees locker))
  | .refresh | .persist => isTrue trivial

instance (history : LockerHistory) (call : LockerCall) :
    Decidable (history.Allows (.call call)) :=
  inferInstanceAs (Decidable (∀ locker ∈ history.locker, history.AllowsCall locker call))

/-- Each event of a run is one that the state it finds `Allows`. -/
def AllowsAll : LockerHistory → List HistoryEvent → Prop
  | _, [] => True
  | history, event :: later => history.Allows event ∧ (history.step event).AllowsAll later

/-- The account of a locker is in order: a lock on it is `OnDisk` only if it is the one that the
locker holds. -/
structure InOrder (history : LockerHistory) : Prop where
  sound : history.host.files.Sound
  known : ∀ lock ∈ history.taken, (history.host.files.file lock.file).isSome
  held : ∀ lock ∈ history.taken, lock.OnDisk history.host.files →
    history.locker.bind Locker.heldPath? = some lock.path ∧
      history.host.files.LeadsWithin lock.path (· = (lock.directory, some lock.name))
  single : ∀ lock ∈ history.taken, ∀ other ∈ history.taken, lock.OnDisk history.host.files →
    other.OnDisk history.host.files → lock = other

variable {history next : LockerHistory} {locker : Locker} {after : Host}

/-- An account stays `InOrder` when nothing is entered in it, no old file gets a new name and what
is still `OnDisk` is still held. -/
theorem InOrder.later (inOrder : history.InOrder) (sound : next.host.files.Sound)
    (inherits : history.host.files.Inherits next.host.files)
    (recalls : Recalls history.host.files next.host.files)
    (taken : ∀ lock ∈ next.taken, lock ∈ history.taken)
    (held : ∀ lock ∈ next.taken, lock.OnDisk next.host.files →
      next.locker.bind Locker.heldPath? = some lock.path) : next.InOrder where
  sound := sound
  known lock member := recalls lock.file (inOrder.known lock (taken lock member))
  held lock member onDisk := by
    have earlier := onDisk.of_inherits inherits (inOrder.known lock (taken lock member))
    refine ⟨held lock member onDisk, ?_⟩
    exact (inOrder.held lock (taken lock member) earlier).2.of_narrows inherits.narrows
  single lock member other otherMember onDisk otherOnDisk := by
    have isTaken := taken lock member
    have otherIsTaken := taken other otherMember
    exact inOrder.single lock isTaken other otherIsTaken
      (onDisk.of_inherits inherits (inOrder.known lock isTaken))
      (otherOnDisk.of_inherits inherits (inOrder.known other otherIsTaken))

/-- After `release`, no lock on the account is `OnDisk`. -/
theorem InOrder.not_onDisk_release (inOrder : history.InOrder)
    (isLocker : history.locker = some locker) (frees : history.Frees locker) {lock : LockFile}
    (member : lock ∈ history.taken) :
    ¬lock.OnDisk (locker.release history.host).2.files := by
  intro onDisk
  have earlier := onDisk.of_inherits (locker.inherits_release history.host).1
    (inOrder.known lock member)
  rcases inOrder.held lock member earlier with ⟨isHeld, within⟩
  rw [isLocker, Option.bind_some] at isHeld
  unfold Locker.heldPath? at isHeld
  rcases Option.map_eq_some_iff.mp isHeld with ⟨held, holds, path⟩
  rcases frees held holds with removable | gone
  · cases removed : history.host.unlink held.path with
    | error error => simp [removed, Except.toOption] at removable
    | ok rest =>
        rw [← path] at within
        rcases within.entry_of_unlink (Host.unlink_eq_ok removed).1 with ⟨_, _, sets⟩
        rw [Locker.files_release, holds, Option.map_some, Option.getD_some,
          Host.remaining_of_unlink removed] at onDisk
        have vacant := sets.entry_self
        rw [onDisk] at vacant
        simp at vacant
  · exact gone lock member earlier

theorem InOrder.release (inOrder : history.InOrder) (isLocker : history.locker = some locker)
    (frees : history.Frees locker) (holder : Option Locker) :
    InOrder
      { host := (locker.release history.host).2, locker := holder, taken := history.taken } := by
  rcases locker.inherits_release history.host with ⟨inherits, recalls⟩
  refine inOrder.later (locker.sound_release history.host inOrder.sound) inherits recalls
    (fun _ member => member) ?_
  intro lock member onDisk
  exact absurd onDisk (inOrder.not_onDisk_release isLocker frees member)

/-- A lock is entered in the account by `enter`. Whatever else is `OnDisk` then must lie at the same
path, and so is the same lock. -/
theorem InOrder.enter (inOrder : history.InOrder) {path : String} (sound : after.files.Sound)
    (inherits : history.host.files.Inherits after.files)
    (recalls : Recalls history.host.files after.files) (holds : locker.heldPath? = some path)
    (others : ∀ lock ∈ history.taken, lock.OnDisk after.files → lock.path = path) :
    InOrder (history.enter .success locker after) := by
  have old : InOrder { host := after, locker := some locker, taken := history.taken } := by
    refine inOrder.later sound inherits recalls (fun _ member => member) ?_
    intro lock member onDisk
    rw [others lock member onDisk]
    exact holds
  have entered : (history.enter .success locker after).taken =
      history.taken ++ (LockFile.at? after.files path).toList := by
    simp [LockerHistory.enter, MailLockStatus.isSuccess, holds]
  have cases_of_mem : ∀ lock ∈ (history.enter .success locker after).taken,
      lock ∈ history.taken ∨ LockFile.at? after.files path = some lock := by
    intro lock member
    rw [entered, List.mem_append, Option.mem_toList] at member
    exact member
  have same : ∀ lock ∈ history.taken, ∀ new, LockFile.at? after.files path = some new →
      lock.OnDisk after.files → lock = new := by
    intro lock member new found onDisk
    exact onDisk.eq_of_at? (others lock member onDisk) (old.held lock member onDisk).2 found
  refine ⟨sound, ?_, ?_, ?_⟩
  · intro lock member
    rcases cases_of_mem lock member with earlier | new
    · exact old.known lock earlier
    · exact sound.named _ _ _ (LockFile.liesAt_of_at? new).2.child?
  · intro lock member onDisk
    rcases cases_of_mem lock member with earlier | new
    · exact old.held lock earlier onDisk
    · rcases LockFile.liesAt_of_at? new with ⟨samePath, lies⟩
      rw [samePath]
      exact ⟨holds, lies.leadsWithin⟩
  · intro lock member other otherMember onDisk otherOnDisk
    rcases cases_of_mem lock member with earlier | new
    · rcases cases_of_mem other otherMember with otherEarlier | otherNew
      · exact old.single lock earlier other otherEarlier onDisk otherOnDisk
      · exact same lock earlier other otherNew onDisk
    · rcases cases_of_mem other otherMember with otherEarlier | otherNew
      · exact (same other otherEarlier lock new otherOnDisk).symm
      · exact Option.some.inj (new.symm.trans otherNew)

theorem InOrder.acquire (inOrder : history.InOrder) (isLocker : history.locker = some locker)
    {user : String} {retries : UInt32}
    (allowed : history.AllowsCall locker (.acquire user retries)) :
    (history.called locker (.acquire user retries)).InOrder := by
  rcases acquired : locker.acquire history.host user retries with ⟨status, next, after⟩
  have isCalled : history.called locker (.acquire user retries) =
      history.enter status next after := by
    simp only [called, acquired]
  rw [isCalled]
  cases found : locker.lockPath history.host user with
  | error rejection =>
      rw [Locker.acquire_of_rejected found] at acquired
      unfold Locker.reject at acquired
      cases acquired
      have failed : status ≠ .success := MailSettings.ne_success_of_lockPath found
      rw [enter_of_failed _ _ _ failed]
      refine inOrder.later inOrder.sound (.refl _) (.refl _) (fun _ member => member) ?_
      intro lock member onDisk
      have isHeld := (inOrder.held lock member onDisk).1
      rw [isLocker] at isHeld
      exact isHeld
  | ok lock =>
      have frees : history.Frees locker := allowed (by simp [found, Except.toOption])
      have leaves := Locker.leaves_of_acquire inOrder.sound found acquired
      have freed := inOrder.release isLocker frees none
      rcases Locker.inherits_acquire inOrder.sound found acquired with ⟨inherits, recalls⟩
      have gone : ∀ old ∈ history.taken, ¬old.OnDisk after.files := by
        intro old member onDisk
        refine inOrder.not_onDisk_release isLocker frees member ?_
        exact onDisk.of_inherits inherits (freed.known old member)
      by_cases success : status = .success
      · subst success
        have holds : next.heldPath? = some lock := by
          simp [Locker.heldPath?, leaves.held]
        exact freed.enter leaves.sound inherits recalls holds
          fun old member onDisk => absurd onDisk (gone old member)
      · rw [enter_of_failed _ _ _ success]
        exact freed.later leaves.sound inherits recalls (fun _ member => member)
          fun old member onDisk => absurd onDisk (gone old member)

theorem InOrder.adopt (inOrder : history.InOrder) (isLocker : history.locker = some locker)
    {user : String} (same : locker.held.isSome →
      (locker.adopt history.host user).2.heldPath? = locker.heldPath?) :
    (history.called locker (.adopt user)).InOrder := by
  rcases locker.adopt_cases history.host user with
    ⟨path, file, _, _, adopted⟩ | ⟨status, failed, unchanged⟩
  · rw [adopted] at same
    simp only [called, adopted]
    refine inOrder.enter inOrder.sound (.refl _) (.refl _) rfl ?_
    intro lock member onDisk
    have isHeld := (inOrder.held lock member onDisk).1
    rw [isLocker, Option.bind_some] at isHeld
    rw [isHeld] at same
    refine (Option.some.inj (same ?_)).symm
    unfold Locker.heldPath? at isHeld
    rw [← Option.isSome_map (f := HeldLock.path), isHeld, Option.isSome_some]
  · simp only [called, unchanged, enter_of_failed _ _ _ failed, ← isLocker]
    exact inOrder

theorem InOrder.persist (inOrder : history.InOrder) (isLocker : history.locker = some locker) :
    (history.called locker .persist).InOrder := by
  refine inOrder.later inOrder.sound (.refl _) (.refl _) ?_ ?_
  · intro lock member
    exact (List.mem_filter.mp member).1
  · intro lock member onDisk
    rcases List.mem_filter.mp member with ⟨earlier, stays⟩
    have isHeld := (inOrder.held lock earlier onDisk).1
    rw [isLocker, Option.bind_some] at isHeld
    rw [decide_eq_true_eq] at stays
    exact absurd ⟨isHeld, onDisk⟩ stays

theorem InOrder.refresh (inOrder : history.InOrder) (locker : Locker) :
    (history.called locker .refresh).InOrder := by
  simp only [called, Locker.refresh]
  cases locker.refreshTask? with
  | none => exact inOrder
  | some task =>
      rcases task.inherits_run history.host with ⟨inherits, recalls⟩
      refine inOrder.later (task.sound_run history.host inOrder.sound) inherits recalls
        (fun _ member => member) ?_
      intro lock member onDisk
      exact (inOrder.held lock member (onDisk.of_inherits inherits (inOrder.known lock member))).1

theorem InOrder.called (inOrder : history.InOrder) (isLocker : history.locker = some locker)
    {call : LockerCall} (allowed : history.AllowsCall locker call) :
    (history.called locker call).InOrder := by
  cases call with
  | acquire user retries => exact inOrder.acquire isLocker allowed
  | release => exact inOrder.release isLocker allowed _
  | refresh => exact inOrder.refresh locker
  | adopt user => exact inOrder.adopt isLocker allowed
  | persist => exact inOrder.persist isLocker
  | replace settings other => exact inOrder.release isLocker allowed none
  | drop => exact inOrder.release isLocker allowed none

/-- Whatever a history `Allows` leaves the account `InOrder`. -/
theorem InOrder.step (inOrder : history.InOrder) {event : HistoryEvent}
    (allowed : history.Allows event) : (history.step event).InOrder := by
  cases event with
  | call call =>
      unfold LockerHistory.step
      cases isLocker : history.locker with
      | none => exact inOrder
      | some locker => exact inOrder.called isLocker (allowed locker isLocker)
  | change next =>
      rcases allowed with ⟨inherits, recalls, sound⟩
      refine inOrder.later sound inherits recalls (fun _ member => member) ?_
      intro lock member onDisk
      exact (inOrder.held lock member (onDisk.of_inherits inherits (inOrder.known lock member))).1

theorem InOrder.run (inOrder : history.InOrder) {events : List HistoryEvent}
    (allowed : history.AllowsAll events) : (history.run events).InOrder := by
  induction events generalizing history with
  | nil => exact inOrder
  | cons event later ih => exact ih (inOrder.step allowed.1) allowed.2

theorem inOrder_opened {host : Host} (sound : host.files.Sound) (locker : Locker) :
    (opened host locker).InOrder where
  sound := sound
  known _ member := by simp [opened] at member
  held _ member := by simp [opened] at member
  single _ member := by simp [opened] at member

/-- At any time in the life of a locker, a lock file that it has `taken` or adopted and not left
behind on purpose is the one at its `heldPath?`, or is not `OnDisk` any more. There is at most one
that is on disk, and none when the locker is gone. -/
theorem taken_locks_held_or_gone {host : Host} (sound : host.files.Sound) (locker : Locker)
    {events : List HistoryEvent} (allowed : (opened host locker).AllowsAll events) :
    (∀ lock ∈ ((opened host locker).run events).taken,
      lock.OnDisk ((opened host locker).run events).host.files →
        ((opened host locker).run events).locker.bind Locker.heldPath? = some lock.path ∧
        ((opened host locker).run events).host.files.LeadsWithin lock.path
          (· = (lock.directory, some lock.name))) ∧
    (∀ lock ∈ ((opened host locker).run events).taken,
      ∀ other ∈ ((opened host locker).run events).taken,
      lock.OnDisk ((opened host locker).run events).host.files →
      other.OnDisk ((opened host locker).run events).host.files → lock = other) ∧
    (((opened host locker).run events).locker = none →
      ∀ lock ∈ ((opened host locker).run events).taken,
        ¬lock.OnDisk ((opened host locker).run events).host.files) := by
  have inOrder := (inOrder_opened sound locker).run allowed
  refine ⟨inOrder.held, inOrder.single, ?_⟩
  intro gone lock member onDisk
  have isHeld := (inOrder.held lock member onDisk).1
  simp [gone] at isHeld

/-- A locker takes the locks of two users, one after the other, adopts again the one that it has,
and is dropped. -/
def twoLocks : List HistoryEvent :=
  [.call (.acquire "u" 0), .call (.acquire "v" 0), .call (.adopt "v"), .call .drop]

def spoolHost : Host :=
  .boot 0 fun number => number

def rootLocker : Locker where
  process := 1
  settings := { spoolDirectory := "/", honorMail := false, checkOwner := false }

theorem allowsAll_twoLocks : (opened spoolHost rootLocker).AllowsAll twoLocks :=
  ⟨by decide +kernel, by decide +kernel, by decide +kernel, by decide +kernel, trivial⟩

theorem taken_locks_gone_twoLocks :
    spoolHost.files.Sound ∧ (opened spoolHost rootLocker).AllowsAll twoLocks ∧
      ((opened spoolHost rootLocker).run twoLocks).taken.map LockFile.path =
        ["/u.lock", "/v.lock", "/v.lock"] ∧
      ∀ lock ∈ ((opened spoolHost rootLocker).run twoLocks).taken,
        ¬lock.OnDisk ((opened spoolHost rootLocker).run twoLocks).host.files := by
  refine ⟨sound_empty 0, allowsAll_twoLocks, by decide +kernel, ?_⟩
  refine (taken_locks_held_or_gone (sound_empty 0) rootLocker allowsAll_twoLocks).2.2 ?_
  decide +kernel

/-- A spool with a lock that nobody holds. -/
def leftLock : Host :=
  { spoolHost with files := ((empty 0).make root "v.lock" (.regular (ownerRecord 1)) 0).2 }

/-- A locker takes a lock and adopts another one. -/
def adoptsWhileHolding : List HistoryEvent :=
  [.call (.acquire "u" 0), .call (.adopt "v")]

/-- A locker that adopts a lock forgets the one that it holds: the first lock is `OnDisk` after the
locker was dropped, although the lock that is held can be removed. -/
theorem lock_left_behind_by_adoption :
    ((opened leftLock rootLocker).run adoptsWhileHolding).locker.bind Locker.heldPath? =
        some "/v.lock" ∧
      (((opened leftLock rootLocker).run adoptsWhileHolding).host.unlink
        "/v.lock").toOption.isSome ∧
      ((opened leftLock rootLocker).run (adoptsWhileHolding ++ [.call .drop])).locker = none ∧
      ∃ lock ∈ ((opened leftLock rootLocker).run (adoptsWhileHolding ++ [.call .drop])).taken,
        lock.path = "/u.lock" ∧ lock.OnDisk
          ((opened leftLock rootLocker).run (adoptsWhileHolding ++ [.call .drop])).host.files := by
  refine ⟨by decide +kernel, by decide +kernel, by decide +kernel, ?_⟩
  decide +kernel

end LockerHistory

end MailSpool

import MailSpool.Proofs.Dotlock.Holdings
import MailSpool.Proofs.Dotlock.LockPaths
import MailSpool.Proofs.FileSystem.Kept

/-!
# Mailboxes beside locks

Locks and mailboxes lie in one directory. What a locker removes are entries to which the path of a
lock leads, and these have the name of a user with the suffix behind it, whatever the locker finds
there: so the mailboxes that it can harm are those of users with such a name. For all others the
entry and the content stay. Touching follows a symbolic link, so a lock that is one, and that was
adopted, is the only way to the times of a mailbox.

The invariant `Protects` of a locker's life says this of the mailbox, and of the path that the
locker holds: it is that of a lock, and leads to the mailbox only if it did so from the start and
was adopted. What others do meanwhile is not the locker's, so they are taken to leave the mailbox
alone, `LeavesAlone`.
-/

namespace MailSpool

open FileSystem

/-! ## What others are going to do -/

/-- What is going to happen on a host leaves a mailbox alone: no name is removed that is the
mailbox's own or that of a symbolic link, and the mailbox is not touched. -/
structure Host.LeavesAlone (host : Host) (mailbox : Mailbox) : Prop where
  unlink : ∀ path, host.Plans (.unlink path) →
    ¬host.files.LiesAt path mailbox.directory mailbox.name mailbox.file
  links : ∀ path, host.Plans (.unlink path) →
    ∀ link, host.files.Names path link → host.files.target? link = none
  touch : ∀ path, host.Plans (.touch path) →
    ∀ found, host.files.stat path ≠ .ok (mailbox.file, found)

variable {mailbox : Mailbox} {origin : FileSystem} {untouched whole : Prop}

theorem FileSystem.Inherits.spares_links {before after : FileSystem} {path : String}
    (inherits : before.Inherits after)
    (spares : ∀ link, before.Names path link → before.target? link = none) (link : FileId)
    (names : after.Names path link) : after.target? link = none := by
  rw [inherits.target]
  by_contra isLink
  have known := isSome_file_of_target? (Option.isSome_iff_ne_none.mpr isLink)
  exact isLink (spares link (inherits.names known names))

theorem Host.LeavesAlone.later {host after : Host} (alone : host.LeavesAlone mailbox)
    (known : (host.files.file mailbox.file).isSome) (inherits : host.files.Inherits after.files)
    (plans : ∀ deed, after.Plans deed → host.Plans deed) : after.LeavesAlone mailbox where
  unlink path planned lies :=
    alone.unlink path (plans _ planned) (inherits.locate known lies rfl)
  links path planned := inherits.spares_links (alone.links path (plans _ planned))
  touch path planned found looked := by
    rcases inherits.find known looked with ⟨old, wasFound⟩
    exact alone.touch path (plans _ planned) old wasFound

theorem Mailbox.Stands.remaining {host : Host} (stands : mailbox.Stands origin host.files untouched
      whole) {path : String}
    (misses : ¬host.files.LiesAt path mailbox.directory mailbox.name mailbox.file)
    (spares : whole → ∀ link, host.files.Names path link → host.files.target? link = none) :
    mailbox.Stands origin (host.remaining path) untouched whole := by
  rcases host.remaining_cases path with same | removed
  · rw [same]
    exact stands
  · exact stands.unlink removed misses spares

/-! ## Taking a lock -/

namespace Acquisition

variable {start host : Host} {begun work : Acquisition}

/-- Taking a lock removes no name of a mailbox, and nobody touches it meanwhile. -/
structure Avoids (begun : Acquisition) (start : Host) (mailbox : Mailbox) (whole : Prop) :
    Prop where
  known : (start.files.file mailbox.file).isSome
  unlink : ∀ path, begun.locker.Removes start begun.lock path →
    ¬start.files.LiesAt path mailbox.directory mailbox.name mailbox.file
  links : whole → begun.locker.SparesLinks start begun.lock
  touch : ∀ path, start.Plans (.touch path) →
    ∀ found, start.files.stat path ≠ .ok (mailbox.file, found)

theorem Tracks.stands_unlink (tracks : Tracks start begun work host)
    (avoids : begun.Avoids start mailbox whole) {path : String}
    (removes : begun.locker.Removes start begun.lock path) {after : FileSystem} {now : Instant}
    (removed : host.files.unlink path now = .ok after)
    (stands : mailbox.Stands origin host.files untouched whole) :
    mailbox.Stands origin after untouched whole := by
  have inherits := tracks.stems.inherits
  refine stands.unlink removed ?_ fun isWhole =>
    inherits.spares_links (avoids.links isWhole path removes)
  intro lies
  exact avoids.unlink path removes (inherits.locate avoids.known lies rfl)

theorem Tracks.stands_perform (tracks : Tracks start begun work host)
    (avoids : begun.Avoids start mailbox whole) {deed : Deed} (planned : start.Plans deed)
    (stands : mailbox.Stands origin host.files untouched whole) :
    mailbox.Stands origin (host.perform deed).files untouched whole := by
  cases deed with
  | unlink path =>
      change mailbox.Stands origin (host.remaining path) untouched whole
      rcases host.remaining_cases path with same | removed
      · rw [same]
        exact stands
      · exact tracks.stands_unlink avoids (Or.inr (Or.inr planned)) removed stands
  | touch path =>
      simp only [Host.perform]
      rcases touched : host.touch path with failure | after
      · exact stands
      · refine stands.touch (Host.touch_eq_ok touched).1 fun _ found looked => ?_
        rcases tracks.stems.inherits.find avoids.known looked with ⟨old, wasFound⟩
        exact avoids.touch path planned old wasFound
  | exit process => exact stands
  | signal process number =>
      rw [show (host.perform (.signal process number)).files = host.files from
        host.files_changeProcess process _]
      exact stands

/-- A step removes a name that `Avoids` lets it remove, or the name of a file that was just made. -/
theorem Follows.stands_step (follows : Follows start begun (work, host))
    (avoids : begun.Avoids start mailbox whole)
    (stands : mailbox.Stands origin host.files untouched whole) :
    mailbox.Stands origin (work.step host).2.files untouched whole := by
  have stems := follows.tracks.stems
  have continues := follows.proceeds.continues
  have effect := fileEffect_step work host
  generalize work.step host = result at effect
  cases effect with
  | keeps files =>
      rw [files]
      exact stands
  | makes file stage created =>
      rcases create_spec stems.sound (Host.create_eq_ok created).1 with
        ⟨_, _, located, _, _, sets, retains, _⟩
      exact stands.sets_vacant sets (child?_of_locate located) retains
  | writes file stage filled =>
      rw [Host.fill_eq_ok filled]
      rcases setContent_spec host.files file (ownerRecord work.locker.recordedOwner) host.now with
        ⟨same, retains, _⟩
      refine stands.sameEntries same retains ?_
      rintro rfl
      have known := avoids.known
      rw [stems.made _ stage] at known
      simp at known
  | links stage linked =>
      have uses : work.stage.UsesTemporary := by simp [stage, AcquisitionStage.UsesTemporary]
      rcases stems.link_cases uses linked with ⟨_, _, _, _, _, _, _, located, sets, retains, _⟩
      exact stands.sets_vacant sets (child?_of_locate located) retains
  | releases held stage isHeld removed =>
      refine follows.tracks.stands_unlink avoids (Or.inr (Or.inl ?_)) removed stands
      rw [← follows.releasing stage, isHeld]
      rfl
  | breaks stale stage removed =>
      exact follows.tracks.stands_unlink avoids (Or.inl continues.lock) removed stands
  | clears stage removed =>
      have uses : work.stage.UsesTemporary := by
        rcases stage with stage | ⟨status, stage⟩
        · simp [stage, AcquisitionStage.UsesTemporary]
        · simp [stage, AcquisitionStage.UsesTemporary]
      refine stands.unlink removed ?_ fun _ link names =>
        (stems.plain_of_new (stems.new_of_names uses names)).2
      intro lies
      have known := avoids.known
      rw [stems.new_of_names uses lies.names] at known
      simp at known

theorem Follows.stands_elapse (follows : Follows start begun (work, host))
    (avoids : begun.Avoids start mailbox whole) (time : Instant)
    (stands : mailbox.Stands origin host.files untouched whole) :
    mailbox.Stands origin (host.elapseUntil time).files untouched whole := by
  refine (Host.elapseUntil_induction (fun later => Tracks start begun work later ∧
    mailbox.Stands origin later.files untouched whole) ?_ ?_ time follows.expects
      ⟨follows.tracks, stands⟩).1.2
  · rintro later now agenda ⟨tracks, stood⟩
    exact ⟨⟨tracks.stems, tracks.harms, tracks.confines⟩, stood⟩
  · rintro later deed planned ⟨tracks, stood⟩
    exact ⟨tracks.perform planned, tracks.stands_perform avoids planned stood⟩

theorem Follows.stands_iterate {state : Acquisition × Host} (follows : Follows start begun state)
    (avoids : begun.Avoids start mailbox whole)
    (stands : mailbox.Stands origin state.2.files untouched whole) (count : Nat) :
    mailbox.Stands origin (round^[count] state).2.files untouched whole := by
  refine (iterate_round_induction (fun later => Follows start begun later ∧
    mailbox.Stands origin later.2.files untouched whole) ?_ ?_ ⟨follows, stands⟩ count).2
  · rintro work host wake stage ⟨follows, stood⟩
    exact ⟨follows.elapse stage, follows.stands_elapse avoids wake stood⟩
  · rintro work host going rested ⟨follows, stood⟩
    exact ⟨follows.step going rested, follows.stands_step avoids stood⟩

end Acquisition

/-! ## The life of a locker -/

namespace MailSettings

/-- The lock of none of these users leads to a file. -/
def NoLockLeadsTo (settings : MailSettings) (files : FileSystem) (users : List String)
    (file : FileId) : Prop :=
  ∀ user ∈ users, ∀ lock, settings.lockPath none user = .ok lock →
    ∀ found, files.stat lock ≠ .ok (file, found)

/-- The lock of none of these users is a symbolic link. -/
def NoLockIsLink (settings : MailSettings) (files : FileSystem) (users : List String) : Prop :=
  ∀ user ∈ users, ∀ lock, settings.lockPath none user = .ok lock →
    ∀ link, files.Names lock link → files.target? link = none

theorem name_eq_of_liesAt {settings : MailSettings} {files : FileSystem} {user lock name : String}
    {directory file : FileId} (found : settings.lockPath none user = .ok lock)
    (lies : files.LiesAt lock directory name file) : name = user ++ lockSuffix := by
  obtain rfl : lock = Path.join settings.spoolDirectory (user ++ lockSuffix) := by
    rcases lockPath_cases found with ⟨mailbox, honors, _⟩ | ⟨_, isPath⟩
    · exact absurd honors.given (by simp)
    · exact isPath
  exact name_eq_of_endsIn (Path.endsIn_join _ (slash_notMem_of_lockPath found)) lies

end MailSettings

/-- No value of `$MAIL` counts for a locker. -/
def Locker.IgnoresMail (locker : Locker) (host : Host) : Prop :=
  locker.settings.honorMail = false ∨ host.valueOf locker.process "MAIL" = none

instance (locker : Locker) (host : Host) : Decidable (locker.IgnoresMail host) :=
  inferInstanceAs (Decidable (_ ∨ _))

theorem Locker.lockPath_of_ignoresMail {locker : Locker} {host : Host} {user : String}
    (ignores : locker.IgnoresMail host) :
    locker.lockPath host user = locker.settings.lockPath none user := by
  unfold lockPath MailSettings.lockPath
  rcases ignores with ignored | unset
  · have unhonored : ((host.valueOf locker.process "MAIL").filter fun mailbox =>
        locker.settings.honorMail && Path.fileName mailbox == some user) = none := by
      simp [ignored]
    rw [unhonored]
    rfl
  · rw [unset]

namespace Mailbox

/-- Others have left a mailbox as it was. -/
structure Unchanged (mailbox : Mailbox) (before after : FileSystem) : Prop where
  entry : before.child? mailbox.directory mailbox.name = some mailbox.file →
    after.child? mailbox.directory mailbox.name = some mailbox.file
  traits : (after.file mailbox.file).map File.traits = (before.file mailbox.file).map File.traits
  path : ∀ place, before.locate true mailbox.path = .ok place →
    after.locate true mailbox.path = .ok place

theorem Stands.unchanged {before after : FileSystem}
    (stands : mailbox.Stands origin before untouched whole)
    (unchanged : mailbox.Unchanged before after) :
    mailbox.Stands origin after untouched whole where
  entry := unchanged.entry stands.entry
  regular := by
    have nodes := congrArg (Option.map Prod.fst) unchanged.traits
    rw [Option.map_map, Option.map_map] at nodes
    exact Eq.trans nodes stands.regular
  traits spared := unchanged.traits.trans (stands.traits spared)
  path isWhole := unchanged.path _ (stands.path isWhole)

end Mailbox

namespace LockerHistory

/-- Locks are asked for and adopted for these users only, and `$MAIL` does not count. -/
def PermitsCall (users adopted : List String) (history : LockerHistory) (locker : Locker) :
    LockerCall → Prop
  | .acquire user _ => user ∈ users ∧ locker.IgnoresMail history.host
  | .adopt user => user ∈ users ∧ user ∈ adopted ∧ locker.IgnoresMail history.host
  | .release | .refresh | .persist | .replace _ _ | .drop => True

/-- What may happen beside a mailbox. Others leave it alone, and give no old file a new name. -/
def Permits (users adopted : List String) (mailbox : Mailbox) (history : LockerHistory) :
    HistoryEvent → Prop
  | .call call => ∀ locker ∈ history.locker, history.PermitsCall users adopted locker call
  | .change next => history.host.files.Inherits next.files ∧
    Recalls history.host.files next.files ∧ next.files.Sound ∧
    mailbox.Unchanged history.host.files next.files ∧ next.LeavesAlone mailbox

instance (users adopted : List String) (history : LockerHistory) (locker : Locker) :
    (call : LockerCall) → Decidable (history.PermitsCall users adopted locker call)
  | .acquire user _ => inferInstanceAs (Decidable (user ∈ users ∧ locker.IgnoresMail history.host))
  | .adopt user => inferInstanceAs (Decidable
      (user ∈ users ∧ user ∈ adopted ∧ locker.IgnoresMail history.host))
  | .release | .refresh | .persist | .replace _ _ | .drop => isTrue trivial

instance (users adopted : List String) (mailbox : Mailbox) (history : LockerHistory)
    (call : LockerCall) : Decidable (history.Permits users adopted mailbox (.call call)) :=
  inferInstanceAs (Decidable
    (∀ locker ∈ history.locker, history.PermitsCall users adopted locker call))

/-- Each event of a run is one that the state it finds `Permits`. -/
def PermitsAll (users adopted : List String) (mailbox : Mailbox) :
    LockerHistory → List HistoryEvent → Prop
  | _, [] => True
  | history, event :: later => history.Permits users adopted mailbox event ∧
    (history.step event).PermitsAll users adopted mailbox later

/-- A mailbox `Stands` as it did at a start, and the path that the locker holds is that of a lock of
one of the users. If no adopted lock led to the mailbox, this one does not. -/
structure Protects (users adopted : List String) (mailbox : Mailbox) (start : FileSystem)
    (settings : MailSettings) (history : LockerHistory) : Prop where
  sound : history.host.files.Sound
  inherits : start.Inherits history.host.files
  recalls : Recalls start history.host.files
  known : (start.file mailbox.file).isSome
  stands : mailbox.Stands start history.host.files
    (settings.NoLockLeadsTo start adopted mailbox.file) (settings.NoLockIsLink start users)
  alone : history.host.LeavesAlone mailbox
  configured : ∀ locker ∈ history.locker, locker.settings = settings
  held : ∀ locker ∈ history.locker, ∀ held ∈ locker.held,
    ∃ user ∈ users, settings.lockPath none user = .ok held.path
  aside : settings.NoLockLeadsTo start adopted mailbox.file → ∀ locker ∈ history.locker,
    ∀ held ∈ locker.held, ∀ found, history.host.files.stat held.path ≠ .ok (mailbox.file, found)

section Protects

variable {users adopted : List String} {start : FileSystem} {settings : MailSettings}
  {history next : LockerHistory} {locker : Locker} {after : Host}
  (apart : ∀ user ∈ users, mailbox.name ≠ user ++ lockSuffix)
  (protects : history.Protects users adopted mailbox start settings)

include protects in
theorem Protects.later (sound : next.host.files.Sound)
    (inherits : history.host.files.Inherits next.host.files)
    (recalls : Recalls history.host.files next.host.files)
    (stands : mailbox.Stands start next.host.files
      (settings.NoLockLeadsTo start adopted mailbox.file) (settings.NoLockIsLink start users))
    (alone : next.host.LeavesAlone mailbox)
    (lockers : ∀ locker ∈ next.locker, ∃ old ∈ history.locker, locker.settings = old.settings ∧
      ∀ held ∈ locker.held, held ∈ old.held) :
    next.Protects users adopted mailbox start settings where
  sound := sound
  inherits := protects.inherits.trans protects.recalls inherits
  recalls := protects.recalls.trans recalls
  known := protects.known
  stands := stands
  alone := alone
  configured locker isLocker := by
    rcases lockers locker isLocker with ⟨old, wasLocker, same, _⟩
    rw [same]
    exact protects.configured old wasLocker
  held locker isLocker held isHeld := by
    rcases lockers locker isLocker with ⟨old, wasLocker, _, wasHeld⟩
    exact protects.held old wasLocker held (wasHeld held isHeld)
  aside spared locker isLocker held isHeld found looked := by
    rcases lockers locker isLocker with ⟨old, wasLocker, _, wasHeld⟩
    rcases inherits.find protects.stands.known looked with ⟨file, wasFound⟩
    exact protects.aside spared old wasLocker held (wasHeld held isHeld) file wasFound

include protects in
theorem Protects.enter (next : Locker) (sound : after.files.Sound)
    (inherits : history.host.files.Inherits after.files)
    (recalls : Recalls history.host.files after.files)
    (stands : mailbox.Stands start after.files
      (settings.NoLockLeadsTo start adopted mailbox.file) (settings.NoLockIsLink start users))
    (alone : after.LeavesAlone mailbox) (sameSettings : next.settings = settings)
    {user lock : String} (isUser : user ∈ users) (isLock : settings.lockPath none user = .ok lock)
    (holds : next.held = some { user := user, path := lock })
    (aside : settings.NoLockLeadsTo start adopted mailbox.file →
      ∀ found, after.files.stat lock ≠ .ok (mailbox.file, found)) (taken : List LockFile) :
    Protects users adopted mailbox start settings
      { host := after, locker := some next, taken := taken } where
  sound := sound
  inherits := protects.inherits.trans protects.recalls inherits
  recalls := protects.recalls.trans recalls
  known := protects.known
  stands := stands
  alone := alone
  configured other isLocker := by
    cases isLocker
    exact sameSettings
  held other isLocker held isHeld := by
    cases isLocker
    rw [holds] at isHeld
    cases isHeld
    exact ⟨user, isUser, isLock⟩
  aside spared other isLocker held isHeld := by
    cases isLocker
    rw [holds] at isHeld
    cases isHeld
    exact aside spared

include apart in
theorem not_liesAt_lock {user lock : String} (files : FileSystem) (isUser : user ∈ users)
    (isLock : settings.lockPath none user = .ok lock) :
    ¬files.LiesAt lock mailbox.directory mailbox.name mailbox.file :=
  fun lies => apart user isUser (MailSettings.name_eq_of_liesAt isLock lies)

include protects apart in
theorem Protects.release (isLocker : history.locker = some locker) (holder : Option Locker)
    (isHolder : ∀ other ∈ holder, other.settings = locker.settings ∧ other.held = none) :
    Protects users adopted mailbox start settings
      { host := (locker.release history.host).2, locker := holder, taken := history.taken } := by
  rcases locker.inherits_release history.host with ⟨inherits, recalls⟩
  refine protects.later (locker.sound_release history.host protects.sound) inherits recalls ?_ ?_ ?_
  · rw [Locker.files_release]
    cases isHeld : locker.held with
    | none => exact protects.stands
    | some held =>
        rcases protects.held locker isLocker held isHeld with ⟨user, isUser, isLock⟩
        refine protects.stands.remaining (not_liesAt_lock apart _ isUser isLock) fun isWhole => ?_
        exact protects.inherits.spares_links (isWhole user isUser held.path isLock)
  · refine protects.alone.later protects.stands.known inherits fun deed planned => ?_
    unfold Host.Plans at planned
    rwa [(locker.sameWorld_release history.host).agenda] at planned
  · intro other isOther
    rcases isHolder other isOther with ⟨same, free⟩
    exact ⟨locker, isLocker, same, by simp [free]⟩

include protects in
/-- A refresh touches the mailbox only if the lock that is held leads to it. -/
theorem Protects.refresh (isLocker : history.locker = some locker) :
    Protects users adopted mailbox start settings
      { history with host := locker.refresh history.host } := by
  unfold Locker.refresh Locker.refreshTask?
  cases isHeld : locker.held with
  | none => exact protects
  | some held =>
      simp only [Option.map_some]
      generalize isTask : ({ process := locker.process, path := held.path } : RefreshTask) = task
      rcases task.inherits_run history.host with ⟨inherits, recalls⟩
      refine protects.later (task.sound_run history.host protects.sound) inherits recalls ?_ ?_ ?_
      · unfold RefreshTask.run
        cases result : history.host.touch task.path with
        | error failure => exact protects.stands
        | ok touched =>
            refine protects.stands.touch (Host.touch_eq_ok result).1 fun spared => ?_
            rw [← isTask]
            exact protects.aside spared locker isLocker held isHeld
      · refine protects.alone.later protects.stands.known inherits fun deed planned => ?_
        unfold Host.Plans at planned
        rwa [(task.sameWorld_run history.host).agenda] at planned
      · exact fun other isOther => ⟨other, isOther, rfl, fun _ isHeld => isHeld⟩

include protects apart in
/-- Names may be removed from the path of the lock that is asked for, from that of the one that is
held, and from where others remove them. The mailbox has none of these: the acquisition `Avoids` it.
-/
theorem Protects.avoids (isLocker : history.locker = some locker) {user lock : String}
    (retries : UInt32) (isUser : user ∈ users) (isLock : settings.lockPath none user = .ok lock) :
    (Acquisition.begin locker history.host user lock retries).1.Avoids history.host mailbox
      (settings.NoLockIsLink start users) := by
  refine ⟨protects.stands.known, ?_, ?_, protects.alone.touch⟩
  · rintro path (rfl | isHeld | planned)
    · exact not_liesAt_lock apart _ isUser isLock
    · rcases Option.map_eq_some_iff.mp isHeld with ⟨held, holds, rfl⟩
      rcases protects.held locker isLocker held holds with ⟨other, isOther, isOtherLock⟩
      exact not_liesAt_lock apart _ isOther isOtherLock
    · exact protects.alone.unlink path planned
  · rintro noLink path (rfl | isHeld | planned)
    · exact protects.inherits.spares_links (noLink user isUser _ isLock)
    · rcases Option.map_eq_some_iff.mp isHeld with ⟨held, holds, rfl⟩
      rcases protects.held locker isLocker held holds with ⟨other, isOther, isOtherLock⟩
      exact protects.inherits.spares_links (noLink other isOther _ isOtherLock)
    · exact protects.alone.links path planned

include protects apart in
theorem Protects.acquire (isLocker : history.locker = some locker) {user : String}
    {retries : UInt32}
    (permitted : history.PermitsCall users adopted locker (.acquire user retries)) :
    (history.called locker (.acquire user retries)).Protects users adopted mailbox start
      settings := by
  rcases permitted with ⟨isUser, ignores⟩
  rcases acquired : locker.acquire history.host user retries with ⟨status, next, after⟩
  have isCalled : history.called locker (.acquire user retries) =
      history.enter status next after := by
    simp only [called, acquired]
  rw [isCalled]
  cases found : locker.lockPath history.host user with
  | error rejection =>
      rw [Locker.acquire_of_rejected found] at acquired
      unfold Locker.reject at acquired
      cases acquired
      rw [enter_of_failed _ _ _ (MailSettings.ne_success_of_lockPath found)]
      refine protects.later protects.sound (.refl _) (.refl _) protects.stands ?_ ?_
      · exact protects.alone.later protects.stands.known (.refl _) fun _ planned => planned
      · rintro other ⟨⟩
        exact ⟨locker, isLocker, rfl, fun _ isHeld => isHeld⟩
  | ok lock =>
      have isLock : settings.lockPath none user = .ok lock := by
        rw [← protects.configured locker isLocker, ← Locker.lockPath_of_ignoresMail ignores]
        exact found
      have leaves := Locker.leaves_of_acquire protects.sound found acquired
      have recalls := (locker.inherits_release history.host).2.trans
        (Locker.inherits_acquire protects.sound found acquired).2
      have sameSettings : next.settings = settings :=
        leaves.settings.trans (protects.configured locker isLocker)
      have avoids := protects.avoids apart isLocker retries isUser isLock
      rcases Locker.exists_finished_of_acquire protects.sound found acquired with
        ⟨count, done, isDone, _, _, isAfter, _⟩
      have begins := Acquisition.follows_begin retries protects.sound found
      have follows := begins.iterate count
      have stands := begins.stands_iterate avoids protects.stands count
      rw [← isDone] at follows stands
      rw [isAfter] at stands
      have alone : after.LeavesAlone mailbox := by
        refine protects.alone.later protects.stands.known leaves.inherits ?_
        rintro deed ⟨appointment, member, rfl⟩
        rw [← isAfter] at member
        exact follows.expects appointment member
      by_cases success : status = .success
      · subst success
        have holds := leaves.held
        rw [if_pos rfl] at holds
        refine protects.enter next leaves.sound leaves.inherits recalls stands alone sameSettings
          isUser isLock holds ?_ _
        intro _ file looked
        rcases leaves.named rfl with ⟨lockFile, isNew, named⟩
        have names := (Host.named?_eq_some_iff_names.mp named).2.1
        have plain : after.files.target? lockFile = none :=
          (leaves.inherits.target lockFile).trans (plain_of_file_eq_none isNew).2
        have same : mailbox.file = lockFile := names.leads.find plain looked
        have known := protects.stands.known
        rw [same, isNew] at known
        simp at known
      · rw [enter_of_failed _ _ _ success]
        refine protects.later leaves.sound leaves.inherits recalls stands alone ?_
        rintro other ⟨⟩
        refine ⟨locker, isLocker, leaves.settings, ?_⟩
        rw [leaves.held, if_neg success]
        simp

include protects in
theorem Protects.adopt (isLocker : history.locker = some locker) {user : String}
    (permitted : history.PermitsCall users adopted locker (.adopt user)) :
    (history.called locker (.adopt user)).Protects users adopted mailbox start settings := by
  rcases permitted with ⟨isUser, isAdopted, ignores⟩
  have sameSettings := protects.configured locker isLocker
  rcases locker.adopt_cases history.host user with
    ⟨lock, _, found, _, isAdoption⟩ | ⟨status, failed, unchanged⟩
  · have isLock : settings.lockPath none user = .ok lock := by
      rw [← sameSettings, ← Locker.lockPath_of_ignoresMail ignores]
      exact found
    simp only [called, isAdoption]
    refine protects.enter { locker with held := some { user := user, path := lock } }
      protects.sound (.refl _) (.refl _) protects.stands protects.alone sameSettings isUser isLock
      rfl ?_ _
    intro spared file looked
    rcases protects.inherits.find protects.known looked with ⟨old, wasFound⟩
    exact spared user isAdopted lock isLock old wasFound
  · simp only [called, unchanged, enter_of_failed _ _ _ failed, ← isLocker]
    exact protects

include protects apart in
theorem Protects.called (isLocker : history.locker = some locker) {call : LockerCall}
    (permitted : history.PermitsCall users adopted locker call) :
    (history.called locker call).Protects users adopted mailbox start settings := by
  cases call with
  | acquire user retries => exact protects.acquire apart isLocker permitted
  | release =>
      refine protects.release apart isLocker (some (locker.release history.host).1) ?_
      intro other isOther
      obtain rfl : (locker.release history.host).1 = other := Option.some.inj isOther
      rw [Locker.locker_release]
      exact ⟨rfl, rfl⟩
  | refresh => exact protects.refresh isLocker
  | adopt user => exact protects.adopt isLocker permitted
  | persist =>
      refine protects.later protects.sound (.refl _) (.refl _) protects.stands protects.alone ?_
      rintro other ⟨⟩
      exact ⟨locker, isLocker, rfl, by simp⟩
  | replace settings other => exact protects.release apart isLocker none (by simp)
  | drop => exact protects.release apart isLocker none (by simp)

include protects apart in
/-- Whatever a history `Permits` leaves a mailbox protected. -/
theorem Protects.step {event : HistoryEvent}
    (permitted : history.Permits users adopted mailbox event) :
    (history.step event).Protects users adopted mailbox start settings := by
  cases event with
  | call call =>
      unfold LockerHistory.step
      cases isLocker : history.locker with
      | none => exact protects
      | some locker => exact protects.called apart isLocker (permitted locker isLocker)
  | change next =>
      rcases permitted with ⟨inherits, recalls, sound, unchanged, alone⟩
      refine protects.later sound inherits recalls (protects.stands.unchanged unchanged) alone ?_
      exact fun locker isLocker => ⟨locker, isLocker, rfl, fun _ isHeld => isHeld⟩

include protects apart in
theorem Protects.run {events : List HistoryEvent}
    (permitted : history.PermitsAll users adopted mailbox events) :
    (history.run events).Protects users adopted mailbox start settings := by
  induction events generalizing history with
  | nil => exact protects
  | cons event later ih => exact ih (protects.step apart permitted.1) permitted.2

end Protects

def letter : ByteArray :=
  "From x\n".toUTF8

/-- The old lock is broken and the new one touched; it is adopted again, and given back. -/
def relocking : List HistoryEvent :=
  [.call (.acquire "u" 0), .call .refresh, .call (.adopt "u"), .call .release]

end LockerHistory

end MailSpool

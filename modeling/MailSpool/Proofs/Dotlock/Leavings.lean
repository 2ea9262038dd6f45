import MailSpool.Proofs.Dotlock.Outcome

/-!
# What an acquisition leaves behind

While a lock is taken, names are removed: that of the lock that the locker still held, that of a
stale lock, that of the temporary file, and those that others remove meanwhile. An old file loses no
other name, and only others change what it holds or its times, so those that can suffer are told by
`Endangers`.

The files that were made lie where the temporary path leads and, once the lock is taken, where the
path of the lock leads. They are found there, and so removed, as long as no way to them is closed.
The removal of a symbolic link would close one, which `SparesLinks` rules out.
-/

namespace MailSpool

open FileSystem

/-- A deed is going to be done. -/
def Host.Plans (host : Host) (deed : Deed) : Prop :=
  ∃ appointment ∈ host.agenda, appointment.deed = deed

namespace Locker

variable (locker : Locker) (start : Host) (lock : String)

/-- A path from which a name may be removed while the locker takes a lock: that of the lock, that of
the lock that the locker still holds, or one from which others are going to remove it by what the
host `Plans`. -/
def Removes (path : String) : Prop :=
  path = lock ∨ locker.held.map HeldLock.path = some path ∨ start.Plans (.unlink path)

/-- A file that may suffer while the locker takes a lock: it has a name that may be removed, by
`Removes`, or others are going to touch it. -/
def Endangers (file : FileId) : Prop :=
  (∃ path, locker.Removes start lock path ∧ start.files.Names path file) ∨
    ∃ path, start.Plans (.touch path) ∧ ∃ found, start.files.stat path = .ok (file, found)

/-- No name of a symbolic link is one that the locker `Removes`. -/
def SparesLinks : Prop :=
  ∀ path, locker.Removes start lock path →
    ∀ link, start.files.Names path link → start.files.target? link = none

end Locker

namespace FileSystem

theorem Inherits.widens_of_unlink {start before after : FileSystem} {path : String} {now : Instant}
    (inherits : start.Inherits before) (removed : before.unlink path now = .ok after)
    (spares : ∀ link, start.Names path link → start.target? link = none) :
    Narrows after before := by
  rcases unlink_spec removed with ⟨directory, name, id, located, noDirectory, sets, _, _⟩
  refine sets.widens ?_
  rw [child?_of_locate located]
  rintro child ⟨⟩
  refine ⟨noDirectory, ?_⟩
  rw [inherits.target]
  by_contra isLink
  have known := isSome_file_of_target? (Option.isSome_iff_ne_none.mpr isLink)
  exact isLink (spares id (inherits.names known ⟨_, located, rfl⟩))

/-- When a path was to be removed, no new file lies there, provided that this closes no way:
`Confines` is kept by `remaining`. -/
theorem Inherits.confines_remaining {start : FileSystem} {host : Host} {path : String}
    (inherits : start.Inherits host.files) (writable : Host.IsWritable path)
    (widens : ∀ {after}, host.files.unlink path host.now = .ok after → Narrows after host.files)
    {place further : String → Prop} (confines : Confines start host.files place)
    (implies : ∀ other, place other → other ≠ path → further other) :
    Confines start (host.remaining path) further := by
  rcases host.remaining_cases path with same | removed
  · rw [same]
    intro directory name id named
    rcases confines directory name id named with known | ⟨other, isPlace, lies⟩
    · exact Or.inl known
    rcases isNew : start.file id with _ | file
    · refine Or.inr ⟨other, implies other isPlace ?_, lies⟩
      rintro rfl
      have plain := (inherits.directory?_eq_none_iff id).mpr (plain_of_file_eq_none isNew).1
      rcases Host.exists_unlink_of_liesAt writable lies plain with ⟨rest, removed⟩
      have gone := not_isOccupied_of_unlink (Host.unlink_eq_ok removed).1
      rw [← Host.remaining_of_unlink removed, same, lies.isOccupied] at gone
      simp at gone
    · exact Or.inl (by simp)
  · exact confines.drops removed (widens removed) implies

end FileSystem

namespace Acquisition

/-- The paths that lead to the new files of an acquisition. -/
def Places (work : Acquisition) (path : String) : Prop :=
  work.stage.UsesTemporary ∧ path = work.temporary ∨ work.stage.HasLock ∧ path = work.lock

variable {start host : Host} {begun work next : Acquisition} {path : String}

theorem not_places (unused : ¬work.stage.UsesTemporary) (unlocked : ¬work.stage.HasLock) :
    ¬work.Places path := by
  rintro (⟨uses, _⟩ | ⟨has, _⟩)
  · exact unused uses
  · exact unlocked has

theorem Continues.places (continues : work.Continues next)
    (uses : work.stage.UsesTemporary → next.stage.UsesTemporary)
    (hasLock : work.stage.HasLock → next.stage.HasLock) (isPlace : work.Places path) :
    next.Places path := by
  rcases isPlace with ⟨usesNow, rfl⟩ | ⟨has, rfl⟩
  · exact Or.inl ⟨uses usesNow, continues.temporary.symm⟩
  · exact Or.inr ⟨hasLock has, continues.lock.symm⟩

/-- Old files have suffered only if the locker `Endangers` them, and new ones lie at the `Places` of
the acquisition. -/
structure Tracks (start : Host) (begun work : Acquisition) (host : Host) : Prop where
  stems : work.Stems start.files host.files
  harms : ∀ file, start.files.Harms host.files file →
    begun.locker.Endangers start begun.lock file
  confines : begun.locker.SparesLinks start begun.lock →
    Confines start.files host.files work.Places

namespace Tracks

/-- A call that harms only what the locker `Endangers` leaves all harm among these files. -/
theorem harms_of (tracks : Tracks start begun work host) {after : FileSystem}
    (call : ∀ file, (start.files.file file).isSome → host.files.Harms after file →
      begun.locker.Endangers start begun.lock file) (file : FileId)
    (harms : start.files.Harms after file) : begun.locker.Endangers start begun.lock file := by
  rcases tracks.stems.inherits.harms_split harms with before | byCall
  · exact tracks.harms file before
  · exact call file harms.known byCall

theorem harms_of_unlink (tracks : Tracks start begun work host) {after : FileSystem}
    {path : String} {now : Instant} (removes : begun.locker.Removes start begun.lock path)
    (removed : host.files.unlink path now = .ok after) (file : FileId)
    (harms : start.files.Harms after file) : begun.locker.Endangers start begun.lock file := by
  refine tracks.harms_of ?_ file harms
  intro harmed known harmsLast
  have names := names_of_harms_unlink removed harmsLast
  exact Or.inl ⟨path, removes, tracks.stems.inherits.names known names⟩

theorem confines_of_unlink (tracks : Tracks start begun work host) {after : FileSystem}
    {path : String} {now : Instant} (removes : begun.locker.Removes start begun.lock path)
    (removed : host.files.unlink path now = .ok after)
    (spares : begun.locker.SparesLinks start begun.lock) {place : String → Prop}
    (implies : ∀ other, work.Places other → place other) :
    Confines start.files after place := by
  have widens := tracks.stems.inherits.widens_of_unlink removed (spares path removes)
  rcases unlink_spec removed with ⟨_, _, _, _, _, sets, _, _⟩
  refine (tracks.confines spares).of_widens widens ?_ implies
  intro directory name child named
  rw [sets.entry] at named
  split at named
  · simp at named
  · exact named

theorem perform (tracks : Tracks start begun work host) {deed : Deed} (planned : start.Plans deed) :
    Tracks start begun work (host.perform deed) := by
  have stems := tracks.stems.perform deed
  have of_same : ∀ {later : Host}, later.files = host.files → work.Stems start.files later.files →
      Tracks start begun work later := by
    intro later same stems
    refine ⟨stems, ?_, ?_⟩
    · rw [same]
      exact tracks.harms
    · rw [same]
      exact tracks.confines
  cases deed with
  | unlink path =>
      rcases host.remaining_cases path with same | removed
      · exact of_same same stems
      · have removes : begun.locker.Removes start begun.lock path := Or.inr (Or.inr planned)
        refine ⟨stems, tracks.harms_of_unlink removes removed, ?_⟩
        intro spares
        exact tracks.confines_of_unlink removes removed spares fun _ isPlace => isPlace
  | touch path =>
      simp only [Host.perform] at stems ⊢
      rcases touched : host.touch path with failure | after
      · exact tracks
      rw [touched] at stems
      have touchedFiles := (Host.touch_eq_ok touched).1
      rcases touch_spec touchedFiles with ⟨_, _, _, _, same, _, _⟩
      refine ⟨stems, ?_, ?_⟩
      · refine tracks.harms_of ?_
        intro file known harms
        rcases stat_of_harms_touch touchedFiles harms with ⟨found, looked⟩
        exact Or.inr ⟨path, planned, tracks.stems.inherits.find known looked⟩
      · intro spares
        exact (tracks.confines spares).of_sameEntries same fun _ isPlace => isPlace
  | exit process => exact of_same rfl stems
  | signal process number => exact of_same (host.files_changeProcess process _) stems

end Tracks

/-! ## Steps -/

namespace Tracks

theorem harms_step (tracks : Tracks start begun work host) (continues : begun.Continues work)
    (releasing : work.stage = .releasing → work.locker.held = begun.locker.held) (file : FileId)
    (harms : start.files.Harms (work.step host).2.files file) :
    begun.locker.Endangers start begun.lock file := by
  have effect := fileEffect_step work host
  generalize work.step host = result at effect harms
  have known := harms.known
  cases effect with
  | keeps files =>
      rw [files] at harms
      exact tracks.harms file harms
  | makes made stage created =>
      refine tracks.harms_of ?_ file harms
      intro harmed _ harmsLast
      rcases create_spec tracks.stems.sound (Host.create_eq_ok created).1 with
        ⟨_, _, located, _, _, sets, retains, _⟩
      exact absurd harmsLast
        (not_harms_of_sets_vacant harmed sets (child?_of_locate located) retains)
  | links stage linked =>
      have uses : work.stage.UsesTemporary := by simp [stage, AcquisitionStage.UsesTemporary]
      refine tracks.harms_of ?_ file harms
      intro harmed _ harmsLast
      rcases tracks.stems.link_cases uses linked with
        ⟨_, _, _, _, _, _, _, located, sets, retains, _⟩
      exact absurd harmsLast
        (not_harms_of_sets_vacant harmed sets (child?_of_locate located) retains)
  | writes written stage filled =>
      refine tracks.harms_of ?_ file harms
      intro harmed knownFirst harmsLast
      rw [Host.fill_eq_ok filled] at harmsLast
      rcases setContent_spec host.files written (ownerRecord work.locker.recordedOwner)
        host.now with
        ⟨same, retains, _⟩
      rcases harmsLast.loss with ⟨directory, name, named, lost⟩ | changed
      · rw [Host.files_withFiles, same.entry] at lost
        exact absurd named lost
      · have isWritten : harmed = written := by
          by_contra other
          exact changed (retains.traits harmed harmsLast.known harmsLast.plain other)
        rw [isWritten, tracks.stems.made written stage] at knownFirst
        simp at knownFirst
  | releases held stage isHeld removed =>
      refine tracks.harms_of_unlink (Or.inr (Or.inl ?_)) removed file harms
      rw [← releasing stage, isHeld]
      rfl
  | breaks stale stage removed =>
      exact tracks.harms_of_unlink (Or.inl continues.lock) removed file harms
  | clears stage removed =>
      have uses : work.stage.UsesTemporary := by
        rcases stage with stage | ⟨status, stage⟩
        · simp [stage, AcquisitionStage.UsesTemporary]
        · simp [stage, AcquisitionStage.UsesTemporary]
      refine tracks.harms_of ?_ file harms
      intro harmed knownFirst harmsLast
      rw [tracks.stems.new_of_names uses (names_of_harms_unlink removed harmsLast)] at knownFirst
      simp at knownFirst

theorem confines_release (tracks : Tracks start begun work host) (stage : work.stage = .releasing)
    (same : work.locker.held = begun.locker.held)
    (spares : begun.locker.SparesLinks start begun.lock) {place : String → Prop} :
    Confines start.files (work.locker.release host).2.files place := by
  have unplaced : ∀ path, work.Places path → place path := by
    intro path isPlace
    refine absurd isPlace (not_places ?_ ?_)
    · simp [stage, AcquisitionStage.UsesTemporary]
    · simp [stage, AcquisitionStage.HasLock, AcquisitionStage.HasLinked]
  have stays := (tracks.confines spares).of_sameEntries (.refl _) unplaced
  rw [Locker.files_release]
  rcases isHeld : work.locker.held with _ | holding
  · exact stays
  · simp only [Option.map_some, Option.getD_some]
    rcases host.remaining_cases holding.path with kept | removed
    · rw [kept]
      exact stays
    · refine tracks.confines_of_unlink (Or.inr (Or.inl ?_)) removed spares unplaced
      rw [← same, isHeld]
      rfl

/-- A step leaves new files nowhere but at the `Places` where they belong. -/
theorem confines_step (tracks : Tracks start begun work host) (continues : begun.Continues work)
    (sees : work.Sees start.files host)
    (releasing : work.stage = .releasing → work.locker.held = begun.locker.held)
    (spares : begun.locker.SparesLinks start begun.lock) :
    Confines start.files (work.step host).2.files (work.step host).1.Places := by
  have confines := tracks.confines spares
  have further := continues_step work host
  have hasLock := hasLock_step tracks.stems sees
  have effect := effect_step work host
  generalize work.step host = result at effect further hasLock ⊢
  have keeps : (work.stage.UsesTemporary → result.1.stage.UsesTemporary) →
      SameEntries host.files result.2.files →
      Confines start.files result.2.files result.1.Places := by
    intro uses same
    exact confines.of_sameEntries same fun path isPlace => further.places uses hasLock isPlace
  have cleared : work.stage.UsesTemporary → result.2.files = host.remaining work.temporary →
      Confines start.files result.2.files result.1.Places := by
    intro uses files
    rw [files]
    refine tracks.stems.inherits.confines_remaining (tracks.stems.writable uses)
      (tracks.stems.widens_of_unlink uses) confines ?_
    rintro path (⟨_, rfl⟩ | ⟨has, rfl⟩) other
    · exact absurd rfl other
    · exact Or.inr ⟨hasLock has, further.lock.symm⟩
  cases effect with
  | releases stage next held files =>
      rw [files]
      exact tracks.confines_release stage (releasing stage) spares
  | creates file stage next held created =>
      rcases create_spec tracks.stems.sound (Host.create_eq_ok created).1 with
        ⟨_, _, located, isNew, _, sets, _, _⟩
      refine confines.adds located sets (plain_of_file_eq_none isNew) ?_
      rintro path (isPlace | rfl)
      · refine absurd isPlace (not_places ?_ ?_)
        · simp [stage, AcquisitionStage.UsesTemporary]
        · simp [stage, AcquisitionStage.HasLock, AcquisitionStage.HasLinked]
      · exact Or.inl ⟨by simp [next, AcquisitionStage.UsesTemporary], further.temporary.symm⟩
  | fills file stage next held filled =>
      refine keeps (by simp [next, AcquisitionStage.UsesTemporary]) ?_
      rw [Host.fill_eq_ok filled]
      exact (setContent_spec host.files file _ host.now).1
  | links stage next held linked =>
      have uses : work.stage.UsesTemporary := by simp [stage, AcquisitionStage.UsesTemporary]
      rcases tracks.stems.link_cases uses linked with
        ⟨_, _, _, isNew, _, _, _, located, sets, _, _⟩
      refine confines.adds located sets (tracks.stems.plain_of_new isNew) ?_
      rintro path (isPlace | rfl)
      · exact further.places (by simp [next, AcquisitionStage.UsesTemporary]) hasLock isPlace
      · exact Or.inr ⟨by simp [next, AcquisitionStage.HasLock, AcquisitionStage.HasLinked],
          further.lock.symm⟩
  | breaks stale removed stage next held unlinked files =>
      have unlinkedFiles := (Host.unlink_eq_ok unlinked).1
      rw [← files] at unlinkedFiles
      refine tracks.confines_of_unlink (Or.inl continues.lock) unlinkedFiles spares ?_
      intro path isPlace
      exact further.places (by simp [next, AcquisitionStage.UsesTemporary]) hasLock isPlace
  | discards stage next held files =>
      exact cleared (by simp [stage, AcquisitionStage.UsesTemporary]) files
  | clears status stage next held files =>
      exact cleared (by simp [stage, AcquisitionStage.UsesTemporary]) files
  | refuses refused =>
      exact keeps (fun _ => refused.refused.hasRecord.usesTemporary) (refused.files ▸ .refl _)
  | rests status stage same =>
      rw [same]
      exact confines
  | stops stage next held files =>
      refine keeps ?_ (files ▸ .refl _)
      simp [stage, AcquisitionStage.UsesTemporary]
  | spoils _ _ next _ files | misses _ _ next _ files | compares _ _ _ _ next _ files
  | confirms _ _ _ _ next _ files =>
      exact keeps (by simp [next, AcquisitionStage.UsesTemporary]) (files ▸ .refl _)

theorem step (tracks : Tracks start begun work host) (continues : begun.Continues work)
    (sees : work.Sees start.files host)
    (releasing : work.stage = .releasing → work.locker.held = begun.locker.held) :
    Tracks start begun (work.step host).1 (work.step host).2 where
  stems := tracks.stems.step
  harms := tracks.harms_step continues releasing
  confines := tracks.confines_step continues sees releasing

end Tracks

theorem not_releasing_step (work : Acquisition) (host : Host) :
    (work.step host).1.stage ≠ .releasing := by
  have effect := effect_step work host
  generalize work.step host = result at effect ⊢
  intro releasing
  cases effect with
  | refuses refused =>
      have stillRefused := refused.refused
      simp [releasing, AcquisitionStage.IsRefused] at stillRefused
  | rests status stage same =>
      rw [same] at releasing
      simp [stage] at releasing
  | releases _ next | creates _ _ next | stops _ next | fills _ _ next | spoils _ _ next
  | discards _ next | links _ next | misses _ _ next | compares _ _ _ _ next
  | confirms _ _ _ _ next | breaks _ _ _ next | clears _ _ next =>
      simp [next] at releasing

/-- What holds of files in the course of an acquisition's rounds. -/
structure Follows (start : Host) (begun : Acquisition) (state : Acquisition × Host) : Prop where
  proceeds : Proceeds start begun state
  tracks : Tracks start begun state.1 state.2
  expects : state.2.Expects start.Plans
  releasing : state.1.stage = .releasing → state.1.locker.held = begun.locker.held

theorem Follows.step (follows : Follows start begun (work, host))
    (going : ∀ status, work.stage ≠ .finished status)
    (rested : ∀ wake, work.stage = .resting wake → wake ≤ host.now) :
    Follows start begun (work.step host) where
  proceeds := (follows.proceeds.step going rested).1
  tracks :=
    follows.tracks.step follows.proceeds.continues follows.proceeds.sees follows.releasing
  expects := by
    intro appointment member
    rw [(work.sameClock_step host).agenda] at member
    exact follows.expects appointment member
  releasing stage := absurd stage (not_releasing_step work host)

theorem Follows.elapse (follows : Follows start begun (work, host)) {wake : Instant}
    (stage : work.stage = .resting wake) :
    Follows start begun (work, host.elapseUntil wake) := by
  have passed := Host.elapseUntil_induction (fun later => Tracks start begun work later)
    ?_ ?_ wake follows.expects follows.tracks
  · exact ⟨follows.proceeds.elapse stage, passed.1, passed.2, follows.releasing⟩
  · intro later now agenda tracks
    exact ⟨tracks.stems, tracks.harms, tracks.confines⟩
  · intro later deed planned tracks
    exact tracks.perform planned

theorem follows_begin {locker : Locker} {user lock : String} (retries : UInt32)
    (sound : host.files.Sound) (found : locker.lockPath host user = .ok lock) :
    Follows host (begin locker host user lock retries).1
      (begin locker host user lock retries) where
  proceeds := proceeds_begin retries sound found
  tracks := by
    refine ⟨stems_begin retries sound found, ?_, ?_⟩
    · intro file harms
      exact absurd harms (not_harms_self host.files file)
    · intro _ directory name id named
      exact Or.inl (sound.named directory name id named)
  expects appointment member := ⟨appointment, member, rfl⟩
  releasing _ := rfl

theorem Follows.iterate {state : Acquisition × Host} (follows : Follows start begun state)
    (count : Nat) : Follows start begun (round^[count] state) :=
  iterate_round_induction (Follows start begun) (fun _ _ _ stage follows => follows.elapse stage)
    (fun _ _ going rested follows => follows.step going rested) follows count

end Acquisition

namespace Locker

variable {locker next : Locker} {host after : Host} {user lock : String} {retries : UInt32}
  {status : MailLockStatus}

/-- What an acquisition leaves that was asked for with an acceptable name. -/
structure Leaves (locker : Locker) (host : Host) (user lock : String) (status : MailLockStatus)
    (next : Locker) (after : Host) : Prop where
  process : next.process = locker.process
  settings : next.settings = locker.settings
  held : next.held = if status = .success then some { user := user, path := lock } else none
  named : status = .success →
    ∃ file, host.files.file file = none ∧ after.named? lock = some file
  sound : after.files.Sound
  inherits : host.files.Inherits after.files
  harms : ∀ file, host.files.Harms after.files file → locker.Endangers host lock file
  confines : locker.SparesLinks host lock →
    Confines host.files after.files fun path => status = .success ∧ path = lock
  wears : Host.Wears (locker.Spends host lock) host after

/-- A process that waits for no record lock has all that it had, but for those that it `Spends`. -/
theorem Leaves.held_or_spent (leaves : Leaves locker host user lock status next after)
    (idle : host.locks.isWaiting locker.process = false)
    (alive : after.isAlive locker.process = true) {record : RecordLock}
    (member : record ∈ host.locks.held) (isOwner : record.owner = locker.process) :
    record ∈ after.locks.held ∨ locker.Spends host lock record := by
  rw [← isOwner] at idle alive
  by_cases spent : locker.Spends host lock record
  · exact Or.inr spent
  · exact Or.inl (leaves.wears.mem_held member spent alive idle)

theorem leaves_of_acquire (sound : host.files.Sound)
    (found : locker.lockPath host user = .ok lock)
    (acquired : locker.acquire host user retries = (status, next, after)) :
    Leaves locker host user lock status next after := by
  rcases exists_finished_of_acquire sound found acquired with
    ⟨count, done, isDone, ended, rfl, rfl, proceeds⟩
  have follows := (Acquisition.follows_begin retries sound found).iterate count
  rw [← isDone] at follows
  have continues := proceeds.continues
  refine ⟨continues.process, continues.settings, ?_, ?_, proceeds.stems.sound,
    proceeds.stems.inherits, follows.tracks.harms, ?_, proceeds.wears⟩
  · have rightly := proceeds.rightly
    split
    case isTrue success =>
      subst success
      simp only [Acquisition.HoldsRightly, ended] at rightly
      rw [rightly, continues.user, continues.lock]
      rfl
    case isFalse failed =>
      exact Acquisition.held_of_holdsRightly rightly (by simp [ended]) (by simp [ended, failed])
  · rintro rfl
    have sees := proceeds.sees
    simp only [Acquisition.Sees, ended] at sees
    rw [continues.lock] at sees
    exact sees
  · intro spares
    refine (follows.tracks.confines spares).of_sameEntries (.refl _) ?_
    rintro path (⟨uses, _⟩ | ⟨linked | success, rfl⟩)
    · simp [ended, AcquisitionStage.UsesTemporary] at uses
    · simp [ended, AcquisitionStage.HasLinked] at linked
    · rw [ended] at success
      exact ⟨AcquisitionStage.finished.inj success, continues.lock⟩

end Locker

end MailSpool

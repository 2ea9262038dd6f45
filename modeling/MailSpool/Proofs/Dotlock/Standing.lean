import MailSpool.Proofs.Dotlock.NewFiles
import MailSpool.Proofs.Dotlock.Temporaries
import MailSpool.Proofs.FileSystem.Lasting

/-!
# A lock that stands

A `StandingLock` is not old and tells an owner that is alive. A locker that `Yields` to such a lock
judges it so: it waits, or gives up. It could come to remove the lock or to take it for its own only
by a path that leads elsewhere, and such a path never comes to lead to the lock as long as no way is
opened.
-/

namespace MailSpool

open FileSystem

/-- The entry of a lock, the file that it names, and the owner of which that file tells. -/
structure StandingLock where
  directory : FileId
  name : String
  file : FileId
  owner : ProcessId

namespace StandingLock

def spot (lock : StandingLock) : FileId × Option String :=
  (lock.directory, some lock.name)

/-- For lockers with some settings the lock is neither old nor without an owner. -/
structure Stands (lock : StandingLock) (settings : MailSettings) (host : Host) : Prop where
  child : host.files.child? lock.directory lock.name = some lock.file
  content : ∃ content, host.files.node? lock.file = some (.regular content) ∧
    ownerOfContent content = some lock.owner
  fresh : ∀ found, host.files.file lock.file = some found →
    settings.isOutdated host.now found = false
  alive : host.isAlive lock.owner = true

/-- A path leads to another entry than the lock, if it leads anywhere. -/
def Elsewhere (lock : StandingLock) (files : FileSystem) (path : String) : Prop :=
  files.LeadsWithin path (· ≠ lock.spot)

/-- A path can be removed without harm to the lock. -/
structure Avoided (lock : StandingLock) (files : FileSystem) (path : String) : Prop where
  elsewhere : lock.Elsewhere files path
  noLink : files.NamesNoLink path

variable {lock : StandingLock} {settings : MailSettings} {host : Host} {path : String}

theorem Stands.plain (stands : lock.Stands settings host) :
    host.files.directory? lock.file = none ∧ host.files.target? lock.file = none := by
  rcases stands.content with ⟨content, regular, _⟩
  exact plain_of_node? regular

theorem Stands.known (stands : lock.Stands settings host) :
    (host.files.file lock.file).isSome := by
  rcases stands.content with ⟨content, regular, _⟩
  rw [← isSome_node?, regular]
  rfl

theorem Stands.elsewhere_of_names (stands : lock.Stands settings host) {other : FileId}
    (names : host.files.Names path other) (different : other ≠ lock.file) :
    lock.Elsewhere host.files path :=
  LeadsWithin.of_names_ne names stands.child different

theorem elsewhere_or_aims {files : FileSystem} {place : Place}
    (located : files.locate false path = .ok place) :
    lock.Elsewhere files path ∨ files.LeadsWithin path (· = lock.spot) := by
  by_cases spot : place.spot = lock.spot
  · refine Or.inr fun other otherLocated => ?_
    cases located.symm.trans otherLocated
    exact spot
  · refine Or.inl fun other otherLocated => ?_
    cases located.symm.trans otherLocated
    exact spot

/-- Whoever reads a path that leads to the lock learns its owner. -/
theorem Stands.owner_of_read (stands : lock.Stands settings host)
    (aims : host.files.LeadsWithin path (· = lock.spot)) {content : ByteArray}
    {process : ProcessId} (read : (host.read process path).1 = .ok content) :
    ownerOfContent content = some lock.owner := by
  rcases Host.exists_names_of_read read with ⟨writable, id, named⟩
  rcases stands.content with ⟨recorded, regular, isOwner⟩
  by_cases same : id = lock.file
  · rw [same] at named
    rw [Host.read_of_names writable named regular] at read
    cases read
    exact isOwner
  · rcases named with ⟨place, located, isFile⟩
    exact absurd (aims place located)
      (stands.elsewhere_of_names ⟨place, located, isFile⟩ same place located)

end StandingLock

namespace AcquisitionStage

/-- A stage at which a locker relies on no look at the lock. -/
def IsUndecided : AcquisitionStage → Prop
  | .readingOwner _ | .askingOwner _ _ | .rechecking _ | .breaking _ | .clearing .success => False
  | _ => True

/-- What a locker has found at a path that may lead to a lock which stands. -/
def Defers (stage : AcquisitionStage) (lock : StandingLock) (aims : Prop) : Prop :=
  match stage with
  | .readingOwner found => found = lock.file → aims
  | .askingOwner found owner => found = lock.file → owner = lock.owner
  | .rechecking stale => stale ≠ lock.file
  | .breaking _ | .clearing .success => False
  | _ => True

/-- A stage at which a locker looks at the lock or at its owner. -/
def Looks : AcquisitionStage → Prop
  | .judging | .readingOwner _ | .askingOwner _ _ | .rechecking _ | .comparingLock _ _ => True
  | _ => False

theorem IsUndecided.defers {stage : AcquisitionStage} (undecided : stage.IsUndecided)
    (lock : StandingLock) (aims : Prop) : stage.Defers lock aims := by
  unfold IsUndecided at undecided
  unfold Defers
  split <;> simp_all

theorem Defers.mono {stage : AcquisitionStage} {lock : StandingLock} {aims later : Prop}
    (defers : stage.Defers lock aims) (implies : aims → later) : stage.Defers lock later := by
  cases stage with
  | readingOwner found => exact fun same => implies (defers same)
  | clearing status => cases status <;> exact defers
  | releasing | creating | writing | discarding | linking | comparing | comparingLock | judging
  | askingOwner | rechecking | breaking | resting | finished => exact defers

end AcquisitionStage

namespace Acquisition

variable {work : Acquisition} {host : Host} {own : Option FileId} {lock : StandingLock}

theorem isUndecided_wait (work : Acquisition) (host : Host) :
    (work.wait host).1.stage.IsUndecided := by
  unfold wait
  split <;> trivial

theorem isUndecided_notLinked (work : Acquisition) (host : Host) (refusal : Option IoError) :
    (work.notLinked host refusal).1.stage.IsUndecided := by
  unfold notLinked
  split
  · trivial
  · split <;> trivial

theorem isUndecided_notBroken (work : Acquisition) (host : Host) (error : IoError) :
    (work.notBroken host error).1.stage.IsUndecided := by
  unfold notBroken
  split <;> trivial

/-- A step that `Looks` at nothing leaves an acquisition undecided. -/
theorem isUndecided_step (host : Host) (blind : ¬work.stage.Looks) :
    (work.step host).1.stage.IsUndecided := by
  cases stage : work.stage with
  | releasing => simp [step, stage, AcquisitionStage.IsUndecided]
  | creating =>
      simp only [step, stage]
      split <;> trivial
  | writing file =>
      simp only [step, stage]
      split <;> trivial
  | discarding => simp [step, stage, giveUp, atStage, AcquisitionStage.IsUndecided]
  | linking =>
      simp only [step, stage]
      split <;> trivial
  | comparing refusal =>
      simp only [step, stage]
      split
      · trivial
      · exact work.isUndecided_notLinked host refusal
  | breaking stale =>
      simp only [step, stage]
      split
      · trivial
      case h_2 error _ => exact work.isUndecided_notBroken host error
  | resting wake =>
      simp only [step, stage]
      split
      · trivial
      · simp [stage, AcquisitionStage.IsUndecided]
  | clearing status =>
      simp only [step, stage, finish]
      split <;> trivial
  | finished status => simp [step, stage, AcquisitionStage.IsUndecided]
  | judging | readingOwner | askingOwner | rechecking | comparingLock =>
      simp [stage, AcquisitionStage.Looks] at blind

/-- How an acquisition stands to a lock that stands: what it has found, as `Defers` tells, leads to
no removal of the lock, unless its path leads elsewhere. -/
structure Yields (work : Acquisition) (lock : StandingLock) (files : FileSystem) : Prop where
  noLink : files.NamesNoLink work.lock
  defers : lock.Elsewhere files work.lock ∨
    work.stage.Defers lock (files.LeadsWithin work.lock (· = lock.spot))

theorem Yields.kept {before after : FileSystem} (yields : work.Yields lock before)
    (leads : LeadsNoFurther before after work.lock) (noLink : after.NamesNoLink work.lock) :
    work.Yields lock after where
  noLink := noLink
  defers := by
    refine yields.defers.imp (fun elsewhere => elsewhere.of_leadsNoFurther leads) fun defers => ?_
    exact defers.mono fun aims => aims.of_leadsNoFurther leads

section Judging

variable (stands : lock.Stands work.locker.settings host)
include stands

theorem defers_judging (stage : work.stage = .judging) :
    lock.Elsewhere host.files work.lock ∨
      (work.step host).1.stage.Defers lock (host.files.LeadsWithin work.lock (· = lock.spot)) := by
  rcases looked : host.lstat work.lock with error | ⟨found, file⟩
  · simp only [step, stage, looked]
    exact Or.inr ((work.isUndecided_wait host).defers _ _)
  · rcases find_eq_ok_iff.mp (Host.lstat_eq_ok_iff.mp looked).2 with
      ⟨place, located, isFile, isFound⟩
    by_cases same : found = lock.file
    · subst same
      simp only [step, stage, looked, stands.fresh file isFound, Bool.false_eq_true, if_false]
      split
      · exact (StandingLock.elsewhere_or_aims located).imp id fun aims _ => aims
      · exact Or.inr ((work.isUndecided_wait host).defers _ _)
    · exact Or.inl (stands.elsewhere_of_names ⟨place, located, isFile⟩ same)

theorem defers_readingOwner {found : FileId} (stage : work.stage = .readingOwner found)
    (defers : found = lock.file → host.files.LeadsWithin work.lock (· = lock.spot)) (aims : Prop) :
    (work.step host).1.stage.Defers lock aims := by
  simp only [step, stage]
  split
  case h_1 content closed read =>
    split
    case h_1 owner isOwner =>
      intro same
      have readContent : (host.read work.locker.process work.lock).1 = .ok content := by rw [read]
      rw [stands.owner_of_read (defers same) readContent] at isOwner
      exact (Option.some.inj isOwner).symm
    case h_2 => exact (work.isUndecided_wait closed).defers _ _
  case h_2 error closed read => exact (work.isUndecided_wait closed).defers _ _

theorem defers_askingOwner {found : FileId} {owner : ProcessId}
    (stage : work.stage = .askingOwner found owner)
    (defers : found = lock.file → owner = lock.owner)
    (aims : Prop) : (work.step host).1.stage.Defers lock aims := by
  simp only [step, stage]
  split
  case isTrue => exact (work.isUndecided_wait host).defers _ _
  case isFalse dead =>
    rintro rfl
    rw [defers rfl] at dead
    exact dead stands.alive

theorem defers_rechecking {stale : FileId} (stage : work.stage = .rechecking stale)
    (defers : stale ≠ lock.file) (aims : Prop) :
    lock.Elsewhere host.files work.lock ∨ (work.step host).1.stage.Defers lock aims := by
  rcases looked : host.lstat work.lock with error | ⟨found, file⟩
  · simp only [step, stage, looked]
    exact Or.inr ((work.isUndecided_notBroken host error).defers _ _)
  · by_cases same : found = stale
    · subst same
      refine Or.inl (stands.elsewhere_of_names ?_ defers)
      exact (Host.named?_eq_some_iff_names.mp (Host.named?_eq_some_iff.mpr ⟨file, looked⟩)).2.1
    · simp only [step, stage, looked, if_neg same]
      exact Or.inr trivial

theorem defers_comparingLock {refusal : Option IoError} {file : FileId}
    (stage : work.stage = .comparingLock refusal file) (different : file ≠ lock.file)
    (aims : Prop) :
    lock.Elsewhere host.files work.lock ∨ (work.step host).1.stage.Defers lock aims := by
  rcases looked : host.lstat work.lock with error | ⟨found, details⟩
  · simp only [step, stage, looked]
    exact Or.inr ((work.isUndecided_notLinked host refusal).defers _ _)
  · by_cases same : found = file
    · subst same
      refine Or.inl (stands.elsewhere_of_names ?_ different)
      exact (Host.named?_eq_some_iff_names.mp (Host.named?_eq_some_iff.mpr ⟨details, looked⟩)).2.1
    · simp only [step, stage, looked, if_neg same]
      exact Or.inr ((work.isUndecided_notLinked host refusal).defers _ _)

end Judging

/-- An acquisition `Defers` to a lock that `Stands`, unless its path leads elsewhere. -/
theorem Yields.defers_step (yields : work.Yields lock host.files)
    (stands : lock.Stands work.locker.settings host) (orderly : work.Orderly host.files own)
    (different : ∀ file, work.Uses own file → file ≠ lock.file)
    (narrows : Narrows host.files (work.step host).2.files) :
    lock.Elsewhere (work.step host).2.files work.lock ∨
      (work.step host).1.stage.Defers lock
        ((work.step host).2.files.LeadsWithin work.lock (· = lock.spot)) := by
  rcases yields.defers with elsewhere | defers
  · exact Or.inl (elsewhere.of_narrows narrows)
  · cases stage : work.stage with
    | judging =>
        rw [(refuses_step host (by simp [stage, AcquisitionStage.IsWatching])).files]
        exact defers_judging stands stage
    | readingOwner found =>
        rw [stage] at defers
        exact Or.inr (defers_readingOwner stands stage defers _)
    | askingOwner found owner =>
        rw [stage] at defers
        exact Or.inr (defers_askingOwner stands stage defers _)
    | rechecking stale =>
        rw [stage] at defers
        rw [(refuses_step host (by simp [stage, AcquisitionStage.IsWatching])).files]
        exact defers_rechecking stands stage defers _
    | comparingLock refusal file =>
        refine (defers_comparingLock stands stage (different file ⟨?_, ?_⟩) _).imp ?_ id
        · simp [stage, AcquisitionStage.UsesTemporary]
        · exact orderly.compared refusal file stage
        · exact fun elsewhere => elsewhere.of_narrows narrows
    | releasing | creating | writing | discarding | linking | comparing | breaking | resting
    | clearing | finished =>
        refine Or.inr ((isUndecided_step host ?_).defers _ _)
        simp [stage, AcquisitionStage.Looks]

theorem Yields.step (yields : work.Yields lock host.files)
    (stands : lock.Stands work.locker.settings host) (orderly : work.Orderly host.files own)
    (sound : host.files.Sound) (different : ∀ file, work.Uses own file → file ≠ lock.file) :
    (work.step host).1.Yields lock (work.step host).2.files := by
  have narrows := (orderly.spares_step sound).narrows
  have defers := yields.defers_step stands orderly different narrows
  rw [← (continues_step work host).lock] at defers
  refine ⟨?_, defers⟩
  rw [(continues_step work host).lock]
  exact yields.noLink.of_narrows narrows

/-- The lock stays where it is when an acquisition `Yields` to it. -/
theorem Yields.lies_step (yields : work.Yields lock host.files)
    (orderly : work.Orderly host.files own) (sound : host.files.Sound)
    (different : ∀ file, work.Uses own file → file ≠ lock.file)
    (held : ∀ holding, work.locker.held = some holding → lock.Avoided host.files holding.path)
    {path : String}
    (lies : host.files.LiesAt path lock.directory lock.name lock.file) :
    (work.step host).2.files.LiesAt path lock.directory lock.name lock.file := by
  have effect := fileEffect_step work host
  generalize work.step host = result at effect ⊢
  cases effect with
  | keeps files =>
      rw [files]
      exact lies
  | makes file stage created =>
      rcases create_spec sound (Host.create_eq_ok created).1 with ⟨_, _, located, _, _, sets, _, _⟩
      exact lies.sets_vacant sets (child?_of_locate located)
  | writes file stage filled =>
      rw [Host.fill_eq_ok filled]
      exact lies.sameEntries (setContent_spec _ _ _ _).1
  | links stage linked =>
      rcases link_spec (Host.link_eq_ok linked).1 with ⟨_, _, _, _, _, located, sets, _, _⟩
      exact lies.sets_vacant sets (child?_of_locate located)
  | releases holding stage isHeld removed =>
      exact lies.unlink removed (held holding isHeld).elsewhere (held holding isHeld).noLink
  | breaks stale stage removed =>
      refine lies.unlink removed (yields.defers.resolve_right ?_) yields.noLink
      simp [stage, AcquisitionStage.Defers]
  | clears stage removed =>
      have uses : work.stage.UsesTemporary := by
        rcases stage with stage | ⟨status, stage⟩ <;> simp [stage, AcquisitionStage.UsesTemporary]
      rcases orderly.file uses with ⟨file, content, isOwn, leads, regular, _⟩
      refine lies.unlink removed ?_ ?_
      · intro place located spot
        rcases place with ⟨folder, text, found⟩ | folder
        · simp only [Place.spot, Prod.mk.injEq, Option.some.injEq] at spot
          rcases spot with ⟨rfl, rfl⟩
          have isFile := (child?_of_locate located).symm.trans lies.child?
          rw [leads.eq_of_locate located] at isFile
          exact different file ⟨uses, isOwn⟩ (Option.some.inj isFile)
        · simp [Place.spot] at spot
      · intro link names
        rw [leads.eq_of_names names]
        exact (plain_of_node? regular).2

/-- A step keeps the content and the times of every file but the one that the locker `Uses`. -/
theorem Orderly.retains_step (orderly : work.Orderly host.files own) (sound : host.files.Sound) :
    Retains host.files (work.step host).2.files (work.Uses own) := by
  have of_spared : ∀ {after : FileSystem}, Retains host.files after (fun _ => False) →
      Retains host.files after (work.Uses own) := fun retains =>
    ⟨retains.next, fun id known plain _ => retains.traits id known plain not_false⟩
  have effect := fileEffect_step work host
  generalize work.step host = result at effect ⊢
  cases effect with
  | keeps files =>
      rw [files]
      exact .refl _ _
  | makes file stage created =>
      rcases create_spec sound (Host.create_eq_ok created).1 with ⟨_, _, _, _, _, _, retains, _⟩
      exact of_spared retains
  | writes file stage filled =>
      rw [Host.fill_eq_ok filled]
      have retains := (setContent_spec host.files file
        (ownerRecord work.locker.recordedOwner) host.now).2.1
      refine ⟨retains.next, fun id known plain unused => retains.traits id known plain ?_⟩
      rintro rfl
      exact unused ⟨by simp [stage, AcquisitionStage.UsesTemporary], orderly.made id stage⟩
  | links stage linked =>
      rcases link_spec (Host.link_eq_ok linked).1 with ⟨_, _, _, _, _, _, _, retains, _⟩
      exact of_spared retains
  | releases _ _ _ removed | breaks _ _ removed | clears _ removed =>
      rcases unlink_spec removed with ⟨_, _, _, _, _, _, retains, _⟩
      exact of_spared retains

end Acquisition

end MailSpool

import MailSpool.Proofs.Dotlock.Leavings
import MailSpool.Proofs.Dotlock.Records
import MailSpool.Proofs.FileSystem.Beside
import MailSpool.Proofs.Host.Stillness

/-!
# Taking a lock that is free

A locker that takes a lock whose path named nothing, while nobody else acts on files, adds the lock
to what there is: its temporary file is gone again, and no file has lost a name or changed: this is
`beside_of_acquire`. That directories keep their names, `KeepsFolders`, needs an argument of its
own, because what is known of the files that an acquisition endangers leaves directories out.
-/

namespace MailSpool

open FileSystem

namespace FileSystem

/-- Every directory keeps its names. -/
structure KeepsFolders (before after : FileSystem) : Prop extends SameKinds before after where
  entry : ∀ directory name id, before.child? directory name = some id →
    (before.directory? id).isSome → after.child? directory name = some id

namespace KeepsFolders

variable {before between after : FileSystem} {path : String} {now : Instant}

theorem of_sameEntries (same : SameEntries before after) : KeepsFolders before after where
  toSameKinds := same.toSameKinds
  entry directory name _ named _ := (same.entry directory name).trans named

theorem refl (files : FileSystem) : KeepsFolders files files :=
  .of_sameEntries (.refl files)

theorem trans (first : KeepsFolders before between) (second : KeepsFolders between after) :
    KeepsFolders before after where
  toSameKinds := first.toSameKinds.trans second.toSameKinds
  entry directory name id named isFolder := by
    refine second.entry directory name id (first.entry directory name id named isFolder) ?_
    rw [Option.isSome_iff_ne_none] at isFolder ⊢
    exact mt (first.directory?_eq_none_iff id).mp isFolder

theorem of_sets {directory : FileId} {name : String} {child : Option FileId}
    (sets : Sets before after directory name child)
    (plain : ∀ id, before.child? directory name = some id → before.directory? id = none) :
    KeepsFolders before after where
  toSameKinds := sets.toSameKinds
  entry folder text id named isFolder := by
    rw [sets.entry_of_ne, named]
    rintro ⟨rfl, rfl⟩
    simp [plain id named] at isFolder

theorem unlink (removed : before.unlink path now = .ok after) : KeepsFolders before after := by
  rcases unlink_spec removed with ⟨directory, name, id, located, plain, sets, _⟩
  refine .of_sets sets ?_
  rw [child?_of_locate located]
  rintro other ⟨⟩
  exact plain

theorem keepsNames (folders : KeepsFolders before after) (sound : before.Sound)
    (unharmed : ∀ file, ¬before.Harms after file) : KeepsNames before after := by
  intro directory name id named
  rcases listed : before.directory? id with _ | listing
  · by_contra lost
    exact unharmed id ⟨sound.named directory name id named, listed, .inl ⟨_, _, named, lost⟩⟩
  · exact folders.entry directory name id named (by simp [listed])

end KeepsFolders

theorem retains_of_unharmed {before after : FileSystem} (next : before.next ≤ after.next)
    (unharmed : ∀ file, ¬before.Harms after file) : Retains before after fun _ => False where
  next := next
  traits id known plain _ := by
    by_contra changed
    exact unharmed id ⟨known, plain, .inr changed⟩

/-- The contents are old ones and a new file, in the sense of `Beside`, when no old file loses a
name or changes and every other file lies where a path leads. -/
theorem Inherits.beside {before after : FileSystem} {path : String} {own : FileId}
    {content : ByteArray} (inherits : before.Inherits after) (sound : before.Sound)
    (stillSound : after.Sound) (keeps : before.KeepsNames after)
    (retains : before.Retains after fun _ => False)
    (confines : before.Confines after (· = path))
    {directory : FileId} {name : String} (lies : after.LiesAt path directory name own)
    (isNew : before.file own = none) (regular : after.node? own = some (.regular content)) :
    Beside before after path own := by
  have vacant : before.child? directory name = none := by
    rcases found : before.child? directory name with _ | other
    · rfl
    · have same := keeps directory name other found
      rw [lies.child?] at same
      cases same
      have known := sound.named directory name own found
      simp [isNew] at known
  have located : before.locate false path = .ok (.entry directory name none) := by
    rcases inherits.narrows.locate lies with ⟨place, located, spot⟩
    cases place with
    | entry folder text found =>
        obtain ⟨rfl, rfl⟩ : folder = directory ∧ text = name := by simpa [Place.spot] using spot
        rw [located, ← vacant, child?_of_locate located]
    | directory id => simp [Place.spot] at spot
  have sets : Sets before after directory name (some own) := by
    refine ⟨inherits.toSameKinds, fun folder text => ?_⟩
    split
    case isTrue same => rw [same.1, same.2, lies.child?]
    case isFalse different =>
      rcases found : after.child? folder text with _ | other
      · rcases old : before.child? folder text with _ | lost
        · rfl
        · simp [keeps folder text lost old] at found
      · rcases confines folder text other found with known | ⟨_, rfl, liesThere⟩
        · exact (inherits.old folder text other found known).symm
        · rw [LiesAt, lies] at liesThere
          cases liesThere
          exact absurd ⟨rfl, rfl⟩ different
  have widens : Narrows after before :=
    inherits.toSameKinds.symm.narrows fun folder text id named _ => keeps folder text id named
  exact ⟨.of_sets located sets inherits.narrows widens, retains, stillSound, isNew, content,
    regular⟩

end FileSystem

theorem Host.IsStill.isQuiet {host : Host} (still : host.IsStill) : host.IsQuiet := by
  intro appointment member
  have spared := still appointment member
  cases deed : appointment.deed with
  | unlink path => exact absurd (deed ▸ trivial) spared
  | touch path => exact absurd (deed ▸ trivial) spared
  | exit process => trivial
  | signal process number => trivial

namespace Acquisition

theorem keepsFolders_step {work : Acquisition} {host : Host} (sound : host.files.Sound) :
    KeepsFolders host.files (work.step host).2.files := by
  cases fileEffect_step work host with
  | keeps files =>
      rw [files]
      exact .refl host.files
  | makes file stage created =>
      rcases create_spec sound (Host.create_eq_ok created).1 with ⟨_, _, located, _, _, sets, _⟩
      exact .of_sets sets fun id found => by simp [child?_of_locate located] at found
  | writes file stage filled =>
      rw [Host.fill_eq_ok filled]
      exact .of_sameEntries (setContent_spec host.files file _ host.now).1
  | links stage linked =>
      rcases link_spec (Host.link_eq_ok linked).1 with ⟨_, _, _, _, _, located, sets, _⟩
      exact .of_sets sets fun id found => by simp [child?_of_locate located] at found
  | releases held stage isHeld removed => exact .unlink removed
  | breaks stale stage removed => exact .unlink removed
  | clears stage removed => exact .unlink removed

/-- On a still host no directory loses a name in the course of an acquisition. -/
theorem keepsFolders_iterate {start : FileSystem} {state : Acquisition × Host}
    (stems : state.1.Stems start state.2.files) (still : state.2.IsStill) (count : Nat) :
    (round^[count] state).2.IsStill ∧
      KeepsFolders state.2.files (round^[count] state).2.files := by
  exact (iterate_round_induction
    (fun later => later.1.Stems start later.2.files ∧ later.2.IsStill ∧
      KeepsFolders state.2.files later.2.files)
    (fun _ _ wake _ ⟨stems, still, keeps⟩ => ⟨stems.elapse wake, (still.elapseUntil wake).2,
      (still.elapseUntil wake).1.symm ▸ keeps⟩)
    (fun work host _ _ ⟨stems, still, keeps⟩ => ⟨stems.step,
      still.of_agenda (work.sameClock_step host).agenda,
      keeps.trans (keepsFolders_step stems.sound)⟩)
    ⟨stems, still, .refl _⟩ count).2

end Acquisition

namespace Locker

variable {locker next : Locker} {host after : Host} {user lock : String} {retries : UInt32}

/-- On a still host, with nothing held, no name but that of the lock is removed. -/
theorem eq_of_removes (still : host.IsStill) (free : locker.held = none) {path : String}
    (removes : locker.Removes host lock path) : path = lock := by
  rcases removes with same | held | ⟨appointment, member, deed⟩
  · exact same
  · simp [free] at held
  · exact absurd (deed ▸ trivial) (still appointment member)

theorem not_endangers_of_free (still : host.IsStill) (free : locker.held = none)
    (vacant : ∀ file, ¬host.files.Names lock file) (file : FileId) :
    ¬locker.Endangers host lock file := by
  rintro (⟨path, removes, names⟩ | ⟨path, ⟨appointment, member, deed⟩, _⟩)
  · exact vacant file (eq_of_removes still free removes ▸ names)
  · exact absurd (deed ▸ trivial) (still appointment member)

/-- A locker that takes a free lock while nobody else acts on files has added the lock to what there
was, with the `ownerRecord` of its owner. -/
theorem beside_of_acquire (sound : host.files.Sound) (still : host.IsStill)
    (free : locker.held = none) (isLock : locker.lockPath host user = .ok lock)
    (unnamed : host.named? lock = none)
    (acquired : locker.acquire host user retries = (.success, next, after)) :
    Host.IsWritable lock ∧ after.IsStill ∧
      ∃ file, Beside host.files after.files lock file ∧
        after.files.node? file = some (.regular (ownerRecord locker.recordedOwner)) := by
  have leaves := leaves_of_acquire sound isLock acquired
  rcases leaves.named rfl with ⟨file, isNew, named⟩
  rcases recorded_of_acquire sound still.isQuiet isLock acquired with ⟨other, named', regular⟩
  obtain rfl : other = file := by simpa [named] using named'.symm
  rcases Host.named?_eq_some_iff_names.mp named with ⟨writable, ⟨place, located, ends⟩, _⟩
  have suffix := getLast?_lockPath isLock
  obtain ⟨directory, name, found, rfl⟩ := entry_of_locate suffix (by decide) (by decide) located
  obtain rfl : found = some other := ends
  have vacant : ∀ id, ¬host.files.Names lock id := by
    intro id names
    have known := sound.isSome_of_names names suffix (by decide) (by decide)
    rw [Host.named?_eq_some_iff_names.mpr ⟨writable, names, known⟩] at unnamed
    cases unnamed
  have unharmed : ∀ id, ¬host.files.Harms after.files id := fun id harms =>
    not_endangers_of_free still free vacant id (leaves.harms id harms)
  rcases exists_finished_of_acquire sound isLock acquired with
    ⟨count, done, rfl, _, _, rfl, _⟩
  rcases Acquisition.keepsFolders_iterate (Acquisition.stems_begin retries sound isLock) still count
    with ⟨stillAfter, folders⟩
  refine ⟨writable, stillAfter, other, ?_, regular⟩
  refine leaves.inherits.beside sound leaves.sound (folders.keepsNames sound unharmed)
    (retains_of_unharmed leaves.inherits.next unharmed) ?_ located isNew regular
  have spares : locker.SparesLinks host lock := fun path removes link names =>
    absurd (eq_of_removes still free removes ▸ names) (vacant link)
  intro folder text id found
  exact (leaves.confines spares folder text id found).imp_right fun ⟨_, ⟨_, isPath⟩, lies⟩ =>
    ⟨_, isPath, lies⟩

end Locker

end MailSpool

import MailSpool.Proofs.FileSystem.Inherits

/-!
# What lasts

Whatever is done to files, a file that is known stays known, `Recalls`, even when no entry names it
any more. A path that leads to no entry but one, or to any but one, goes on to do so as long as no
way is opened, because it can only cease to lead anywhere.
-/

namespace MailSpool.FileSystem

/-- Known files stay known. -/
def Recalls (before after : FileSystem) : Prop :=
  ∀ id, (before.file id).isSome → (after.file id).isSome

/-- If a path leads anywhere, it leads to an entry or a directory of a kind. -/
def LeadsWithin (files : FileSystem) (path : String) (spots : FileId × Option String → Prop) :
    Prop :=
  ∀ place, files.locate false path = .ok place → spots place.spot

/-- Wherever a path leads now, it led before. -/
def LeadsNoFurther (before after : FileSystem) (path : String) : Prop :=
  ∀ place, after.locate false path = .ok place →
    ∃ old, before.locate false path = .ok old ∧ old.spot = place.spot

variable {before between after : FileSystem} {path : String}

theorem Narrows.leadsNoFurther (narrows : Narrows before after) (path : String) :
    LeadsNoFurther before after path :=
  fun _ located => narrows.locate located

/-! ## Known files -/

namespace Recalls

theorem refl (files : FileSystem) : Recalls files files :=
  fun _ known => known

theorem trans (first : Recalls before between) (second : Recalls between after) :
    Recalls before after :=
  fun id known => second id (first id known)

theorem of_retains {excepted : FileId → Prop} (kinds : SameKinds before after)
    (retains : Retains before after excepted)
    (written : ∀ id, excepted id → (before.file id).isSome → (after.file id).isSome) :
    Recalls before after := by
  intro id known
  rcases listed : before.directory? id with _ | listing
  · by_cases isExcepted : excepted id
    · exact written id isExcepted known
    · exact retains.isSome known listed isExcepted
  · apply isSome_file_of_directory?
    rw [Option.isSome_iff_ne_none]
    intro unlisted
    rw [(kinds.directory?_eq_none_iff id).mp unlisted] at listed
    simp at listed

theorem of_spared (kinds : SameKinds before after) (retains : Retains before after fun _ => False) :
    Recalls before after :=
  of_retains kinds retains fun _ impossible => impossible.elim

end Recalls

theorem recalls_create (sound : before.Sound) {id : FileId} {now : Instant}
    (created : before.create path (.regular .empty) now = .ok (id, after)) :
    Recalls before after := by
  rcases create_spec sound created with ⟨_, _, _, _, _, sets, retains, _⟩
  exact .of_spared sets.toSameKinds retains

theorem recalls_link {existing : String} {now : Instant}
    (linked : before.link existing path now = .ok after) : Recalls before after := by
  rcases link_spec linked with ⟨_, _, _, _, _, _, sets, retains, _⟩
  exact .of_spared sets.toSameKinds retains

theorem recalls_unlink {now : Instant} (removed : before.unlink path now = .ok after) :
    Recalls before after := by
  rcases unlink_spec removed with ⟨_, _, _, _, _, sets, retains, _⟩
  exact .of_spared sets.toSameKinds retains

theorem recalls_setContent (files : FileSystem) (id : FileId) (content : ByteArray)
    (now : Instant) : Recalls files (files.setContent id content now) := by
  rcases setContent_spec files id content now with ⟨same, retains, _⟩
  refine .of_retains same.toSameKinds retains ?_
  rintro written rfl known
  unfold setContent
  split
  · simp
  · exact known

theorem recalls_touch {now : Instant} (touched : before.touch path now = .ok after) :
    Recalls before after := by
  rcases touch_spec touched with ⟨found, file, _, isFound, same, retains, _⟩
  refine .of_retains same.toSameKinds retains ?_
  rintro written rfl _
  simp [isFound]

/-- The names of files that were known are old names, between two times as well. -/
theorem Inherits.trans (first : Inherits before between) (recalls : Recalls before between)
    (second : Inherits between after) : Inherits before after where
  toSameKinds := first.toSameKinds.trans second.toSameKinds
  next := Nat.le_trans first.next second.next
  old directory name id named known :=
    first.old directory name id (second.old directory name id named (recalls id known)) known

/-! ## Where paths lead -/

section LeadsWithin

variable {spots : FileId × Option String → Prop} {directory : FileId} {name : String}
  {id : FileId}

theorem LeadsWithin.of_leadsNoFurther (within : before.LeadsWithin path spots)
    (leads : LeadsNoFurther before after path) : after.LeadsWithin path spots := by
  intro place located
  rcases leads place located with ⟨old, oldLocated, sameSpot⟩
  rw [← sameSpot]
  exact within old oldLocated

theorem LeadsWithin.of_narrows (within : before.LeadsWithin path spots)
    (narrows : Narrows before after) : after.LeadsWithin path spots :=
  within.of_leadsNoFurther (narrows.leadsNoFurther path)

theorem LiesAt.leadsWithin (lies : before.LiesAt path directory name id) :
    before.LeadsWithin path (· = (directory, some name)) := by
  intro place located
  cases lies.symm.trans located
  rfl

/-- The name that `unlink` removes from a path is that of the entry to which the path leads. -/
theorem LeadsWithin.entry_of_unlink {now : Instant}
    (within : before.LeadsWithin path (· = (directory, some name)))
    (removed : before.unlink path now = .ok after) :
    ∃ file, before.child? directory name = some file ∧
      Sets before after directory name none := by
  rcases unlink_spec removed with ⟨folder, text, file, located, _, sets, _⟩
  have spot := within _ located
  simp only [Place.spot, Prod.mk.injEq, Option.some.injEq] at spot
  rcases spot with ⟨rfl, rfl⟩
  exact ⟨file, child?_of_locate located, sets⟩

theorem LeadsWithin.of_names_ne {other : FileId} (names : before.Names path other)
    (child : before.child? directory name = some id) (different : other ≠ id) :
    before.LeadsWithin path (· ≠ (directory, some name)) := by
  rintro (⟨folder, text, file⟩ | folder) located spot
  · simp only [Place.spot, Prod.mk.injEq, Option.some.injEq] at spot
    rcases spot with ⟨rfl, rfl⟩
    cases (child?_of_locate located).symm.trans child
    exact different (names.leads.eq_of_names ⟨_, located, rfl⟩).symm
  · simp [Place.spot] at spot

end LeadsWithin

/-! ## Entries that stay -/

/-- A path names no symbolic link. -/
def NamesNoLink (files : FileSystem) (path : String) : Prop :=
  ∀ link, files.Names path link → files.target? link = none

section LiesAt

variable {directory folder : FileId} {name text other : String} {id : FileId} {now : Instant}

theorem LiesAt.namesNoLink (lies : before.LiesAt path directory name id)
    (noLink : before.target? id = none) : before.NamesNoLink path := by
  rintro link ⟨place, located, isLink⟩
  cases lies.symm.trans located
  cases isLink
  exact noLink

/-- `NamesNoLink` is kept when no way is opened. -/
theorem NamesNoLink.of_narrows (noLink : before.NamesNoLink path)
    (narrows : Narrows before after) : after.NamesNoLink path := by
  rintro link ⟨place, located, isLink⟩
  rw [narrows.target]
  rcases narrows.locate located with ⟨old, oldLocated, sameSpot⟩
  rcases place with ⟨folder, text, file⟩ | folder
  · rcases old with ⟨oldFolder, oldText, oldFile⟩ | oldFolder
    · simp only [Place.spot, Prod.mk.injEq, Option.some.injEq] at sameSpot
      rcases sameSpot with ⟨rfl, rfl⟩
      cases isLink
      rcases narrows.entry _ _ _ (child?_of_locate located) with kept | plain
      · rw [child?_of_locate oldLocated] at kept
        exact noLink link ⟨_, oldLocated, kept⟩
      · exact plain.2
    · simp [Place.spot] at sameSpot
  · rcases old with ⟨oldFolder, oldText, oldFile⟩ | oldFolder
    · simp [Place.spot] at sameSpot
    · simp only [Place.spot, Prod.mk.injEq, and_true] at sameSpot
      exact noLink link ⟨_, oldLocated, sameSpot ▸ isLink⟩

theorem LiesAt.sets_vacant (lies : before.LiesAt path directory name id) {child : Option FileId}
    (sets : Sets before after folder text child) (vacant : before.child? folder text = none) :
    after.LiesAt path directory name id := by
  refine lies.of_widens (sets.widens (by simp [vacant])) ?_
  rw [sets.entry_of_ne, lies.child?]
  rintro same
  cases same
  simp [lies.child?] at vacant

theorem LiesAt.sameEntries (lies : before.LiesAt path directory name id)
    (same : SameEntries before after) : after.LiesAt path directory name id :=
  lies.of_widens same.symm.narrows ((same.entry directory name).trans lies.child?)

/-- A path leads to its entry when `unlink` removes one that leads elsewhere and names no symbolic
link. -/
theorem LiesAt.unlink (lies : before.LiesAt path directory name id)
    (removed : before.unlink other now = .ok after)
    (elsewhere : before.LeadsWithin other (· ≠ (directory, some name)))
    (noLink : before.NamesNoLink other) : after.LiesAt path directory name id := by
  rcases unlink_spec removed with ⟨folder, text, file, located, noDirectory, sets, _, _⟩
  refine lies.of_widens (sets.widens ?_) ?_
  · rw [child?_of_locate located]
    rintro _ ⟨⟩
    exact ⟨noDirectory, noLink file ⟨_, located, rfl⟩⟩
  · rw [sets.entry_of_ne, lies.child?]
    rintro same
    cases same
    exact elsewhere _ located rfl

end LiesAt

end MailSpool.FileSystem

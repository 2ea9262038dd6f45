import MailSpool.Proofs.FileSystem.Lasting

/-!
# A file under another name

To link a file to a second path and then to remove the first one is to rename it. After that the
file has as many names as before, and it `ChangesOnly` the two entries: the entry at the first path
is gone, and the one at the second path names the file.
-/

namespace MailSpool

namespace FileSystem

/-- Every entry names what it named but for some of them, and no file that was there has another
content or other times, but for directories. -/
structure ChangesOnly (before after : FileSystem) (entries : FileId → String → Prop) : Prop
    extends SameKinds before after where
  entry : ∀ directory name, ¬entries directory name →
    after.child? directory name = before.child? directory name
  retains : Retains before after fun _ => False

namespace ChangesOnly

variable {before between after : FileSystem} {directory : FileId} {name : String}
  {child : Option FileId} {entries more : FileId → String → Prop}

theorem of_same (same : after = before) (entries : FileId → String → Prop) :
    ChangesOnly before after entries := by
  rw [same]
  exact ⟨(SameEntries.refl before).toSameKinds, fun _ _ _ => rfl, .refl before _⟩

theorem of_sets (sets : Sets before after directory name child)
    (retains : Retains before after fun _ => False) :
    ChangesOnly before after fun id text => (id, text) = (directory, name) :=
  ⟨sets.toSameKinds, fun _ _ different => sets.entry_of_ne different, retains⟩

theorem mono (changes : ChangesOnly before after entries)
    (implies : ∀ id text, entries id text → more id text) : ChangesOnly before after more where
  toSameKinds := changes.toSameKinds
  entry id text kept := changes.entry id text fun changed => kept (implies id text changed)
  retains := changes.retains

theorem trans (first : ChangesOnly before between entries)
    (second : ChangesOnly between after more) :
    ChangesOnly before after fun id text => entries id text ∨ more id text where
  toSameKinds := first.toSameKinds.trans second.toSameKinds
  entry id text kept := by
    rw [second.entry id text fun changed => kept (Or.inr changed)]
    exact first.entry id text fun changed => kept (Or.inl changed)
  retains := first.retains.trans second.retains

theorem restore
    (changes : ChangesOnly before after fun id text => entries id text ∨
      (id, text) = (directory, name))
    (same : after.child? directory name = before.child? directory name) :
    ChangesOnly before after entries where
  toSameKinds := changes.toSameKinds
  entry id text kept := by
    by_cases restored : (id, text) = (directory, name)
    · cases restored
      exact same
    · exact changes.entry id text (not_or.mpr ⟨kept, restored⟩)
  retains := changes.retains

end ChangesOnly

/-! ## How many names a file has -/

variable {files after : FileSystem} {path existing : String} {id other : FileId} {file : File}
  {now : Instant}

theorem file_changeLinks_self (isFile : files.file id = some file) (change : Nat → Nat) :
    (files.changeLinks id change).file id = some { file with links := change file.links } := by
  simp [changeLinks, isFile]

theorem file_changeLinks_of_ne (different : other ≠ id) (change : Nat → Nat) :
    (files.changeLinks id change).file other = files.file other := by
  unfold changeLinks
  split
  · exact file_put_of_ne files _ different
  · rfl

theorem file_of_link (linked : files.link existing path now = .ok after)
    (looked : files.lstat existing = .ok (id, file)) :
    after.file id = some { file with links := file.links + 1 } := by
  rcases find_eq_ok_iff.mp looked with ⟨_, _, _, isFile⟩
  unfold link at linked
  rw [looked] at linked
  rcases vacant : files.vacancy path with errno | ⟨directory, name⟩
  · simp [vacant] at linked
  simp only [vacant] at linked
  split at linked
  · simp at linked
  case isFalse plain =>
  cases linked
  refine file_changeLinks_self ?_ _
  rw [addEntry, file_changeEntries_of_plain _ _ _ _ ?_, isFile]
  rcases file with ⟨node, links, modified, accessed⟩
  cases node with
  | directory entries parent => simp [File.isDirectory] at plain
  | regular | link => simp [directory?, isFile]

theorem file_of_unlink (removed : files.unlink path now = .ok after) (leads : files.Leads path id)
    (isFile : files.file id = some file) :
    after.file id = some { file with links := file.links - 1 } := by
  unfold unlink at removed
  rcases located : files.locate false path with errno | ⟨directory, name, _ | found⟩ | directory
  · simp [located] at removed
  · simp [located] at removed
  · simp only [located] at removed
    split at removed
    · simp at removed
    case isFalse plain =>
    cases removed
    cases leads.eq_of_locate located
    refine file_changeLinks_self ?_ _
    rw [dropEntry, file_changeEntries_of_plain _ _ _ _ (by simpa using plain), isFile]
  · simp [located] at removed

theorem file_of_unlink_of_ne (removed : files.unlink path now = .ok after)
    (unnamed : ¬files.Names path other) (plain : files.directory? other = none) :
    after.file other = files.file other := by
  unfold unlink at removed
  rcases located : files.locate false path with errno | ⟨directory, name, _ | found⟩ | directory
  · simp [located] at removed
  · simp [located] at removed
  · simp only [located] at removed
    split at removed
    · simp at removed
    cases removed
    have different : other ≠ found := by
      rintro rfl
      exact unnamed ⟨_, located, rfl⟩
    rw [file_changeLinks_of_ne different, dropEntry, file_changeEntries_of_plain _ _ _ _ plain]
  · simp [located] at removed

/-! ## To link and to unlink -/

theorem LiesAt.of_leads {before : FileSystem} {directory : FileId} {name : String} {place : Place}
    (lies : before.LiesAt path directory name id) (narrows : Narrows before after)
    (leads : after.Leads path id) (located : after.locate false path = .ok place) :
    after.LiesAt path directory name id := by
  have spot := (lies.leadsWithin.of_narrows narrows) place located
  have isFile := leads place located
  rcases place with ⟨folder, text, child⟩ | folder
  · simp only [Place.spot, Prod.mk.injEq, Option.some.injEq] at spot
    rcases spot with ⟨rfl, rfl⟩
    obtain rfl : child = some id := isFile
    exact located
  · simp [Place.spot] at spot

/-- The file of an entry is given another name, at a path. -/
structure Renames (before after : FileSystem) (directory : FileId) (name path : String)
    (id : FileId) : Prop where
  gone : after.child? directory name = none
  entry : ∃ folder text, before.locate false path = .ok (.entry folder text none) ∧
    after.LiesAt path folder text id ∧ ChangesOnly before after fun parent entry =>
      (parent, entry) = (folder, text) ∨ (parent, entry) = (directory, name)
  file : after.file id = before.file id

/-- A file that lies at a path is renamed by a `link` to another path and an `unlink` of the first
one. -/
theorem exists_renames {linked : FileSystem} {first second : String} {directory : FileId}
    {name : String} {content : ByteArray} (lies : files.LiesAt first directory name id)
    (regular : files.node? id = some (.regular content))
    (made : files.link first second now = .ok linked) (later : Instant) :
    ∃ after, linked.unlink first later = .ok after ∧
      Renames files after directory name second id := by
  rcases link_spec made with ⟨folder, text, other, file, looked, located, sets, retains, _⟩
  obtain rfl : id = other := (lies.names.leads.find (plain_of_node? regular).2 looked).symm
  have vacant := child?_of_locate located
  have apart : (folder, text) ≠ (directory, name) := by
    intro same
    cases same
    simp [lies.child?] at vacant
  have stillLies : linked.LiesAt first directory name id := lies.sets_vacant sets vacant
  have isLinked : linked.LiesAt second folder text id := by
    rcases (resets_link made lies.names.leads regular).entry with ⟨_, _, place, isThere, _⟩
    cases located.symm.trans place
    exact isThere
  have plain := plain_of_node? (retains.node? regular not_false)
  obtain ⟨after, removed⟩ : ∃ after, linked.unlink first later = .ok after := by
    unfold unlink
    rw [stillLies]
    simp [plain.1]
  have elsewhere : linked.LeadsWithin first (· ≠ (folder, some text)) := by
    intro place reached spot
    rw [stillLies.leadsWithin place reached] at spot
    simp only [Prod.mk.injEq, Option.some.injEq] at spot
    exact apart (by rw [spot.1, spot.2])
  rcases stillLies.leadsWithin.entry_of_unlink removed with ⟨_, _, gone⟩
  have kept : Retains linked after fun _ => False := by
    rcases unlink_spec removed with ⟨_, _, _, _, _, _, retains, _⟩
    exact retains
  refine ⟨after, removed, gone.entry_self, ⟨folder, text, located,
    isLinked.unlink removed elsewhere (stillLies.namesNoLink plain.2), ?_⟩, ?_⟩
  · exact (ChangesOnly.of_sets sets retains).trans (.of_sets gone kept)
  · rcases find_eq_ok_iff.mp looked with ⟨_, _, _, isFile⟩
    rw [file_of_unlink removed stillLies.names.leads (file_of_link made looked), isFile]
    simp

end FileSystem

end MailSpool

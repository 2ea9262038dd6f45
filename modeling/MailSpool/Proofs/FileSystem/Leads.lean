import MailSpool.Proofs.FileSystem.Calls

/-!
# Files that paths lead to

A path `Leads` to a file when it names that file or nothing at all, because it leads nowhere. This
survives every call that does not take the entry away to which the path leads, and a call that makes
an entry never does: the entry was vacant before.
-/

namespace MailSpool

namespace FileSystem

/-- A path names a file, or it leads nowhere. -/
def Leads (files : FileSystem) (path : String) (file : FileId) : Prop :=
  ∀ place, files.locate false path = .ok place → place.file? = some file

theorem Leads.eq_of_locate {files : FileSystem} {path name : String}
    {file directory : FileId} {found : Option FileId} (leads : files.Leads path file)
    (located : files.locate false path = .ok (.entry directory name found)) :
    found = some file :=
  leads _ located

/-- `Leads` is kept when no way is opened and the entry is kept. -/
theorem Leads.of_narrows {before after : FileSystem} {path : String} {file : FileId}
    (leads : before.Leads path file) (narrows : Narrows before after)
    (kept : ∀ directory name, before.locate false path = .ok (.entry directory name (some file)) →
      after.child? directory name = some file) : after.Leads path file := by
  intro place located
  rcases narrows.locate located with ⟨old, oldLocated, spot⟩
  have oldFile := leads old oldLocated
  rcases place with ⟨folder, text, found⟩ | id
  · rcases old with ⟨oldFolder, oldText, oldFound⟩ | oldId
    · obtain ⟨rfl, rfl⟩ : oldFolder = folder ∧ oldText = text := by simpa [Place.spot] using spot
      rw [show oldFound = some file from oldFile] at oldLocated
      have still := kept oldFolder oldText oldLocated
      rw [child?_of_locate located] at still
      exact still
    · simp [Place.spot] at spot
  · rcases old with ⟨oldFolder, oldText, oldFound⟩ | oldId
    · simp [Place.spot] at spot
    · obtain rfl : oldId = id := by simpa [Place.spot] using spot
      exact oldFile

/-- A call that `Sets` another entry than the one a path leads to does not turn the path aside. -/
theorem Leads.sets {before after : FileSystem} {path name : String} {file directory : FileId}
    {child : Option FileId} (leads : before.Leads path file)
    (sets : Sets before after directory name child) (narrows : Narrows before after)
    (other : before.locate false path ≠ .ok (.entry directory name (some file))) :
    after.Leads path file := by
  refine leads.of_narrows narrows ?_
  intro folder text located
  have different : (folder, text) ≠ (directory, name) := by
    rintro ⟨rfl, rfl⟩
    exact other located
  rw [sets.entry_of_ne different]
  exact child?_of_locate located

theorem Leads.sameEntries {before after : FileSystem} {path : String} {file : FileId}
    (leads : before.Leads path file) (same : SameEntries before after) :
    after.Leads path file := by
  refine leads.of_narrows same.narrows ?_
  intro folder text located
  rw [same.entry]
  exact child?_of_locate located

theorem Leads.find_eq {files : FileSystem} {path : String} {file : FileId}
    (leads : files.Leads path file) (plain : files.target? file = none) (follow : Bool) :
    files.find follow path = files.find false path := by
  cases follow with
  | false => rfl
  | true =>
      have same : files.locate true path = files.locate false path := by
        apply locate_follow
        intro directory name child located
        have named : some child = some file := leads _ located
        cases named
        exact plain
      unfold find
      rw [same]

theorem Leads.find {files : FileSystem} {path : String} {file id : FileId} {found : File}
    {follow : Bool} (leads : files.Leads path file) (plain : files.target? file = none)
    (looked : files.find follow path = .ok (id, found)) : id = file := by
  rw [leads.find_eq plain, find_eq_ok_iff] at looked
  rcases looked with ⟨place, located, named, _⟩
  have same := leads place located
  rw [named] at same
  exact Option.some.inj same

def Names (files : FileSystem) (path : String) (file : FileId) : Prop :=
  ∃ place, files.locate false path = .ok place ∧ place.file? = some file

theorem Names.leads {files : FileSystem} {path : String} {file : FileId}
    (names : files.Names path file) : files.Leads path file := by
  rcases names with ⟨place, located, isFile⟩
  intro other otherLocated
  rw [located] at otherLocated
  cases otherLocated
  exact isFile

theorem Leads.eq_of_names {files : FileSystem} {path : String} {file other : FileId}
    (leads : files.Leads path file) (names : files.Names path other) : other = file := by
  rcases names with ⟨place, located, isOther⟩
  exact Option.some.inj (isOther.symm.trans (leads place located))

/-- When no way is opened, a path still leads to its file, or the file was taken away from it. -/
theorem Leads.kept_or_taken {before after : FileSystem} {path : String} {file : FileId}
    (leads : before.Leads path file) (narrows : Narrows before after) :
    after.Leads path file ∨ before.Names path file ∧ ¬after.Names path file := by
  by_cases kept : after.Leads path file
  · exact Or.inl kept
  refine Or.inr ⟨?_, fun names => kept names.leads⟩
  obtain ⟨place, located, _⟩ : ∃ place, after.locate false path = .ok place ∧
      place.file? ≠ some file := by
    simpa [Leads] using kept
  rcases narrows.locate located with ⟨old, oldLocated, _⟩
  exact ⟨old, oldLocated, leads old oldLocated⟩

/-- `Names` is kept when no way is closed and the entry is kept. -/
theorem Names.of_widens {before after : FileSystem} {path : String} {file : FileId}
    (names : before.Names path file) (widens : Narrows after before)
    (kept : ∀ directory name, before.locate false path = .ok (.entry directory name (some file)) →
      after.child? directory name = some file) : after.Names path file := by
  rcases names with ⟨place, located, isFile⟩
  rcases widens.locate located with ⟨new, newLocated, spot⟩
  refine ⟨new, newLocated, ?_⟩
  rcases place with ⟨folder, text, found⟩ | id
  · rcases new with ⟨newFolder, newText, newFound⟩ | newId
    · obtain ⟨rfl, rfl⟩ : newFolder = folder ∧ newText = text := by simpa [Place.spot] using spot
      cases (show found = some file from isFile)
      have still := kept newFolder newText located
      rw [child?_of_locate newLocated] at still
      exact still
    · simp [Place.spot] at spot
  · rcases new with ⟨newFolder, newText, newFound⟩ | newId
    · simp [Place.spot] at spot
    · obtain rfl : newId = id := by simpa [Place.spot] using spot
      exact isFile

theorem Names.sets {before after : FileSystem} {path name : String} {file directory : FileId}
    {child : Option FileId} (names : before.Names path file)
    (sets : Sets before after directory name child) (widens : Narrows after before)
    (other : before.locate false path ≠ .ok (.entry directory name (some file))) :
    after.Names path file := by
  refine names.of_widens widens ?_
  intro folder text located
  have different : (folder, text) ≠ (directory, name) := by
    rintro ⟨rfl, rfl⟩
    exact other located
  rw [sets.entry_of_ne different]
  exact child?_of_locate located

theorem Names.sameEntries {before after : FileSystem} {path : String} {file : FileId}
    (names : before.Names path file) (same : SameEntries before after) :
    after.Names path file := by
  refine names.of_widens same.symm.narrows ?_
  intro folder text located
  rw [same.entry]
  exact child?_of_locate located

theorem SameEntries.names_iff {before after : FileSystem} (same : SameEntries before after)
    {path : String} {file : FileId} : after.Names path file ↔ before.Names path file := by
  constructor
  · intro names
    exact names.sameEntries same.symm
  · intro names
    exact names.sameEntries same

/-- A path that ends as no directory does names a known file. -/
theorem Sound.isSome_of_names {files : FileSystem} (sound : files.Sound) {path : String}
    {file : FileId} {last : Char} (names : files.Names path file)
    (ends : path.toList.getLast? = some last) (noSlash : last ≠ '/') (noDot : last ≠ '.') :
    (files.file file).isSome := by
  rcases names with ⟨place, located, isFile⟩
  rcases entry_of_locate ends noSlash noDot located with ⟨directory, name, found, rfl⟩
  obtain rfl : found = some file := isFile
  exact sound.named directory name file (child?_of_locate located)

/-! ## Calls -/

variable {files after : FileSystem} {path other : String} {file : FileId} {now : Instant}

theorem Leads.sets_vacant {directory : FileId} {name : String} {child : Option FileId}
    (leads : files.Leads other file) (sets : Sets files after directory name child)
    (narrows : Narrows files after)
    (located : files.locate false path = .ok (.entry directory name none)) :
    after.Leads other file := by
  refine leads.sets sets narrows ?_
  intro otherLocated
  have occupied := child?_of_locate otherLocated
  rw [child?_of_locate located] at occupied
  simp at occupied

theorem Leads.create (leads : files.Leads other file) (sound : files.Sound) {id : FileId}
    (created : files.create path (.regular .empty) now = .ok (id, after)) :
    after.Leads other file := by
  rcases create_spec sound created with ⟨directory, name, located, _, _, sets, _, _⟩
  have evolves : Evolves files after fun _ => False := evolves_create sound created
  exact leads.sets_vacant sets evolves.narrows located

theorem leads_create (sound : files.Sound) {id : FileId}
    (created : files.create path (.regular .empty) now = .ok (id, after)) :
    after.Leads path id := by
  rcases create_spec sound created with ⟨directory, name, located, _, _, sets, _, _⟩
  have evolves : Evolves files after fun _ => False := evolves_create sound created
  intro place placeLocated
  rcases evolves.narrows.locate placeLocated with ⟨old, oldLocated, spot⟩
  rw [located] at oldLocated
  cases oldLocated
  rcases place with ⟨folder, text, found⟩ | id
  · obtain ⟨rfl, rfl⟩ : directory = folder ∧ name = text := by simpa [Place.spot] using spot
    rw [← child?_of_locate placeLocated, sets.entry_self]
    rfl
  · simp [Place.spot] at spot

theorem Leads.link {existing : String} (leads : files.Leads other file)
    (narrows : Narrows files after) (linked : files.link existing path now = .ok after) :
    after.Leads other file := by
  rcases link_spec linked with ⟨directory, name, id, found, _, located, sets, _, _⟩
  exact leads.sets_vacant sets narrows located

theorem Leads.unlink (leads : files.Leads other file)
    (removed : files.unlink path now = .ok after)
    (different : ∀ directory name,
      files.locate false path = .ok (.entry directory name (some file)) →
      files.locate false other ≠ .ok (.entry directory name (some file))) :
    after.Leads other file := by
  rcases unlink_spec removed with ⟨directory, name, id, located, _, sets, _, _⟩
  have evolves : Evolves files after fun _ => False := evolves_unlink removed
  refine leads.sets sets evolves.narrows ?_
  intro otherLocated
  have same := child?_of_locate otherLocated
  rw [child?_of_locate located] at same
  cases same
  exact different directory name located otherLocated

theorem Leads.unlink_of_getLast?_ne (leads : files.Leads other file)
    (removed : files.unlink path now = .ok after)
    (different : path.toList.getLast? ≠ other.toList.getLast?) : after.Leads other file := by
  refine leads.unlink removed ?_
  intro directory name located otherLocated
  apply different
  rw [← getLast?_name_of_locate located, ← getLast?_name_of_locate otherLocated]

theorem Leads.unlink_of_ne {id : FileId} (leads : files.Leads other file)
    (removed : files.unlink path now = .ok after) (otherLeads : files.Leads path id)
    (different : id ≠ file) : after.Leads other file := by
  refine leads.unlink removed ?_
  intro directory name located _
  apply different
  cases otherLeads.eq_of_locate located
  rfl

end FileSystem

end MailSpool

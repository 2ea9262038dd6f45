import MailSpool.Proofs.FileSystem.Leads

/-!
# One entry is reset

Making, linking and removing a file other than a directory or a symbolic link `Resets` one entry and
neither opens nor closes a way. So every path names what it named before, except for those paths
that lead to the entry.
-/

namespace MailSpool

namespace FileSystem

/-- The entry to which a path leads is given another file, and no way is opened or closed. -/
structure Resets (before after : FileSystem) (path : String) (old new : Option FileId) : Prop where
  entry : ∃ directory name, before.locate false path = .ok (.entry directory name old) ∧
    after.locate false path = .ok (.entry directory name new) ∧
    Sets before after directory name new ∧ Sets after before directory name old
  narrows : Narrows before after
  widens : Narrows after before

theorem Sets.symm {before after : FileSystem} {directory : FileId} {name : String}
    {child : Option FileId} (sets : Sets before after directory name child) :
    Sets after before directory name (before.child? directory name) where
  toSameKinds := sets.toSameKinds.symm
  entry id text := by
    split
    case isTrue same =>
      rw [same.1, same.2]
    case isFalse different =>
      rw [sets.entry, if_neg different]

theorem Resets.of_sets {before after : FileSystem} {path name : String} {directory : FileId}
    {old new : Option FileId} (located : before.locate false path = .ok (.entry directory name old))
    (sets : Sets before after directory name new) (narrows : Narrows before after)
    (widens : Narrows after before) : Resets before after path old new where
  entry := by
    rcases widens.locate located with ⟨place, stillLocated, spot⟩
    rcases place with ⟨folder, text, found⟩ | id
    · obtain ⟨rfl, rfl⟩ : folder = directory ∧ text = name := by simpa [Place.spot] using spot
      have isNew : found = new := by
        rw [← child?_of_locate stillLocated, sets.entry_self]
      refine ⟨folder, text, located, isNew ▸ stillLocated, sets, ?_⟩
      rw [← child?_of_locate located]
      exact sets.symm
    · simp [Place.spot] at spot
  narrows := narrows
  widens := widens

namespace Resets

variable {before after : FileSystem} {path other : String} {old new : Option FileId}
  {file : FileId}

theorem symm (resets : Resets before after path old new) : Resets after before path new old where
  entry := by
    rcases resets.entry with ⟨directory, name, located, stillLocated, sets, setsBack⟩
    exact ⟨directory, name, stillLocated, located, setsBack, sets⟩
  narrows := resets.widens
  widens := resets.narrows

theorem names_iff (resets : Resets before after path old new) :
    after.Names path file ↔ new = some file := by
  rcases resets.entry with ⟨directory, name, _, located, _, _⟩
  constructor
  · rintro ⟨place, placed, isFile⟩
    rw [located] at placed
    cases placed
    exact isFile
  · intro isFile
    exact ⟨_, located, isFile⟩

theorem names (resets : Resets before after path old new) (named : before.Names other file)
    (different : old ≠ some file) : after.Names other file := by
  rcases resets.entry with ⟨directory, name, located, _, sets, _⟩
  refine named.sets sets resets.widens ?_
  intro otherLocated
  have occupied := child?_of_locate otherLocated
  rw [child?_of_locate located] at occupied
  exact different occupied

theorem names_of_getLast?_ne (resets : Resets before after path old new)
    (different : path.toList.getLast? ≠ other.toList.getLast?)
    (named : before.Names other file) : after.Names other file := by
  rcases resets.entry with ⟨directory, name, located, _, sets, _⟩
  refine named.sets sets resets.widens ?_
  intro otherLocated
  apply different
  rw [← getLast?_name_of_locate located, ← getLast?_name_of_locate otherLocated]

theorem names_iff_of_getLast?_ne (resets : Resets before after path old new)
    (different : path.toList.getLast? ≠ other.toList.getLast?) :
    after.Names other file ↔ before.Names other file := by
  constructor
  · exact resets.symm.names_of_getLast?_ne different
  · exact resets.names_of_getLast?_ne different

end Resets

/-! ## Calls -/

variable {files after : FileSystem} {path : String} {now : Instant}

theorem resets_create (sound : files.Sound) {id : FileId}
    (created : files.create path (.regular .empty) now = .ok (id, after)) :
    Resets files after path none (some id) := by
  rcases create_spec sound created with ⟨directory, name, located, _, _, sets, _, _⟩
  have evolves : Evolves files after fun _ => False := evolves_create sound created
  refine .of_sets located sets evolves.narrows (sets.widens ?_)
  rw [child?_of_locate located]
  simp

theorem resets_link {existing : String} {id : FileId} {content : ByteArray}
    (linked : files.link existing path now = .ok after) (leads : files.Leads existing id)
    (regular : files.node? id = some (.regular content)) :
    Resets files after path none (some id) := by
  rcases link_spec linked with ⟨directory, name, other, found, looked, located, sets, _, _⟩
  obtain rfl := leads.find (plain_of_node? regular).2 looked
  refine .of_sets located sets (sets.narrows ?_) (sets.widens ?_)
  · rintro child ⟨⟩
    exact plain_of_node? regular
  · rw [child?_of_locate located]
    simp

theorem resets_unlink {id : FileId} {content : ByteArray}
    (removed : files.unlink path now = .ok after) (leads : files.Leads path id)
    (regular : files.node? id = some (.regular content)) :
    Resets files after path (some id) none := by
  rcases unlink_spec removed with ⟨directory, name, other, located, _, sets, _, _⟩
  cases leads.eq_of_locate located
  refine .of_sets located sets (sets.narrows (by simp)) (sets.widens ?_)
  rw [child?_of_locate located]
  rintro child ⟨⟩
  exact plain_of_node? regular

/-- `unlink` can remove a name of a file other than a directory, unless the path ends like that of a
directory. -/
theorem Names.exists_unlink {id : FileId} {content : ByteArray} {last : Char}
    (names : files.Names path id) (regular : files.node? id = some (.regular content))
    (ends : path.toList.getLast? = some last) (noSlash : last ≠ '/') (noDot : last ≠ '.')
    (now : Instant) : ∃ rest, files.unlink path now = .ok rest := by
  rcases names with ⟨place, located, isFile⟩
  rcases entry_of_locate ends noSlash noDot located with ⟨directory, name, found, rfl⟩
  obtain rfl : found = some id := isFile
  unfold unlink
  rw [located]
  simp [(plain_of_node? regular).1]

theorem Names.of_unlink {other : String} {id : FileId} (names : after.Names other id)
    (removed : files.unlink path now = .ok after) : files.Names other id := by
  rcases unlink_spec removed with ⟨_, _, _, _, _, sets, _, _⟩
  rcases names with ⟨place, located, ends⟩
  rcases (sets.narrows (by simp)).locate located with ⟨old, oldLocated, spot⟩
  refine ⟨old, oldLocated, ?_⟩
  rcases place with ⟨folder, text, found⟩ | folder
  · rcases old with ⟨oldFolder, oldText, oldFound⟩ | oldFolder
    · simp only [Place.spot, Prod.mk.injEq, Option.some.injEq] at spot
      rcases spot with ⟨rfl, rfl⟩
      cases ends
      have named := child?_of_locate located
      rw [sets.entry] at named
      split at named
      · simp at named
      · exact (child?_of_locate oldLocated).symm.trans named
    · simp [Place.spot] at spot
  · rcases old with ⟨oldFolder, oldText, oldFound⟩ | oldFolder
    · simp [Place.spot] at spot
    · simp only [Place.spot, Prod.mk.injEq, and_true] at spot
      rw [← ends, spot]

theorem isSome_file_of_unlink (removed : files.unlink path now = .ok after) (id : FileId) :
    (after.file id).isSome = (files.file id).isSome := by
  simp only [unlink] at removed
  split at removed
  · simp at removed
  · simp at removed
  · simp at removed
  · split at removed
    · simp at removed
    · cases removed
      rw [isSome_file_changeLinks, dropEntry, isSome_file_changeEntries]

end FileSystem

end MailSpool

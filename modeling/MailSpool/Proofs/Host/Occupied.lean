import MailSpool.Proofs.FileSystem.Inherits

/-!
# Paths that are taken

A path is taken, `isOccupied`, when it leads to a file or to a directory. To give a file such a path
fails with the number that tells so, and with this number it fails for no other reason: following a
path never gives it. A name that was removed leaves its path vacant.
-/

namespace MailSpool

open FileSystem

namespace FileSystem

/-- Whether a path leads to a file or to a directory. -/
def isOccupied (files : FileSystem) (path : String) : Bool :=
  match files.locate false path with
  | .ok place => place.file?.isSome
  | .error _ => false

theorem walkWith_error {files : FileSystem} {follow : Bool}
    {expand : FileId → List Component → Except Errno Place}
    (expandError : ∀ start rest, expand start rest ≠ .error .alreadyExists) :
    ∀ (components : List Component) (current : FileId),
      files.walkWith expand follow current components ≠ .error .alreadyExists := by
  intro components
  induction components with
  | nil => simp [walkWith]
  | cons component rest ih =>
      intro current
      unfold walkWith
      split
      · exact fun same => absurd (Except.error.inj same) (by decide)
      · cases component with
        | here => exact ih current
        | up => exact ih _
        | name name =>
            dsimp only
            split
            · exact fun same => absurd (Except.error.inj same) (by decide)
            split
            · split
              · simp
              · exact fun same => absurd (Except.error.inj same) (by decide)
            split
            · simp
            split
            · exact expandError _ _
            split
            · simp
            · exact ih _

theorem walk_error {files : FileSystem} {follow : Bool} {limit : Nat} {current : FileId}
    {components : List Component} :
    files.walk follow limit current components ≠ .error .alreadyExists := by
  induction limit generalizing current components with
  | zero =>
      apply walkWith_error
      exact fun _ _ same => absurd (Except.error.inj same) (by decide)
  | succ limit ih => exact walkWith_error (fun _ _ => ih) components current

theorem locate_error {files : FileSystem} {follow : Bool} {path : String} :
    files.locate follow path ≠ .error .alreadyExists := by
  unfold locate
  split
  · exact fun same => absurd (Except.error.inj same) (by decide)
  split
  · exact fun same => absurd (Except.error.inj same) (by decide)
  · exact walk_error

theorem LiesAt.isOccupied {files : FileSystem} {path : String} {directory : FileId} {name : String}
    {id : FileId} (lies : files.LiesAt path directory name id) : files.isOccupied path = true := by
  unfold FileSystem.isOccupied
  rw [lies]
  rfl

theorem find_error {files : FileSystem} {follow : Bool} {path : String} :
    files.find follow path ≠ .error .alreadyExists := by
  intro failed
  simp only [find] at failed
  split at failed
  case h_1 errno located =>
    cases failed
    exact locate_error located
  case h_2 =>
    split at failed
    · exact absurd (Except.error.inj failed) (by decide)
    · split at failed
      · exact absurd (Except.error.inj failed) (by decide)
      · simp at failed

/-- `link` fails with `alreadyExists` only where `isOccupied` holds. -/
theorem isOccupied_of_link {files : FileSystem} {existing path : String} {now : Instant}
    (refused : files.link existing path now = .error .alreadyExists) :
    files.isOccupied path = true := by
  unfold link at refused
  rcases looked : files.lstat existing with errno | ⟨id, file⟩
  · simp only [looked, Except.error.injEq] at refused
    exact absurd (refused ▸ looked) find_error
  · simp only [looked] at refused
    rcases located : files.locate false path with errno | ⟨directory, name, _ | found⟩ | directory
    · simp only [vacancy, located, Except.error.injEq] at refused
      rw [refused] at located
      exact absurd located locate_error
    · simp only [vacancy, located] at refused
      split at refused
      · exact absurd (Except.error.inj refused) (by decide)
      · simp at refused
    · simp [isOccupied, located, Place.file?]
    · simp [isOccupied, located, Place.file?]

theorem vacancy_eq_error {files : FileSystem} {path : String} {id : FileId}
    (names : files.Names path id) : files.vacancy path = .error .alreadyExists := by
  rcases names with ⟨place, located, ends⟩
  unfold vacancy
  rw [located]
  cases place with
  | entry directory name file =>
      cases ends
      rfl
  | directory id => rfl

theorem not_isOccupied_of_unlink {files after : FileSystem} {path : String} {now : Instant}
    (removed : files.unlink path now = .ok after) : after.isOccupied path = false := by
  rcases unlink_spec removed with ⟨directory, name, id, located, _, sets, _, _⟩
  unfold isOccupied
  split
  case h_2 => rfl
  case h_1 place stillLocated =>
    rcases (sets.narrows (by simp)).locate stillLocated with ⟨old, oldLocated, spot⟩
    rw [located] at oldLocated
    cases oldLocated
    rcases place with ⟨folder, text, found⟩ | other
    · obtain ⟨rfl, rfl⟩ : directory = folder ∧ name = text := by simpa [Place.spot] using spot
      have vacant := child?_of_locate stillLocated
      rw [sets.entry_self] at vacant
      rw [← vacant]
      rfl
    · simp [Place.spot] at spot

end FileSystem

theorem Errno.kind_eq_alreadyExists_iff {errno : Errno} :
    errno.kind = .alreadyExists ↔ errno = .alreadyExists := by
  constructor
  · intro isKind
    unfold kind at isKind
    split at isKind
    · simp at isKind
    split at isKind
    · simp at isKind
    split at isKind
    · simp at isKind
    split at isKind
    case isTrue same => exact same
    case isFalse => simp at isKind
  · rintro rfl
    decide

namespace Host

/-- A path can be given to a call, and leads to an entry that names nothing. -/
def IsVacant (host : Host) (path : String) : Prop :=
  IsWritable path ∧
    ∃ directory name, host.files.locate false path = .ok (.entry directory name none)

variable {host : Host} {path : String}

theorem isOccupied_of_link_error {existing : String} {error : IoError}
    (refused : host.link existing path = .error error) (kind : error.kind = .alreadyExists) :
    host.files.isOccupied path = true := by
  unfold link calling at refused
  split at refused
  · cases refused
    simp [IoError.kind] at kind
  · rcases result : host.files.link existing path host.now with errno | files
    · simp only [result, Except.map, Except.mapError, Except.error.injEq] at refused
      rw [← refused] at kind
      rw [Errno.kind_eq_alreadyExists_iff.mp kind] at result
      exact isOccupied_of_link result
    · simp [result, Except.map, Except.mapError] at refused

/-- `unlink` removes the name of a file that `named?` finds, or it is that of a directory. -/
theorem kind_of_unlink_error {error : IoError} {id : FileId} (named : host.named? path = some id)
    (refused : host.unlink path = .error error) : error.kind ≠ .notFound := by
  rcases named?_eq_some_iff_names.mp named with ⟨writable, ⟨place, located, ends⟩, _⟩
  have called : calling [path] (host.files.unlink path host.now) = .error error := by
    unfold unlink at refused
    rcases result : calling [path] (host.files.unlink path host.now) with other | files
    · simp only [result, Except.map, Except.error.injEq] at refused
      rw [refused]
    · simp [result, Except.map] at refused
  have isDirectory : host.files.unlink path host.now = .error .isDirectory := by
    have result : ∀ files, host.files.unlink path host.now ≠ .ok files := by
      intro files removed
      rw [calling_eq_ok_iff.mpr ⟨writable, removed⟩] at called
      simp at called
    unfold FileSystem.unlink at result ⊢
    rw [located] at result ⊢
    rcases place with ⟨directory, name, found⟩ | directory
    · cases ends
      dsimp only at result ⊢
      split
      · rfl
      case isFalse plain =>
        rw [if_neg plain] at result
        exact absurd rfl (result _)
    · rfl
  rw [isDirectory] at called
  unfold calling at called
  split at called
  · cases called
    simp [IoError.kind]
  · cases called
    decide

theorem link_eq_error {existing : String} {id other : FileId} {made found : File}
    (writable : IsWritable existing) (here : host.lstat existing = .ok (id, made))
    (taken : host.lstat path = .ok (other, found)) :
    host.link existing path = .error (.system .alreadyExists) := by
  rcases lstat_eq_ok_iff.mp taken with ⟨pathWritable, isFound⟩
  rcases find_eq_ok_iff.mp isFound with ⟨place, located, ends, _⟩
  have refused : host.files.link existing path host.now = .error .alreadyExists := by
    unfold FileSystem.link FileSystem.lstat
    rw [(lstat_eq_ok_iff.mp here).2]
    simp only [vacancy_eq_error ⟨place, located, ends⟩]
  unfold IsWritable at writable pathWritable
  unfold Host.link calling
  rw [refused]
  simp only [List.any_cons, List.any_nil, writable, pathWritable, Bool.or_self, Bool.false_eq_true,
    if_false]
  rfl

theorem exists_stat_of_names {id : FileId} (writable : IsWritable path)
    (names : host.files.Names path id) (plain : host.files.target? id = none)
    (known : (host.files.file id).isSome) : ∃ found, host.stat path = .ok (id, found) := by
  rcases Option.isSome_iff_exists.mp known with ⟨found, isFound⟩
  refine ⟨found, ?_⟩
  rw [stat_eq_ok_iff, names.leads.find_eq plain, find_eq_ok_iff]
  rcases names with ⟨place, located, ends⟩
  exact ⟨writable, place, located, ends, isFound⟩

theorem exists_create_of_isVacant (vacant : host.IsVacant path) :
    ∃ id created, host.create path = .ok (id, created) := by
  rcases vacant with ⟨writable, directory, name, located⟩
  have made : host.files.create path (.regular .empty) host.now =
      .ok (host.files.make directory name (.regular .empty) host.now) := by
    unfold FileSystem.create
    rw [vacancy_eq_ok_iff.mpr located]
    rfl
  unfold Host.create
  rw [calling_eq_ok_iff.mpr ⟨writable, made⟩]
  exact ⟨_, _, rfl⟩

theorem exists_unlink_of_liesAt {directory : FileId} {name : String} {id : FileId}
    (writable : IsWritable path) (lies : host.files.LiesAt path directory name id)
    (plain : host.files.directory? id = none) : ∃ rest, host.unlink path = .ok rest := by
  obtain ⟨files, removed⟩ : ∃ files, host.files.unlink path host.now = .ok files := by
    unfold FileSystem.unlink
    rw [show host.files.locate false path = .ok (.entry directory name (some id)) from lies]
    simp [plain]
  refine ⟨host.withFiles files, ?_⟩
  unfold unlink
  rw [calling_eq_ok_iff.mpr ⟨writable, removed⟩]
  rfl

theorem named?_eq_none_of_unlink {removed : Host} (unlinked : host.unlink path = .ok removed) :
    removed.named? path = none := by
  have free := not_isOccupied_of_unlink (unlink_eq_ok unlinked).1
  refine Option.eq_none_iff_forall_ne_some.mpr fun id named => ?_
  rcases (named?_eq_some_iff_names.mp named).2.1 with ⟨place, placed, ends⟩
  simp [isOccupied, placed, ends] at free

theorem isSome_named?_of_stat {found : FileId × File} (looked : host.stat path = .ok found) :
    (host.named? path).isSome := by
  rcases stat_eq_ok_iff.mp looked with ⟨writable, isFound⟩
  rcases find_eq_ok_iff.mp isFound with ⟨place, located, ends, known⟩
  by_contra unnamed
  have nothing : ∀ id, host.files.Names path id → host.files.file id = none := by
    intro id names
    by_contra isFile
    have named : host.named? path = some id :=
      named?_eq_some_iff_names.mpr ⟨writable, names, Option.isSome_iff_ne_none.mpr isFile⟩
    simp [named] at unnamed
  have sameWay : host.files.locate true path = host.files.locate false path := by
    apply locate_follow
    intro directory name child childLocated
    exact (plain_of_file_eq_none (nothing child ⟨_, childLocated, rfl⟩)).2
  have unknown := nothing found.1 ⟨place, sameWay ▸ located, ends⟩
  simp [unknown] at known

theorem eq_of_stat {id other : FileId} {content : ByteArray} {found : File}
    (named : host.named? path = some id)
    (regular : host.files.node? id = some (.regular content))
    (looked : host.stat path = .ok (other, found)) : other = id :=
  (leads_of_named? named).find (plain_of_node? regular).2 (stat_eq_ok_iff.mp looked).2

theorem isSome_named?_of_link_error {existing : String} {error : IoError}
    (refused : host.link existing path = .error error) (kind : error.kind = .alreadyExists) :
    (host.named? existing).isSome := by
  simp only [link, calling] at refused
  split at refused
  case isTrue =>
    cases refused
    simp [IoError.kind] at kind
  case isFalse writable =>
    rcases result : host.files.link existing path host.now with errno | files
    · simp only [result, Except.map, Except.mapError, Except.error.injEq] at refused
      rw [← refused] at kind
      rw [Errno.kind_eq_alreadyExists_iff.mp kind] at result
      rcases looked : host.files.lstat existing with failure | found
      · simp only [FileSystem.link, looked, Except.error.injEq] at result
        exact absurd (result ▸ looked) find_error
      · have here : host.lstat existing = .ok found := by
          refine lstat_eq_ok_iff.mpr ⟨?_, looked⟩
          simp only [List.any_cons, Bool.or_eq_true, not_or, Bool.not_eq_true] at writable
          exact writable.1
        simp [named?, here, Except.toOption]
    · simp [result, Except.map, Except.mapError] at refused

theorem named?_existing_of_link {existing : String} {after : Host} {id : FileId}
    {content : ByteArray} (linked : host.link existing path = .ok after)
    (named : host.named? existing = some id)
    (regular : host.files.node? id = some (.regular content)) :
    after.named? existing = some id ∧ after.files.node? id = some (.regular content) := by
  rcases named?_eq_some_iff_names.mp named with ⟨writable, names, known⟩
  have made := (link_eq_ok linked).1
  have resets := resets_link made names.leads regular
  rcases link_spec made with ⟨_, _, _, _, _, _, _, retains, _⟩
  have still := retains.node? regular not_false
  refine ⟨named?_eq_some_iff_names.mpr ⟨writable, resets.names names (by simp), ?_⟩, still⟩
  rw [← isSome_node?, still]
  rfl

theorem named?_of_leads {existing : String} {after : Host} {id : FileId} {content : ByteArray}
    (linked : host.link existing path = .ok after) (leads : host.files.Leads existing id)
    (regular : host.files.node? id = some (.regular content)) :
    host.named? existing = some id := by
  rcases link_eq_ok linked with ⟨made, _, writable, _⟩
  rcases link_spec made with ⟨_, _, other, file, looked, _⟩
  obtain rfl := leads.find (plain_of_node? regular).2 looked
  exact named?_eq_some_iff.mpr ⟨file, lstat_eq_ok_iff.mpr ⟨writable, looked⟩⟩

/-- `link` does not fail with `alreadyExists` where `named?` finds nothing. -/
theorem kind_of_link_error {existing : String} {error : IoError} {last : Char}
    (sound : host.files.Sound) (ends : path.toList.getLast? = some last) (noSlash : last ≠ '/')
    (noDot : last ≠ '.') (unnamed : host.named? path = none)
    (refused : host.link existing path = .error error) : error.kind ≠ .alreadyExists := by
  intro kind
  have occupied := isOccupied_of_link_error refused kind
  have writable : IsWritable path := by
    simp only [link, calling] at refused
    split at refused
    case isTrue =>
      cases refused
      simp [IoError.kind] at kind
    case isFalse writable =>
      simp only [List.any_cons, List.any_nil, Bool.or_false, Bool.or_eq_true, not_or,
        Bool.not_eq_true] at writable
      exact writable.2
  simp only [isOccupied] at occupied
  split at occupied
  case h_1 place located =>
    rcases Option.isSome_iff_exists.mp occupied with ⟨id, isFile⟩
    have names : host.files.Names path id := ⟨place, located, isFile⟩
    have known := sound.isSome_of_names names ends noSlash noDot
    rw [named?_eq_some_iff_names.mpr ⟨writable, names, known⟩] at unnamed
    simp at unnamed
  case h_2 => simp at occupied

theorem named?_of_link {existing : String} {after : Host} {id : FileId} {content : ByteArray}
    (linked : host.link existing path = .ok after) (named : host.named? existing = some id)
    (regular : host.files.node? id = some (.regular content)) : after.named? path = some id := by
  rcases link_eq_ok linked with ⟨made, _, _, writable⟩
  have resets := resets_link made (leads_of_named? named) regular
  refine named?_eq_some_iff_names.mpr ⟨writable, resets.names_iff.mpr rfl, ?_⟩
  rw [← isSome_node?, (named?_existing_of_link linked named regular).2]
  rfl

end Host

end MailSpool

import MailSpool.Host.Files
import MailSpool.Proofs.FileSystem.Resets

/-!
# Calls of a host

A call of a host reaches its files unless a path holds a NUL character, and carries the time of
the host.
-/

namespace MailSpool

theorem map_eq_ok_iff {Error Value Result : Type} {result : Except Error Value}
    {change : Value → Result} {value : Result} :
    result.map change = .ok value ↔ ∃ found, result = .ok found ∧ change found = value := by
  cases result <;> simp [Except.map]

namespace Host

@[simp]
theorem files_withFiles (host : Host) (files : FileSystem) : (host.withFiles files).files = files :=
  rfl

@[simp]
theorem files_tell (host : Host) (id : ProcessId) (notice : Notice) :
    (host.tell id notice).files = host.files :=
  rfl

/-- Whether a path can be given to a call. -/
def IsWritable (path : String) : Prop :=
  path.toList.contains '\x00' = false

theorem calling_eq_ok_iff {Value : Type} {path : String} {result : Except Errno Value}
    {value : Value} :
    calling [path] result = .ok value ↔ IsWritable path ∧ result = .ok value := by
  unfold calling IsWritable
  simp only [List.any_cons, List.any_nil, Bool.or_false]
  rcases path.toList.contains '\x00' with _ | _
  · cases result with
    | error errno => simp [Except.mapError]
    | ok found => simp [Except.mapError]
  · simp

theorem lstat_eq_ok_iff {host : Host} {path : String} {id : FileId} {file : File} :
    host.lstat path = .ok (id, file) ↔
      IsWritable path ∧ host.files.find false path = .ok (id, file) :=
  calling_eq_ok_iff

theorem stat_eq_ok_iff {host : Host} {path : String} {id : FileId} {file : File} :
    host.stat path = .ok (id, file) ↔
      IsWritable path ∧ host.files.find true path = .ok (id, file) :=
  calling_eq_ok_iff

def named? (host : Host) (path : String) : Option FileId :=
  (host.lstat path).toOption.map Prod.fst

theorem named?_eq_some_iff {host : Host} {path : String} {id : FileId} :
    host.named? path = some id ↔ ∃ file, host.lstat path = .ok (id, file) := by
  unfold named?
  rcases host.lstat path with error | ⟨other, file⟩
  · simp [Except.toOption]
  · simp [Except.toOption]

/-- `named?` finds a file when the path can be given to a call and `Names` the file. -/
theorem named?_eq_some_iff_names {host : Host} {path : String} {id : FileId} :
    host.named? path = some id ↔
      IsWritable path ∧ host.files.Names path id ∧ (host.files.file id).isSome := by
  simp only [named?_eq_some_iff, lstat_eq_ok_iff, FileSystem.find_eq_ok_iff]
  constructor
  · rintro ⟨file, writable, place, located, isFile, found⟩
    exact ⟨writable, ⟨place, located, isFile⟩, by simp [found]⟩
  · rintro ⟨writable, ⟨place, located, isFile⟩, known⟩
    rcases Option.isSome_iff_exists.mp known with ⟨file, found⟩
    exact ⟨file, writable, place, located, isFile, found⟩

theorem lstat_congr {host after : Host} (files : after.files = host.files) (path : String) :
    after.lstat path = host.lstat path := by
  unfold lstat
  rw [files]

theorem named?_congr {host after : Host} (files : after.files = host.files) (path : String) :
    after.named? path = host.named? path := by
  unfold named?
  rw [lstat_congr files]

theorem read_fst_congr {host after : Host} (files : after.files = host.files)
    (process reader : ProcessId) (path : String) :
    (after.read reader path).1 = (host.read process path).1 := by
  unfold Host.read
  rw [files]
  split <;> rfl

theorem leads_of_named? {host : Host} {path : String} {id : FileId}
    (named : host.named? path = some id) : host.files.Leads path id :=
  (named?_eq_some_iff_names.mp named).2.1.leads

theorem exists_stat {host : Host} {path : String} {id : FileId} {content : ByteArray}
    (writable : IsWritable path) (names : host.files.Names path id)
    (regular : host.files.node? id = some (.regular content)) :
    ∃ file, host.stat path = .ok (id, file) ∧ file.node = .regular content := by
  rcases Option.map_eq_some_iff.mp regular with ⟨file, found, holds⟩
  refine ⟨file, ?_, holds⟩
  rcases names with ⟨place, located, isFile⟩
  have leads : host.files.Leads path id := FileSystem.Names.leads ⟨place, located, isFile⟩
  rw [stat_eq_ok_iff, leads.find_eq (FileSystem.plain_of_node? regular).2,
    FileSystem.find_eq_ok_iff]
  exact ⟨writable, place, located, isFile, found⟩

/-- To `read` a path that leads to a file gives the whole content of it. -/
theorem read_of_stat {host : Host} {path : String} {id : FileId} {file : File}
    {content : ByteArray} (looked : host.stat path = .ok (id, file))
    (regular : file.node = .regular content) (process : ProcessId) :
    (host.read process path).1 = .ok content := by
  have called : calling [path] (host.files.stat path) = .ok (id, file) := looked
  simp [read, called, regular]

theorem read_of_names {host : Host} {path : String} {id : FileId} {content : ByteArray}
    (writable : IsWritable path) (names : host.files.Names path id)
    (regular : host.files.node? id = some (.regular content)) (process : ProcessId) :
    (host.read process path).1 = .ok content := by
  rcases exists_stat writable names regular with ⟨file, looked, holds⟩
  exact read_of_stat looked holds process

/-- What can be read is the content of a file that the path names, perhaps by a symbolic link. -/
theorem exists_names_of_read {host : Host} {path : String} {content : ByteArray}
    {process : ProcessId} (read : (host.read process path).1 = .ok content) :
    IsWritable path ∧ ∃ id, host.files.Names path id := by
  unfold Host.read at read
  split at read
  · simp at read
  case h_2 found file called =>
    rcases calling_eq_ok_iff.mp called with ⟨writable, looked⟩
    refine ⟨writable, ?_⟩
    by_contra unnamed
    have same : host.files.locate true path = host.files.locate false path := by
      apply FileSystem.locate_follow
      intro directory name child located
      exact absurd ⟨child, _, located, rfl⟩ unnamed
    rcases FileSystem.find_eq_ok_iff.mp looked with ⟨place, located, isFile, _⟩
    exact unnamed ⟨found, place, same ▸ located, isFile⟩

/-! ## The calls -/

variable {host after : Host} {path : String}

theorem create_eq_ok {id : FileId} (created : host.create path = .ok (id, after)) :
    host.files.create path (.regular .empty) host.now = .ok (id, after.files) ∧
      after = host.withFiles after.files := by
  unfold create at created
  rcases map_eq_ok_iff.mp created with ⟨⟨made, files⟩, called, same⟩
  cases same
  exact ⟨(calling_eq_ok_iff.mp called).2, rfl⟩

theorem isWritable_of_create {id : FileId} (created : host.create path = .ok (id, after)) :
    IsWritable path := by
  unfold create at created
  rcases map_eq_ok_iff.mp created with ⟨made, called, _⟩
  exact (calling_eq_ok_iff.mp called).1

theorem fill_eq_ok {id : FileId} {content : ByteArray} (filled : host.fill id content = .ok after) :
    after = host.withFiles (host.files.setContent id content host.now) := by
  unfold fill at filled
  split at filled
  · simp at filled
  · cases filled
    rfl

theorem node?_of_fill {id : FileId} {old content : ByteArray}
    (filled : host.fill id content = .ok after)
    (regular : host.files.node? id = some (.regular old)) :
    after.files.node? id = some (.regular content) := by
  rcases Option.map_eq_some_iff.mp regular with ⟨file, found, holds⟩
  rw [fill_eq_ok filled, files_withFiles, FileSystem.node?,
    FileSystem.file_setContent_self found holds]
  rfl

theorem unlink_eq_ok (removed : host.unlink path = .ok after) :
    host.files.unlink path host.now = .ok after.files ∧ after = host.withFiles after.files := by
  unfold unlink at removed
  rcases map_eq_ok_iff.mp removed with ⟨files, called, rfl⟩
  exact ⟨(calling_eq_ok_iff.mp called).2, rfl⟩

theorem exists_unlink {id : FileId} {content : ByteArray} {last : Char} (writable : IsWritable path)
    (names : host.files.Names path id)
    (regular : host.files.node? id = some (.regular content))
    (ends : path.toList.getLast? = some last) (noSlash : last ≠ '/') (noDot : last ≠ '.') :
    ∃ rest, host.unlink path = .ok rest := by
  rcases names.exists_unlink regular ends noSlash noDot host.now with ⟨files, removed⟩
  have called : calling [path] (host.files.unlink path host.now) = .ok files :=
    calling_eq_ok_iff.mpr ⟨writable, removed⟩
  refine ⟨host.withFiles files, ?_⟩
  unfold unlink
  rw [called]
  rfl

/-- The files without the name that a path leads to; all of them if it cannot be removed. -/
def remaining (host : Host) (path : String) : FileSystem :=
  ((host.unlink path).toOption.getD host).files

theorem remaining_cases (host : Host) (path : String) :
    host.remaining path = host.files ∨
      host.files.unlink path host.now = .ok (host.remaining path) := by
  unfold remaining
  rcases removed : host.unlink path with error | rest
  · exact Or.inl rfl
  · exact Or.inr (unlink_eq_ok removed).1

theorem retains_remaining (host : Host) (path : String) (excepted : FileId → Prop) :
    FileSystem.Retains host.files (host.remaining path) excepted := by
  rcases host.remaining_cases path with same | removed
  · rw [same]
    exact .refl host.files excepted
  · rcases FileSystem.unlink_spec removed with ⟨_, _, _, _, _, _, retains, _⟩
    refine ⟨retains.next, ?_⟩
    exact fun id known plain _ => retains.traits id known plain (by simp)

theorem remaining_of_unlink (removed : host.unlink path = .ok after) :
    host.remaining path = after.files := by
  unfold remaining
  rw [removed]
  rfl

theorem link_eq_ok {existing : String} (linked : host.link existing path = .ok after) :
    host.files.link existing path host.now = .ok after.files ∧
      after = host.withFiles after.files ∧ IsWritable existing ∧ IsWritable path := by
  unfold link calling at linked
  split at linked
  · simp [Except.map] at linked
  case isFalse writable =>
  rcases result : host.files.link existing path host.now with errno | files
  · simp [result, Except.map, Except.mapError] at linked
  · simp only [result, Except.map, Except.mapError, Except.ok.injEq] at linked
    subst linked
    simp only [List.any_cons, List.any_nil, Bool.or_false, Bool.or_eq_true, not_or,
      Bool.not_eq_true] at writable
    exact ⟨rfl, rfl, writable.1, writable.2⟩

theorem touch_eq_ok (touched : host.touch path = .ok after) :
    host.files.touch path host.now = .ok after.files ∧ after = host.withFiles after.files := by
  unfold touch at touched
  split at touched
  · simp at touched
  · rcases result : host.files.touch path host.now with errno | files
    · simp [result] at touched
    · simp only [result, Except.ok.injEq] at touched
      subst touched
      exact ⟨rfl, rfl⟩

theorem exists_touch {id : FileId} {file : File} (looked : host.stat path = .ok (id, file)) :
    ∃ touched, host.touch path = .ok touched := by
  rcases stat_eq_ok_iff.mp looked with ⟨writable, found⟩
  simp only [IsWritable] at writable
  simp only [touch, writable, Bool.false_eq_true, if_false, FileSystem.touch, FileSystem.change,
    found, Except.map]
  exact ⟨_, rfl⟩

end Host

end MailSpool

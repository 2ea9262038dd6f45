import MailSpool.Proofs.FileSystem.Lasting
import MailSpool.Proofs.Host.Occupied

/-!
# One file more

A temporary file is made, written and removed again, and so is a lock, in several calls. Until it is
removed, what there is are the old files and one more, under a name that was vacant: `Beside`. Its
removal leaves `SameContents` in all directories.
-/

namespace MailSpool

namespace FileSystem

/-- Every entry names what it named. -/
def KeepsNames (before after : FileSystem) : Prop :=
  ∀ directory name id, before.child? directory name = some id →
    after.child? directory name = some id

/-- What directories contain is as it was: the entries, and the kind, the content and the times of
every file. -/
structure SameContents (before after : FileSystem) : Prop extends SameEntries before after where
  retains : Retains before after fun _ => False

/-- The files are old ones and one more with a content, to whose only name a path leads: it `Resets`
the entry there. -/
structure Beside (base files : FileSystem) (path : String) (own : FileId) : Prop where
  resets : Resets base files path none (some own)
  retains : Retains base files fun _ => False
  sound : files.Sound
  isNew : base.file own = none
  regular : ∃ content, files.node? own = some (.regular content)

variable {base before between files after : FileSystem} {path : String} {own id : FileId}
  {now : Instant}

theorem Retains.mono {less more : FileId → Prop} (retains : Retains before after less)
    (implies : ∀ id, less id → more id) : Retains before after more where
  next := retains.next
  traits id known plain kept := retains.traits id known plain fun isLess => kept (implies id isLess)

theorem Retains.trans_new (first : Retains before between fun _ => False)
    (second : Retains between after (· = own)) (kinds : SameKinds before between)
    (isNew : before.file own = none) : Retains before after fun _ => False where
  next := Nat.le_trans first.next second.next
  traits id known plain kept := by
    have different : id ≠ own := by
      rintro rfl
      simp [isNew] at known
    have stillPlain : between.directory? id = none := (kinds.directory?_eq_none_iff id).mpr plain
    rw [second.traits id (first.isSome known plain kept) stillPlain different]
    exact first.traits id known plain kept

/-! ## Same contents -/

namespace SameContents

theorem refl (files : FileSystem) : SameContents files files where
  toSameEntries := .refl files
  retains := .refl files _

end SameContents

/-- A path leads to a file as long as it is there and no entry loses its file, by `KeepsNames`. -/
theorem KeepsNames.locate (keeps : KeepsNames before after) (kinds : SameKinds before after)
    {follow : Bool} {place : Place} (known : (after.file id).isSome)
    (located : before.locate follow path = .ok place) (ends : place.file? = some id) :
    after.locate follow path = .ok place :=
  locate_of_old kinds.symm (fun directory name id named _ => keeps directory name id named) known
    located ends

/-- A file with a content that is found at a path is still found there, with the traits that it
had. -/
theorem KeepsNames.find (keeps : KeepsNames before after) (kinds : SameKinds before after)
    (retains : Retains before after fun _ => False) {follow : Bool} {found : File}
    {content : ByteArray} (looked : before.find follow path = .ok (id, found))
    (regular : found.node = .regular content) :
    ∃ later, after.find follow path = .ok (id, later) ∧ later.traits = found.traits := by
  rcases find_eq_ok_iff.mp looked with ⟨place, located, ends, isFile⟩
  have isRegular : before.node? id = some (.regular content) := by
    simp [node?, isFile, regular]
  have kept := retains.traits id (by simp [isFile]) (plain_of_node? isRegular).1 (by simp)
  rw [isFile] at kept
  rcases stillFile : after.file id with _ | later
  · simp [stillFile] at kept
  have stillLocated := keeps.locate kinds (by simp [stillFile]) located ends
  exact ⟨later, find_eq_ok_iff.mpr ⟨place, stillLocated, ends, stillFile⟩, by
    simpa [stillFile] using kept⟩

/-! ## The file and its removal -/

theorem beside_create (sound : base.Sound)
    (created : base.create path (.regular .empty) now = .ok (own, files)) :
    Beside base files path own := by
  rcases create_spec sound created with ⟨_, _, _, isNew, found, _, retains, stillSound⟩
  exact ⟨resets_create sound created, retains, stillSound, isNew, .empty, by
    simp [node?, found, File.made]⟩

namespace Beside

theorem names (beside : Beside base files path own) : files.Names path own :=
  beside.resets.names_iff.mpr rfl

theorem keepsNames (beside : Beside base files path own) : KeepsNames base files := by
  intro directory name id named
  rcases beside.resets.entry with ⟨folder, text, located, _, sets, _⟩
  rw [sets.entry_of_ne, named]
  rintro ⟨rfl, rfl⟩
  rw [child?_of_locate located] at named
  simp at named

theorem sameEntries (beside : Beside base files path own) (same : SameEntries files after)
    (retains : Retains files after (· = own)) (sound : files.Sound → after.Sound)
    (regular : ∃ content, after.node? own = some (.regular content)) :
    Beside base after path own where
  resets := by
    rcases beside.resets.entry with ⟨directory, name, located, _, sets, _⟩
    refine .of_sets located ⟨sets.toSameKinds.trans same.toSameKinds, fun id text => ?_⟩
      (beside.resets.narrows.trans same.narrows) (same.symm.narrows.trans beside.resets.widens)
    rw [same.entry, sets.entry]
  retains := beside.retains.trans_new retains beside.resets.narrows.toSameKinds beside.isNew
  sound := sound beside.sound
  isNew := beside.isNew
  regular := regular

theorem setContent (beside : Beside base files path own) (content : ByteArray) (now : Instant) :
    Beside base (files.setContent own content now) path own := by
  rcases setContent_spec files own content now with ⟨same, retains, sound⟩
  refine beside.sameEntries same retains sound ⟨content, ?_⟩
  rcases beside.regular with ⟨old, regular⟩
  rcases found : files.file own with _ | file
  · simp [node?, found] at regular
  · have isOld : file.node = .regular old := by simpa [node?, found] using regular
    simp [node?, file_setContent_self found isOld]

theorem unlink (beside : Beside base files path own)
    (removed : files.unlink path now = .ok after) : SameContents base after := by
  rcases beside.regular with ⟨content, regular⟩
  rcases beside.resets.entry with ⟨directory, name, located, stillLocated, sets, _⟩
  rcases unlink_spec removed with ⟨folder, text, found, removedAt, _, setsNone, retains, _⟩
  rw [stillLocated] at removedAt
  cases removedAt
  refine ⟨⟨sets.toSameKinds.trans setsNone.toSameKinds, fun id text => ?_⟩,
    beside.retains.trans_new (retains.mono (by simp)) sets.toSameKinds beside.isNew⟩
  rw [setsNone.entry, sets.entry]
  split
  case isTrue same =>
    rw [same.1, same.2, child?_of_locate located]
  case isFalse => rfl

theorem touch (beside : Beside base files path own) {other : String}
    (touched : files.touch other now = .ok after)
    (leads : ∀ id found, files.stat other = .ok (id, found) → id = own) :
    Beside base after path own := by
  rcases beside.regular with ⟨content, regular⟩
  rcases touch_spec touched with ⟨id, file, looked, isFile, same, retains, sound⟩
  obtain rfl := leads id file looked
  rcases find_eq_ok_iff.mp looked with ⟨_, _, _, wasFile⟩
  refine beside.sameEntries same retains sound ⟨content, ?_⟩
  simpa [node?, isFile, wasFile] using regular

end Beside

end FileSystem

open FileSystem

namespace Host

theorem read_of_keepsNames {before after : Host} {path : String} {process reader : ProcessId}
    {content : ByteArray} (keeps : before.files.KeepsNames after.files)
    (kinds : before.files.SameKinds after.files)
    (retains : before.files.Retains after.files fun _ => False)
    (read : (before.read process path).1 = .ok content) :
    (after.read reader path).1 = .ok content := by
  unfold Host.read at read ⊢
  split at read
  · simp at read
  case h_2 id file looked =>
  rcases calling_eq_ok_iff.mp looked with ⟨writable, found⟩
  have regular : file.node = .regular content := by
    dsimp only at read
    split at read
    case h_1 text isRegular =>
      cases read
      exact isRegular
    case h_2 => simp at read
  rcases keeps.find kinds retains found regular with ⟨later, stillFound, same⟩
  simp only [File.traits, Prod.mk.injEq] at same
  rw [calling_eq_ok_iff.mpr ⟨writable, show after.files.stat path = _ from stillFound⟩]
  simp [same.1, regular]

end Host

/-- The files are those at the start and one more, at a path that can be given to a call. -/
structure OneMore (start host : Host) (path : String) (own : FileId) : Prop where
  beside : Beside start.files host.files path own
  writable : Host.IsWritable path

namespace OneMore

variable {start host after : Host} {path other : String} {own file : FileId} {found : File}
  {content : ByteArray}

theorem of_files (more : OneMore start host path own) (same : after.files = host.files) :
    OneMore start after path own :=
  ⟨same ▸ more.beside, more.writable⟩

theorem exists_lstat (more : OneMore start host path own) :
    ∃ made text, host.lstat path = .ok (own, made) ∧ made.node = .regular text := by
  rcases more.beside.regular with ⟨text, regular⟩
  rcases more.beside.names with ⟨place, located, ends⟩
  rcases isFile : host.files.file own with _ | made
  · simp [node?, isFile] at regular
  · exact ⟨made, text, Host.lstat_eq_ok_iff.mpr ⟨more.writable,
      find_eq_ok_iff.mpr ⟨place, located, ends, isFile⟩⟩, by simpa [node?, isFile] using regular⟩

theorem of_sameContents (more : OneMore start host path own)
    (same : SameContents host.files after.files) (sound : after.files.Sound) :
    OneMore start after path own := by
  rcases more.beside.regular with ⟨text, regular⟩
  exact ⟨more.beside.sameEntries same.toSameEntries (same.retains.mono (by simp)) (fun _ => sound)
    ⟨text, same.retains.node? regular (by simp)⟩, more.writable⟩

theorem exists_lstat_other (more : OneMore start host path own)
    (looked : start.lstat other = .ok (file, found)) (regular : found.node = .regular content) :
    file ≠ own ∧ ∃ later, host.lstat other = .ok (file, later) ∧ later.traits = found.traits := by
  rcases Host.lstat_eq_ok_iff.mp looked with ⟨writable, isFound⟩
  have beside := more.beside
  have kinds := beside.resets.narrows.toSameKinds
  rcases beside.keepsNames.find kinds beside.retains isFound regular with ⟨later, stillFound, same⟩
  refine ⟨?_, later, Host.lstat_eq_ok_iff.mpr ⟨writable, stillFound⟩, same⟩
  rintro rfl
  rcases find_eq_ok_iff.mp isFound with ⟨_, _, _, isFile⟩
  simp [beside.isNew] at isFile

theorem eq_of_stat (more : OneMore start host path own)
    (looked : host.stat path = .ok (file, found)) : file = own := by
  rcases more.beside.regular with ⟨text, regular⟩
  exact more.beside.names.leads.find (plain_of_node? regular).2 (Host.stat_eq_ok_iff.mp looked).2

/-- The one more file of `OneMore` can be removed, and then there are the `SameContents` as at the
start. -/
theorem sameContents_remaining (more : OneMore start host path own) :
    SameContents start.files (host.remaining path) := by
  rcases more.beside.resets.entry with ⟨directory, name, _, located, _, _⟩
  rcases more.beside.regular with ⟨text, regular⟩
  rcases Host.exists_unlink_of_liesAt more.writable located (plain_of_node? regular).1 with
    ⟨rest, removed⟩
  rw [Host.remaining_of_unlink removed]
  exact more.beside.unlink (Host.unlink_eq_ok removed).1

/-- `OneMore` is kept by a `RefreshTask` that is done at the path of the one more file. -/
theorem run_task (more : OneMore start host path own) (process : ProcessId) :
    OneMore start (RefreshTask.run { process := process, path := path } host) path own := by
  unfold RefreshTask.run
  rcases touched : host.touch path with failure | after
  · exact more.of_files rfl
  · refine ⟨more.beside.touch (Host.touch_eq_ok touched).1 fun id found looked => ?_, more.writable⟩
    exact more.eq_of_stat (Host.stat_eq_ok_iff.mpr ⟨more.writable, looked⟩)

end OneMore

end MailSpool

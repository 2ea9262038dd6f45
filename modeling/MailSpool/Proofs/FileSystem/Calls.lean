import MailSpool.Proofs.FileSystem.Ways

/-!
# What single calls on files do

One statement for each call that a locker makes: making an empty file, giving a file a second name,
removing a name, writing a file, touching one. Each tells which entry of which directory the call
`Sets` and what it `Retains`. That no number of a file is used twice, `Sound`, is an invariant of
all of them, and holds of the file system with nothing in it.
-/

namespace MailSpool.FileSystem

/-- A number that was not given out is that of no file, and an entry names a file. -/
structure Sound (files : FileSystem) : Prop where
  unused : ∀ id, files.next ≤ id.number → files.file id = none
  named : ∀ directory name id, files.child? directory name = some id → (files.file id).isSome

/-- A call sets one entry, or takes it away, and changes no other entry and no kind of file. -/
structure Sets (before after : FileSystem) (directory : FileId) (name : String)
    (child : Option FileId) : Prop extends SameKinds before after where
  entry : ∀ id text, after.child? id text =
    if id = directory ∧ text = name then child else before.child? id text

/-- A call changes no entry and no kind of file. -/
structure SameEntries (before after : FileSystem) : Prop extends SameKinds before after where
  entry : ∀ id text, after.child? id text = before.child? id text

/-- A call takes no number back, and keeps the traits of every file, but for directories and
excepted files. -/
structure Retains (before after : FileSystem) (excepted : FileId → Prop) : Prop where
  next : before.next ≤ after.next
  traits : ∀ id, (before.file id).isSome → before.directory? id = none → ¬excepted id →
    (after.file id).map File.traits = (before.file id).map File.traits

namespace Sets

variable {before after : FileSystem} {directory : FileId} {name : String} {child : Option FileId}

theorem entry_self (sets : Sets before after directory name child) :
    after.child? directory name = child := by
  rw [sets.entry, if_pos ⟨rfl, rfl⟩]

theorem entry_of_ne (sets : Sets before after directory name child) {id : FileId} {text : String}
    (different : (id, text) ≠ (directory, name)) :
    after.child? id text = before.child? id text := by
  rw [sets.entry, if_neg]
  rintro ⟨rfl, rfl⟩
  exact different rfl

theorem narrows (sets : Sets before after directory name child)
    (plain : ∀ id, child = some id → before.directory? id = none ∧ before.target? id = none) :
    Narrows before after where
  toSameKinds := sets.toSameKinds
  entry id text child named := by
    rw [sets.entry] at named
    split at named
    · exact Or.inr (plain child named)
    · exact Or.inl named

theorem widens (sets : Sets before after directory name child)
    (plain : ∀ id, before.child? directory name = some id →
      before.directory? id = none ∧ before.target? id = none) :
    Narrows after before where
  toSameKinds := sets.toSameKinds.symm
  entry id text child named := by
    by_cases changed : (id, text) = (directory, name)
    · cases changed
      rcases plain child named with ⟨noDirectory, noLink⟩
      exact Or.inr ⟨(sets.directory?_eq_none_iff child).mpr noDirectory,
        (sets.target child).trans noLink⟩
    · exact Or.inl ((sets.entry_of_ne changed).trans named)

end Sets

namespace SameEntries

variable {before after : FileSystem}

theorem refl (files : FileSystem) : SameEntries files files where
  working := rfl
  parent _ := rfl
  target _ := rfl
  entry _ _ := rfl

theorem symm (same : SameEntries before after) : SameEntries after before where
  toSameKinds := same.toSameKinds.symm
  entry id text := (same.entry id text).symm

theorem narrows (same : SameEntries before after) : Narrows before after where
  toSameKinds := same.toSameKinds
  entry id text _ named := Or.inl ((same.entry id text).symm.trans named)

theorem of_kinds (working : after.working = before.working)
    (directory : ∀ id, after.directory? id = before.directory? id)
    (target : ∀ id, after.target? id = before.target? id) : SameEntries before after where
  working := working
  parent id := by rw [directory]
  target := target
  entry id text := by simp only [child?, directory]

end SameEntries

theorem Retains.refl (files : FileSystem) (excepted : FileId → Prop) :
    Retains files files excepted where
  next := Nat.le_refl _
  traits _ _ _ _ := rfl

theorem Retains.isSome {before after : FileSystem} {excepted : FileId → Prop}
    (retains : Retains before after excepted) {id : FileId} (known : (before.file id).isSome)
    (plain : before.directory? id = none) (kept : ¬excepted id) : (after.file id).isSome := by
  have same := congrArg Option.isSome (retains.traits id known plain kept)
  rw [Option.isSome_map, Option.isSome_map] at same
  exact same.trans known

theorem Retains.trans {before between after : FileSystem} {excepted : FileId → Prop}
    (first : Retains before between excepted) (second : Retains between after excepted) :
    Retains before after excepted where
  next := Nat.le_trans first.next second.next
  traits id known plain kept := by
    have same := first.traits id known plain kept
    have stillKnown := first.isSome known plain kept
    have stillPlain : between.directory? id = none := by
      have nodes := congrArg (Option.map Prod.fst) same
      rw [Option.map_map, Option.map_map] at nodes
      rw [directory?_congr nodes]
      exact plain
    exact (second.traits id stillKnown stillPlain kept).trans same

theorem Retains.node? {before after : FileSystem} {excepted : FileId → Prop}
    (retains : Retains before after excepted) {id : FileId} {content : ByteArray}
    (regular : before.node? id = some (.regular content)) (kept : ¬excepted id) :
    after.node? id = some (.regular content) := by
  have known : (before.file id).isSome := by
    rcases found : before.file id with _ | file
    · simp [FileSystem.node?, found] at regular
    · rfl
  have traits := congrArg (Option.map Prod.fst)
    (retains.traits id known (plain_of_node? regular).1 kept)
  rw [Option.map_map, Option.map_map] at traits
  exact traits.trans regular

theorem sound_empty (now : Instant) : (FileSystem.empty now).Sound where
  unused id beyond := by
    have different : id ≠ root := by
      rintro rfl
      simp [FileSystem.empty, root] at beyond
    simp [FileSystem.empty, different]
  named directory name id found := by
    by_cases isRoot : directory = root
    · simp [child?, directory?, FileSystem.empty, isRoot, File.made] at found
    · simp [child?, directory?, FileSystem.empty, isRoot] at found

/-! ## Soundness of the primitive changes -/

theorem Sound.fresh {files : FileSystem} (sound : files.Sound) : files.file ⟨files.next⟩ = none :=
  sound.unused _ (Nat.le_refl _)

/-- Files are `Sound` when no more of them are known and no more entries are there than before. -/
theorem Sound.of_same {before after : FileSystem} (sound : before.Sound)
    (next : after.next = before.next)
    (known : ∀ id, (after.file id).isSome = (before.file id).isSome)
    (entry : ∀ directory name id, after.child? directory name = some id →
      (before.file id).isSome) : after.Sound where
  unused id beyond := by
    have unknown := known id
    rw [sound.unused id (next ▸ beyond)] at unknown
    simpa using unknown
  named directory name id found := by
    rw [known]
    exact entry directory name id found

theorem Sound.addEntry {files : FileSystem} (sound : files.Sound) {directory id : FileId}
    {name : String} (now : Instant) (isDirectory : (files.directory? directory).isSome)
    (vacant : files.child? directory name = none) (known : (files.file id).isSome) :
    (files.addEntry directory name id now).Sound := by
  refine sound.of_same (next_changeEntries ..) (isSome_file_changeEntries _ _ _ _) ?_
  intro other text child found
  rw [child?_addEntry isDirectory vacant] at found
  split at found
  · cases found
    exact known
  · exact sound.named other text child found

theorem Sound.dropEntry {files : FileSystem} (sound : files.Sound) (directory : FileId)
    (name : String) (now : Instant) : (files.dropEntry directory name now).Sound := by
  refine sound.of_same (next_changeEntries ..) (isSome_file_changeEntries _ _ _ _) ?_
  intro other text child found
  rw [child?_dropEntry] at found
  split at found
  · simp at found
  · exact sound.named other text child found

theorem Sound.changeLinks {files : FileSystem} (sound : files.Sound) (id : FileId)
    (change : Nat → Nat) : (files.changeLinks id change).Sound := by
  refine sound.of_same (next_changeLinks ..) (isSome_file_changeLinks _ _ _) ?_
  intro other text child found
  rw [child?_changeLinks] at found
  exact sound.named other text child found

/-! ## Vacant and occupied entries -/

theorem vacancy_eq_ok_iff {files : FileSystem} {path : String} {directory : FileId}
    {name : String} :
    files.vacancy path = .ok (directory, name) ↔
      files.locate false path = .ok (.entry directory name none) := by
  unfold vacancy
  rcases files.locate false path with errno | ⟨folder, text, _ | id⟩ | id
  · simp
  · simp
  · simp
  · simp

theorem find_eq_ok_iff {files : FileSystem} {follow : Bool} {path : String} {id : FileId}
    {file : File} :
    files.find follow path = .ok (id, file) ↔
      ∃ place, files.locate follow path = .ok place ∧ place.file? = some id ∧
        files.file id = some file := by
  unfold find
  rcases located : files.locate follow path with errno | place
  · simp
  · rcases target : place.file? with _ | other
    · simp [target]
    · rcases found : files.file other with _ | kept
      · simp only [target, found, reduceCtorEq, false_iff]
        rintro ⟨same, ⟨⟩, named, present⟩
        simp_all
      · simp only [target, found]
        constructor
        · rintro ⟨⟩
          exact ⟨place, rfl, target, found⟩
        · rintro ⟨same, ⟨⟩, named, present⟩
          simp_all

/-! ## A new file -/

/-- Files with one more that no entry names yet. -/
def enroll (files : FileSystem) (node : Node) (now : Instant) : FileSystem :=
  { files.put ⟨files.next⟩ (.made node 1 now) with next := files.next + 1 }

theorem make_eq (files : FileSystem) (directory : FileId) (name : String) (node : Node)
    (now : Instant) :
    files.make directory name node now =
      (⟨files.next⟩, (files.enroll node now).addEntry directory name ⟨files.next⟩ now) :=
  rfl

theorem file_enroll_of_ne (files : FileSystem) (node : Node) (now : Instant) {id : FileId}
    (different : id ≠ ⟨files.next⟩) : (files.enroll node now).file id = files.file id :=
  file_put_of_ne files _ different

theorem target?_enroll {files : FileSystem} (sound : files.Sound) (content : ByteArray)
    (now : Instant) (id : FileId) :
    (files.enroll (.regular content) now).target? id = files.target? id := by
  by_cases same : id = ⟨files.next⟩
  · rw [same, (plain_of_file_eq_none sound.fresh).2]
    simp [target?, enroll, put, File.made]
  · simp [target?, file_enroll_of_ne files _ now same]

section Enroll

variable {files : FileSystem} (sound : files.Sound) {node : Node}
  (plain : ∀ entries parent, node ≠ .directory entries parent) (now : Instant)
include sound plain

theorem directory?_enroll (id : FileId) :
    (files.enroll node now).directory? id = files.directory? id := by
  by_cases same : id = ⟨files.next⟩
  · rw [same, (plain_of_file_eq_none sound.fresh).1]
    cases node with
    | directory entries parent => exact absurd rfl (plain entries parent)
    | regular | link => simp [directory?, enroll, put, File.made]
  · simp [directory?, file_enroll_of_ne files _ now same]

theorem child?_enroll (directory : FileId) (name : String) :
    (files.enroll node now).child? directory name = files.child? directory name := by
  simp only [child?, directory?_enroll sound plain now]

theorem sound_enroll : (files.enroll node now).Sound where
  unused id beyond := by
    have later : files.next + 1 ≤ id.number := beyond
    have different : id ≠ ⟨files.next⟩ := by
      rintro rfl
      exact absurd later (by simp)
    rw [file_enroll_of_ne files _ now different]
    exact sound.unused id (by omega)
  named directory name id found := by
    rw [child?_enroll sound plain] at found
    have known := sound.named directory name id found
    have different : id ≠ ⟨files.next⟩ := by
      rintro rfl
      simp [sound.fresh] at known
    rwa [file_enroll_of_ne files _ now different]

end Enroll

theorem Sound.make_plain {files : FileSystem} (sound : files.Sound) {directory : FileId}
    {name : String} {node : Node} (plain : ∀ entries parent, node ≠ .directory entries parent)
    (now : Instant) (isDirectory : (files.directory? directory).isSome)
    (vacant : files.child? directory name = none) :
    (files.make directory name node now).2.Sound := by
  rw [make_eq]
  refine (sound_enroll sound plain now).addEntry now ?_ ?_ ?_
  · rwa [directory?_enroll sound plain]
  · rwa [child?_enroll sound plain]
  · simp [enroll]

theorem Sound.make {files : FileSystem} (sound : files.Sound) {directory : FileId} {name : String}
    (content : ByteArray) (now : Instant) (isDirectory : (files.directory? directory).isSome)
    (vacant : files.child? directory name = none) :
    (files.make directory name (.regular content) now).2.Sound :=
  sound.make_plain (by simp) now isDirectory vacant

/-! ## The calls -/

variable {files after : FileSystem} {path : String} {now : Instant}

/-- `make` gives a file with a content to an entry that named nothing, by `Sets`. -/
theorem make_spec (sound : files.Sound) {directory id : FileId} {name : String}
    {content : ByteArray} (isDirectory : (files.directory? directory).isSome)
    (absent : files.child? directory name = none)
    (made : files.make directory name (.regular content) now = (id, after)) :
    files.file id = none ∧ after.file id = some (.made (.regular content) 1 now) ∧
      Sets files after directory name (some id) ∧ Retains files after (fun _ => False) ∧
      after.Sound := by
  have stillSound := sound.make content now isDirectory absent
  rw [made] at stillSound
  rw [make_eq, Prod.mk.injEq] at made
  rcases made with ⟨rfl, rfl⟩
  have plain : ∀ entries parent, Node.regular content ≠ .directory entries parent := by simp
  have enrolledDirectory := directory?_enroll sound plain now
  have enrolledTarget := target?_enroll sound content now
  have enrolledEntry := child?_enroll sound plain now
  have stillDirectory : ((files.enroll (.regular content) now).directory? directory).isSome := by
    rwa [enrolledDirectory]
  have stillAbsent : (files.enroll (.regular content) now).child? directory name = none := by
    rwa [enrolledEntry]
  have newFile : (files.enroll (.regular content) now).file ⟨files.next⟩ =
      some (.made (.regular content) 1 now) := file_put_self files _ _
  refine ⟨sound.fresh, ?_, ?_, ?_, stillSound⟩
  · have noDirectory := (plain_of_file_eq_none sound.fresh).1
    rw [addEntry, file_changeEntries_of_plain _ _ _ _ (by rwa [enrolledDirectory]), newFile]
  · refine { working := ?_, parent := ?_, target := ?_, entry := ?_ }
    · exact working_changeEntries ..
    · intro id
      rw [addEntry, parent_changeEntries, enrolledDirectory]
    · intro id
      rw [addEntry, target?_changeEntries, enrolledTarget]
    · intro id text
      rw [child?_addEntry stillDirectory stillAbsent, enrolledEntry]
  · refine { next := ?_, traits := ?_ }
    · rw [addEntry, next_changeEntries]
      exact Nat.le_succ _
    · intro id known plain _
      have different : id ≠ ⟨files.next⟩ := by
        rintro rfl
        simp [sound.fresh] at known
      rw [addEntry, file_changeEntries_of_plain _ _ _ _ (by rwa [enrolledDirectory]),
        file_enroll_of_ne files _ now different]

/-- `create` gives a new file with no content to an entry that named nothing, by `Sets`. -/
theorem create_spec (sound : files.Sound) {id : FileId}
    (created : files.create path (.regular .empty) now = .ok (id, after)) :
    ∃ directory name, files.locate false path = .ok (.entry directory name none) ∧
      files.file id = none ∧ after.file id = some (.made (.regular .empty) 1 now) ∧
      Sets files after directory name (some id) ∧ Retains files after (fun _ => False) ∧
      after.Sound := by
  unfold create at created
  rcases vacant : files.vacancy path with errno | ⟨directory, name⟩
  · simp [vacant, Except.map] at created
  have located := vacancy_eq_ok_iff.mp vacant
  rcases locate_fits located with ⟨isDirectory, absent⟩
  simp only [vacant, Except.map, Except.ok.injEq] at created
  exact ⟨directory, name, located, make_spec sound isDirectory absent created⟩

/-- `link` gives a file to a further entry, which named nothing, by `Sets`. -/
theorem link_spec {existing : String} (linked : files.link existing path now = .ok after) :
    ∃ directory name id file, files.lstat existing = .ok (id, file) ∧
      files.locate false path = .ok (.entry directory name none) ∧
      Sets files after directory name (some id) ∧ Retains files after (fun _ => False) ∧
      (files.Sound → after.Sound) := by
  unfold link at linked
  rcases looked : files.lstat existing with errno | ⟨id, file⟩
  · simp [looked] at linked
  rcases vacant : files.vacancy path with errno | ⟨directory, name⟩
  · simp [looked, vacant] at linked
  have located := vacancy_eq_ok_iff.mp vacant
  rcases locate_fits located with ⟨isDirectory, absent⟩
  simp only [looked, vacant] at linked
  split at linked
  · simp at linked
  cases linked
  refine ⟨directory, name, id, file, rfl, located, ?_, ?_, ?_⟩
  · refine { working := ?_, parent := ?_, target := ?_, entry := ?_ }
    · simp [addEntry]
    · intro other
      rw [directory?_changeLinks, addEntry, parent_changeEntries]
    · intro other
      rw [target?_changeLinks, addEntry, target?_changeEntries]
    · intro other text
      rw [child?_changeLinks, child?_addEntry isDirectory absent]
  · refine { next := ?_, traits := ?_ }
    · simp [addEntry]
    · intro other known plain _
      rw [file_changeLinks, addEntry, file_changeEntries_of_plain _ _ _ _ plain]
  · intro sound
    rcases find_eq_ok_iff.mp looked with ⟨place, _, _, found⟩
    exact (sound.addEntry now isDirectory absent (by simp [found])).changeLinks id _

/-- `unlink` leaves an entry nothing that named a file other than a directory, by `Sets`. -/
theorem unlink_spec (removed : files.unlink path now = .ok after) :
    ∃ directory name id, files.locate false path = .ok (.entry directory name (some id)) ∧
      files.directory? id = none ∧ Sets files after directory name none ∧
      Retains files after (fun _ => False) ∧ (files.Sound → after.Sound) := by
  unfold unlink at removed
  rcases located : files.locate false path with errno | ⟨directory, name, _ | id⟩ | id
  · simp [located] at removed
  · simp [located] at removed
  · simp only [located] at removed
    split at removed
    · simp at removed
    case isFalse noDirectory =>
    cases removed
    refine ⟨directory, name, id, rfl, by simpa using noDirectory, ?_, ?_, ?_⟩
    · refine { working := ?_, parent := ?_, target := ?_, entry := ?_ }
      · simp [dropEntry]
      · intro other
        rw [directory?_changeLinks, dropEntry, parent_changeEntries]
      · intro other
        rw [target?_changeLinks, dropEntry, target?_changeEntries]
      · intro other text
        rw [child?_changeLinks, child?_dropEntry]
    · refine { next := ?_, traits := ?_ }
      · simp [dropEntry]
      · intro other known plain _
        rw [file_changeLinks, dropEntry, file_changeEntries_of_plain _ _ _ _ plain]
    · intro sound
      exact (sound.dropEntry directory name now).changeLinks id _
  · simp [located] at removed

/-- `put` with a file of the same kind has the `SameEntries`, and `Retains` all other files. -/
theorem put_spec {files : FileSystem} {id : FileId} {old new : File}
    (found : files.file id = some old) (listing : new.node.listing? = old.node.listing?)
    (aim : new.node.aim? = old.node.aim?) :
    SameEntries files (files.put id new) ∧ Retains files (files.put id new) (· = id) ∧
      (files.Sound → (files.put id new).Sound) := by
  have sameDirectory : ∀ other, (files.put id new).directory? other = files.directory? other := by
    intro other
    by_cases same : other = id
    · simp [directory?_eq_bind_node?, node?, same, found, listing]
    · exact directory?_put_of_ne files new same
  have sameTarget : ∀ other, (files.put id new).target? other = files.target? other := by
    intro other
    by_cases same : other = id
    · simp [target?_eq_bind_node?, node?, same, found, aim]
    · exact target?_put_of_ne files new same
  have sameEntries : SameEntries files (files.put id new) := .of_kinds rfl sameDirectory sameTarget
  refine ⟨sameEntries, ⟨Nat.le_refl _, ?_⟩, ?_⟩
  · intro other _ _ different
    rw [file_put_of_ne files new different]
  · intro sound
    refine sound.of_same rfl ?_ ?_
    · intro other
      by_cases same : other = id
      · simp [same, found]
      · rw [file_put_of_ne files new same]
    · intro directory name child named
      rw [sameEntries.entry] at named
      exact sound.named directory name child named

/-- `setContent` has the `SameEntries`, and `Retains` all other files. -/
theorem setContent_spec (files : FileSystem) (id : FileId) (content : ByteArray) (now : Instant) :
    SameEntries files (files.setContent id content now) ∧
      Retains files (files.setContent id content now) (· = id) ∧
      (files.Sound → (files.setContent id content now).Sound) := by
  unfold setContent
  split
  case h_1 found => exact put_spec found rfl rfl
  case h_2 => exact ⟨.refl files, .refl files _, fun sound => sound⟩

theorem file_setContent_self {files : FileSystem} {id : FileId} {file : File} {old : ByteArray}
    (found : files.file id = some file) (regular : file.node = .regular old)
    (content : ByteArray) (now : Instant) :
    (files.setContent id content now).file id =
      some { file with node := .regular content, modified := now } := by
  rcases file with ⟨node, links, modified, accessed⟩
  cases regular
  unfold setContent
  rw [found]
  exact file_put_self files _ _

/-- `touch` has the `SameEntries`, and `Retains` all files but the one that the path leads to. -/
theorem touch_spec (touched : files.touch path now = .ok after) :
    ∃ id file, files.stat path = .ok (id, file) ∧
      after.file id = some { file with modified := now, accessed := now } ∧
      SameEntries files after ∧ Retains files after (· = id) ∧
      (files.Sound → after.Sound) := by
  unfold touch change at touched
  rcases looked : files.find true path with errno | ⟨id, file⟩
  · simp [looked, Except.map] at touched
  simp only [looked, Except.map, Except.ok.injEq] at touched
  rcases find_eq_ok_iff.mp looked with ⟨place, _, _, found⟩
  subst touched
  exact ⟨id, file, looked, file_put_self files _ _, put_spec found rfl rfl⟩

/-! ## What all calls have in common -/

/-- A change that opens no way, and keeps what files hold but those that are written. -/
structure Evolves (before after : FileSystem) (written : FileId → Prop) : Prop where
  narrows : Narrows before after
  sound : before.Sound → after.Sound
  node : ∀ id content, before.node? id = some (.regular content) → ¬written id →
    after.node? id = some (.regular content)

theorem Evolves.refl (files : FileSystem) (written : FileId → Prop) :
    Evolves files files written where
  narrows := .refl files
  sound sound := sound
  node _ _ regular _ := regular

theorem Evolves.trans {before between after : FileSystem} {written : FileId → Prop}
    (first : Evolves before between written) (second : Evolves between after written) :
    Evolves before after written where
  narrows := first.narrows.trans second.narrows
  sound sound := second.sound (first.sound sound)
  node id content regular kept :=
    second.node id content (first.node id content regular kept) kept

theorem evolves_create (sound : files.Sound) {id : FileId} {written : FileId → Prop}
    (created : files.create path (.regular .empty) now = .ok (id, after)) :
    Evolves files after written := by
  rcases create_spec sound created with ⟨directory, name, _, fresh, _, sets, retains, stillSound⟩
  refine ⟨sets.narrows ?_, fun _ => stillSound, ?_⟩
  · rintro child ⟨⟩
    exact plain_of_file_eq_none fresh
  · intro other content regular _
    exact retains.node? regular (by simp)

theorem evolves_link {existing : String} {id : FileId} {content : ByteArray}
    {written : FileId → Prop} (linked : files.link existing path now = .ok after)
    (leads : ∀ other file, files.lstat existing = .ok (other, file) → other = id)
    (plain : files.node? id = some (.regular content)) : Evolves files after written := by
  rcases link_spec linked with ⟨directory, name, other, file, looked, _, sets, retains, sound⟩
  obtain rfl := leads other file looked
  refine ⟨sets.narrows ?_, sound, ?_⟩
  · rintro child ⟨⟩
    exact plain_of_node? plain
  · intro child content regular _
    exact retains.node? regular (by simp)

theorem evolves_unlink {written : FileId → Prop} (removed : files.unlink path now = .ok after) :
    Evolves files after written := by
  rcases unlink_spec removed with ⟨directory, name, id, _, _, sets, retains, sound⟩
  refine ⟨sets.narrows (by simp), sound, ?_⟩
  intro child content regular _
  exact retains.node? regular (by simp)

theorem evolves_setContent {id : FileId} {written : FileId → Prop} (files : FileSystem)
    (content : ByteArray) (now : Instant) (writes : written id) :
    Evolves files (files.setContent id content now) written := by
  rcases setContent_spec files id content now with ⟨same, retains, sound⟩
  refine ⟨same.narrows, sound, ?_⟩
  intro other _ regular different
  apply retains.node? regular
  rintro rfl
  exact different writes

theorem evolves_touch {written : FileId → Prop} (touched : files.touch path now = .ok after) :
    Evolves files after written := by
  rcases touch_spec touched with ⟨id, file, looked, touchedFile, same, retains, sound⟩
  rcases find_eq_ok_iff.mp looked with ⟨place, _, _, found⟩
  refine ⟨same.narrows, sound, ?_⟩
  intro other content regular _
  by_cases isTouched : other = id
  · subst isTouched
    simpa [node?, found, touchedFile] using regular
  · exact retains.node? regular isTouched

end MailSpool.FileSystem

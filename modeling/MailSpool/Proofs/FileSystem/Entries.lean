import MailSpool.FileSystem.Calls

/-!
# What a change of files leaves as it was

Where a path leads depends on the entries of directories, the directories above them and the
targets of symbolic links, and on nothing else about files. So it is enough to know what a change
does to these three. Each primitive change of a file system touches the entries of one directory
at most, and none turns a file into one of another kind.

The `traits` of a file are its content and its times. A change of entries or of the number of names
keeps the traits of every file that is no directory.
-/

namespace MailSpool

/-- What a file holds and when it was changed and read, apart from how many names it has. -/
def File.traits (file : File) : Node × Instant × Instant :=
  (file.node, file.modified, file.accessed)

namespace Node

def listing? : Node → Option (List (String × FileId) × FileId)
  | .directory entries parent => some (entries, parent)
  | _ => none

def aim? : Node → Option String
  | .link target => some target
  | _ => none

/-- A directory with changed entries; any other file as it is. -/
def mapEntries (change : List (String × FileId) → List (String × FileId)) : Node → Node
  | .directory entries parent => .directory (change entries) parent
  | other => other

end Node

namespace FileSystem

def node? (files : FileSystem) (id : FileId) : Option Node :=
  (files.file id).map File.node

@[simp]
theorem isSome_node? (files : FileSystem) (id : FileId) :
    (files.node? id).isSome = (files.file id).isSome :=
  Option.isSome_map

theorem directory?_eq_bind_node? (files : FileSystem) (id : FileId) :
    files.directory? id = (files.node? id).bind Node.listing? := by
  unfold directory? node?
  rcases files.file id with _ | ⟨node, _, _, _⟩
  · rfl
  · cases node <;> rfl

theorem target?_eq_bind_node? (files : FileSystem) (id : FileId) :
    files.target? id = (files.node? id).bind Node.aim? := by
  unfold target? node?
  rcases files.file id with _ | ⟨node, _, _, _⟩
  · rfl
  · cases node <;> rfl

theorem directory?_congr {before after : FileSystem} {id : FileId}
    (same : after.node? id = before.node? id) : after.directory? id = before.directory? id := by
  rw [directory?_eq_bind_node?, directory?_eq_bind_node?, same]

theorem target?_congr {before after : FileSystem} {id : FileId}
    (same : after.node? id = before.node? id) : after.target? id = before.target? id := by
  rw [target?_eq_bind_node?, target?_eq_bind_node?, same]

theorem plain_of_node? {files : FileSystem} {id : FileId} {content : ByteArray}
    (regular : files.node? id = some (.regular content)) :
    files.directory? id = none ∧ files.target? id = none := by
  rw [directory?_eq_bind_node?, target?_eq_bind_node?, regular]
  exact ⟨rfl, rfl⟩

theorem plain_of_file_eq_none {files : FileSystem} {id : FileId} (absent : files.file id = none) :
    files.directory? id = none ∧ files.target? id = none := by
  simp [directory?, target?, absent]

/-! ## Entries of one directory -/

section Entries

variable (files : FileSystem) (directory : FileId) (now : Instant)
  (change : List (String × FileId) → List (String × FileId))

@[simp]
theorem working_changeEntries :
    (files.changeEntries directory now change).working = files.working := by
  unfold changeEntries
  split <;> rfl

@[simp]
theorem next_changeEntries :
    (files.changeEntries directory now change).next = files.next := by
  unfold changeEntries
  split <;> rfl

theorem file_changeEntries_of_plain {id : FileId} (plain : files.directory? id = none) :
    (files.changeEntries directory now change).file id = files.file id := by
  unfold changeEntries
  split
  case h_1 entries parent links modified accessed found =>
    have different : id ≠ directory := by
      intro same
      simp [directory?, same, found] at plain
    exact file_put_of_ne files _ different
  case h_2 => rfl

theorem node?_changeEntries (id : FileId) :
    (files.changeEntries directory now change).node? id =
      if id = directory then (files.node? directory).map (Node.mapEntries change)
      else files.node? id := by
  unfold changeEntries node?
  split
  case h_1 entries parent links modified accessed found =>
    split
    case isTrue same => simp [same, found, Node.mapEntries]
    case isFalse different => rw [file_put_of_ne files _ different]
  case h_2 other =>
    split
    case isTrue same =>
      subst same
      rcases found : files.file id with _ | ⟨node, links, modified, accessed⟩
      · rfl
      · cases node with
        | directory entries parent =>
            exact absurd found (other entries parent links modified accessed)
        | regular content => rfl
        | link target => rfl
    case isFalse => rfl

@[simp]
theorem isSome_file_changeEntries (id : FileId) :
    ((files.changeEntries directory now change).file id).isSome = (files.file id).isSome := by
  rw [← isSome_node?, node?_changeEntries, ← isSome_node?]
  split
  case isTrue same =>
    subst same
    exact Option.isSome_map
  case isFalse => rfl

theorem directory?_changeEntries (id : FileId) :
    (files.changeEntries directory now change).directory? id =
      if id = directory then (files.directory? directory).map fun (entries, parent) =>
        (change entries, parent)
      else files.directory? id := by
  rw [directory?_eq_bind_node?, node?_changeEntries]
  split
  · rw [directory?_eq_bind_node?]
    rcases files.node? directory with _ | node
    · rfl
    · cases node <;> rfl
  · rw [directory?_eq_bind_node?]

theorem target?_changeEntries (id : FileId) :
    (files.changeEntries directory now change).target? id = files.target? id := by
  rw [target?_eq_bind_node?, target?_eq_bind_node?, node?_changeEntries]
  split
  case isTrue same =>
    subst same
    rcases files.node? id with _ | node
    · rfl
    · cases node <;> rfl
  case isFalse => rfl

theorem parent_changeEntries (id : FileId) :
    ((files.changeEntries directory now change).directory? id).map Prod.snd =
      (files.directory? id).map Prod.snd := by
  rw [directory?_changeEntries]
  split
  case isTrue same =>
    subst same
    cases files.directory? id <;> rfl
  case isFalse => rfl

end Entries

theorem lookup_append_singleton {entries : List (String × FileId)} {name : String}
    (absent : entries.lookup name = none) (id : FileId) (text : String) :
    (entries ++ [(name, id)]).lookup text =
      if text = name then some id else entries.lookup text := by
  rw [List.lookup_append]
  by_cases named : text = name
  · subst named
    simp [absent]
  · have differs : (text == name) = false := beq_false_of_ne named
    simp [List.lookup_cons, differs, named]

theorem lookup_filter_ne {Key Value : Type} [BEq Key] [LawfulBEq Key] [DecidableEq Key]
    (entries : List (Key × Value)) (name text : Key) :
    (entries.filter fun entry => entry.1 ≠ name).lookup text =
      if text = name then none else entries.lookup text := by
  induction entries with
  | nil => simp
  | cons entry rest ih =>
      rcases entry with ⟨key, child⟩
      by_cases dropped : key = name
      · rw [List.filter_cons_of_neg (by simp [dropped]), ih]
        split
        case isTrue => rfl
        case isFalse named =>
          have differs : (text == key) = false := beq_false_of_ne (dropped ▸ named)
          simp [List.lookup_cons, differs]
      · rw [List.filter_cons_of_pos (by simpa using dropped), List.lookup_cons, ih]
        by_cases named : text = name
        · subst named
          have differs : (text == key) = false := beq_false_of_ne (Ne.symm dropped)
          simp [differs]
        · simp [named, List.lookup_cons]

/-- A new entry is found by `child?` under its name, and all other entries are as before. -/
theorem child?_addEntry {files : FileSystem} {directory : FileId} {name : String}
    (isDirectory : (files.directory? directory).isSome)
    (vacant : files.child? directory name = none) (id : FileId) (now : Instant) (other : FileId)
    (text : String) :
    (files.addEntry directory name id now).child? other text =
      if other = directory ∧ text = name then some id else files.child? other text := by
  rcases Option.isSome_iff_exists.mp isDirectory with ⟨⟨entries, parent⟩, listed⟩
  have absent : entries.lookup name = none := by simpa [child?, listed] using vacant
  unfold child? addEntry
  rw [directory?_changeEntries]
  by_cases same : other = directory
  · subst same
    simp [listed, lookup_append_singleton absent]
  · simp [same]

/-- An entry that was dropped is not found by `child?`, and all other entries are as before. -/
theorem child?_dropEntry (files : FileSystem) (directory : FileId) (name : String) (now : Instant)
    (other : FileId) (text : String) :
    (files.dropEntry directory name now).child? other text =
      if other = directory ∧ text = name then none else files.child? other text := by
  unfold child? dropEntry
  rw [directory?_changeEntries]
  by_cases same : other = directory
  · subst same
    rcases files.directory? other with _ | ⟨entries, parent⟩
    · simp
    · simp only [if_true, Option.map_some, Option.bind_some, true_and]
      exact lookup_filter_ne entries name text
  · simp [same]

/-! ## Number of names -/

section Links

variable (files : FileSystem) (id : FileId) (change : Nat → Nat)

@[simp]
theorem working_changeLinks : (files.changeLinks id change).working = files.working := by
  unfold changeLinks
  split <;> rfl

@[simp]
theorem next_changeLinks : (files.changeLinks id change).next = files.next := by
  unfold changeLinks
  split <;> rfl

theorem file_changeLinks (other : FileId) :
    ((files.changeLinks id change).file other).map File.traits =
      (files.file other).map File.traits := by
  unfold changeLinks
  split
  case h_1 file found =>
    by_cases same : other = id
    · subst same
      simp [found, File.traits]
    · rw [file_put_of_ne files _ same]
  case h_2 => rfl

@[simp]
theorem node?_changeLinks (other : FileId) :
    (files.changeLinks id change).node? other = files.node? other := by
  have traits := congrArg (Option.map Prod.fst) (file_changeLinks files id change other)
  rw [Option.map_map, Option.map_map] at traits
  exact traits

@[simp]
theorem isSome_file_changeLinks (other : FileId) :
    ((files.changeLinks id change).file other).isSome = (files.file other).isSome := by
  rw [← isSome_node?, node?_changeLinks, isSome_node?]

@[simp]
theorem directory?_changeLinks (other : FileId) :
    (files.changeLinks id change).directory? other = files.directory? other :=
  directory?_congr (node?_changeLinks files id change other)

@[simp]
theorem target?_changeLinks (other : FileId) :
    (files.changeLinks id change).target? other = files.target? other :=
  target?_congr (node?_changeLinks files id change other)

@[simp]
theorem child?_changeLinks (directory : FileId) (name : String) :
    (files.changeLinks id change).child? directory name = files.child? directory name := by
  simp [child?]

end Links

end FileSystem

end MailSpool

import MailSpool.Clock
import MailSpool.Errno

/-!
# A file system

Files are found by numbers that are never used again, so two names are names of one file exactly
when they carry one number. A directory lists its entries in the order they were made; a file
knows how many entries name it, and stays known when none does, because a process may still have
it open. Every change goes through `put`, which changes one file and keeps all others.
-/

namespace MailSpool

/-- The number of a file. -/
structure FileId where
  number : Nat
  deriving DecidableEq, Repr

/-- What a file is. -/
inductive Node where
  | regular (content : ByteArray)
  /-- A directory lists its entries, and knows the directory above it. -/
  | directory (entries : List (String × FileId)) (parent : FileId)
  /-- A symbolic link to a path. -/
  | link (target : String)

/-- A file. -/
structure File where
  node : Node
  /-- How many entries name the file. -/
  links : Nat
  /-- The time of the last change of the content. -/
  modified : Instant
  /-- The time of the last access. -/
  accessed : Instant

/-- All files, the number of the next one, and the directory at which relative paths start. -/
structure FileSystem where
  file : FileId → Option File
  next : Nat
  working : FileId

namespace File

def made (node : Node) (links : Nat) (now : Instant) : File where
  node := node
  links := links
  modified := now
  accessed := now

def isDirectory (file : File) : Bool :=
  match file.node with
  | .directory _ _ => true
  | _ => false

/-- The number of bytes of a file; a directory takes one block. -/
def size (file : File) : Nat :=
  match file.node with
  | .regular content => content.size
  | .directory _ _ => 4096
  | .link target => target.utf8ByteSize

end File

namespace FileSystem

def root : FileId := ⟨0⟩

def empty (now : Instant) : FileSystem where
  file id := if id = root then some (.made (.directory [] root) 1 now) else none
  next := 1
  working := root

def put (files : FileSystem) (id : FileId) (file : File) : FileSystem :=
  { files with file := fun other => if other = id then some file else files.file other }

/-- The entries of a directory and the directory above it; nothing for any other file. -/
def directory? (files : FileSystem) (id : FileId) : Option (List (String × FileId) × FileId) :=
  match files.file id with
  | some ⟨.directory entries parent, _, _, _⟩ => some (entries, parent)
  | _ => none

def target? (files : FileSystem) (id : FileId) : Option String :=
  match files.file id with
  | some ⟨.link target, _, _, _⟩ => some target
  | _ => none

def child? (files : FileSystem) (directory : FileId) (name : String) : Option FileId :=
  (files.directory? directory).bind fun (entries, _) => entries.lookup name

def changeEntries (files : FileSystem) (directory : FileId) (now : Instant)
    (change : List (String × FileId) → List (String × FileId)) : FileSystem :=
  match files.file directory with
  | some ⟨.directory entries parent, links, _, accessed⟩ =>
    files.put directory ⟨.directory (change entries) parent, links, now, accessed⟩
  | _ => files

def addEntry (files : FileSystem) (directory : FileId) (name : String) (id : FileId)
    (now : Instant) : FileSystem :=
  files.changeEntries directory now fun entries => entries ++ [(name, id)]

/-- A file system in which a directory has no entry of a name. -/
def dropEntry (files : FileSystem) (directory : FileId) (name : String) (now : Instant) :
    FileSystem :=
  files.changeEntries directory now fun entries => entries.filter fun entry => entry.1 ≠ name

def changeLinks (files : FileSystem) (id : FileId) (change : Nat → Nat) : FileSystem :=
  match files.file id with
  | some file => files.put id { file with links := change file.links }
  | none => files

def make (files : FileSystem) (directory : FileId) (name : String) (node : Node) (now : Instant) :
    FileId × FileSystem :=
  let id : FileId := ⟨files.next⟩
  let grown := { files.put id (.made node 1 now) with next := files.next + 1 }
  (id, grown.addEntry directory name id now)

@[simp]
theorem file_put_self (files : FileSystem) (id : FileId) (file : File) :
    (files.put id file).file id = some file := by
  simp [put]

theorem file_put_of_ne (files : FileSystem) {id other : FileId} (file : File)
    (different : other ≠ id) : (files.put id file).file other = files.file other := by
  simp [put, different]

theorem directory?_put_of_ne (files : FileSystem) {id other : FileId} (file : File)
    (different : other ≠ id) : (files.put id file).directory? other = files.directory? other := by
  simp only [directory?, file_put_of_ne files file different]

theorem target?_put_of_ne (files : FileSystem) {id other : FileId} (file : File)
    (different : other ≠ id) : (files.put id file).target? other = files.target? other := by
  simp only [target?, file_put_of_ne files file different]

end FileSystem

end MailSpool

import MailSpool.FileSystem
import MailSpool.Path

/-!
# Finding the file that a path names

A path is followed component by component from the root or from the working directory. Symbolic
links on the way are replaced by the components of their targets, a bounded number of times; a
link at the end is replaced only when it is to be followed. What is found is a place: an entry of
a directory, which may be missing, or a directory reached without an entry of its own.
-/

namespace MailSpool

/-- One step along a path. -/
inductive Component where
  /-- A dot, or the nothing behind a slash at the end: a directory stays itself. -/
  | here
  /-- Two dots: the directory above. -/
  | up
  | name (text : String)
  deriving DecidableEq, Repr

/-- Where a path leads. -/
inductive Place where
  /-- An entry of a directory, and the file that it names if it is there. -/
  | entry (directory : FileId) (name : String) (file : Option FileId)
  /-- A directory that the path does not reach by an entry. -/
  | directory (id : FileId)
  deriving DecidableEq, Repr

namespace Place

def file? : Place → Option FileId
  | entry _ _ file => file
  | directory id => some id

end Place

namespace Component

/-- The components that segments of a path stand for. Empty segments stand for nothing, except at
the end of the path. -/
def ofSegments : List (List Char) → List Component
  | [] => []
  | [[]] => [.here]
  | [] :: rest => ofSegments rest
  | ['.'] :: rest => .here :: ofSegments rest
  | ['.', '.'] :: rest => .up :: ofSegments rest
  | segment :: rest => .name (String.ofList segment) :: ofSegments rest

def ofPath (path : String) : List Component :=
  ofSegments (Path.segments path.toList)

end Component

namespace FileSystem

def nameLimit : Nat := 255

/-- The length at which a path becomes too long, in bytes. -/
def pathLimit : Nat := 4096

def linkLimit : Nat := 40

/-- The directory at which a path starts when it is met in a directory. -/
def start (directory : FileId) (path : String) : FileId :=
  if Path.isAbsolute path then root else directory

/-- Follows components from a directory. A symbolic link on the way is handed to `expand` with the
directory and the components at which the way goes on. -/
def walkWith (files : FileSystem) (expand : FileId → List Component → Except Errno Place)
    (follow : Bool) : FileId → List Component → Except Errno Place
  | current, [] => .ok (.directory current)
  | current, component :: rest =>
    match files.directory? current with
    | none => .error .notDirectory
    | some (entries, parent) =>
      match component with
      | .here => walkWith files expand follow current rest
      | .up => walkWith files expand follow parent rest
      | .name name =>
        if nameLimit < name.utf8ByteSize then .error .nameTooLong
        else
          match entries.lookup name with
          | none => if rest.isEmpty then .ok (.entry current name none) else .error .notFound
          | some child =>
            if rest.isEmpty && !follow then .ok (.entry current name (some child))
            else
              match files.target? child with
              | some target => expand (start current target) (Component.ofPath target ++ rest)
              | none =>
                if rest.isEmpty then .ok (.entry current name (some child))
                else walkWith files expand follow child rest

/-- Follows components from a directory, through at most `limit` symbolic links. -/
def walk (files : FileSystem) (follow : Bool) : Nat → FileId → List Component → Except Errno Place
  | 0 => files.walkWith (fun _ _ => .error .tooManyLinks) follow
  | limit + 1 => files.walkWith (walk files follow limit) follow

/-- The place that a path names. A symbolic link at the end is followed only if asked for. -/
def locate (files : FileSystem) (follow : Bool) (path : String) : Except Errno Place :=
  if path.isEmpty then .error .notFound
  else if pathLimit ≤ path.utf8ByteSize then .error .nameTooLong
  else files.walk follow linkLimit (start files.working path) (Component.ofPath path)

def find (files : FileSystem) (follow : Bool) (path : String) : Except Errno (FileId × File) :=
  match files.locate follow path with
  | .error errno => .error errno
  | .ok place =>
    match place.file? with
    | none => .error .notFound
    | some id =>
      match files.file id with
      | none => .error .notFound
      | some file => .ok (id, file)

end FileSystem

end MailSpool

import MailSpool.FileSystem.Lookup

/-!
# Calls on files

The calls by which a file is made, linked, removed, read, written and touched. A call that fails
changes nothing, so it gives either the number of an error or the changed file system. Each call
is one indivisible step, but for `makeDirectories`, which goes along a path.
-/

namespace MailSpool.FileSystem

/-- The file that a path names; a symbolic link at the end is the file itself. -/
def lstat (files : FileSystem) (path : String) : Except Errno (FileId × File) :=
  files.find false path

def stat (files : FileSystem) (path : String) : Except Errno (FileId × File) :=
  files.find true path

def vacancy (files : FileSystem) (path : String) : Except Errno (FileId × String) :=
  match files.locate false path with
  | .error errno => .error errno
  | .ok (.entry directory name none) => .ok (directory, name)
  | .ok _ => .error .alreadyExists

def create (files : FileSystem) (path : String) (node : Node) (now : Instant) :
    Except Errno (FileId × FileSystem) :=
  (files.vacancy path).map fun (directory, name) => files.make directory name node now

def setContent (files : FileSystem) (id : FileId) (content : ByteArray) (now : Instant) :
    FileSystem :=
  match files.file id with
  | some ⟨.regular _, links, _, accessed⟩ =>
    files.put id ⟨.regular content, links, now, accessed⟩
  | _ => files

/-- Gives a file a second name. Symbolic links are not followed; a directory has one name only. -/
def link (files : FileSystem) (existing path : String) (now : Instant) :
    Except Errno FileSystem :=
  match files.lstat existing with
  | .error errno => .error errno
  | .ok (id, file) =>
    match files.vacancy path with
    | .error errno => .error errno
    | .ok (directory, name) =>
      if file.isDirectory then .error .operationNotPermitted
      else .ok ((files.addEntry directory name id now).changeLinks id (· + 1))

def symlink (files : FileSystem) (target path : String) (now : Instant) :
    Except Errno FileSystem :=
  if target.isEmpty then .error .notFound
  else if pathLimit ≤ target.utf8ByteSize then .error .nameTooLong
  else (files.create path (.link target) now).map (·.2)

/-- Removes a name of a file that is no directory. -/
def unlink (files : FileSystem) (path : String) (now : Instant) : Except Errno FileSystem :=
  match files.locate false path with
  | .error errno => .error errno
  | .ok (.directory _) => .error .isDirectory
  | .ok (.entry _ _ none) => .error .notFound
  | .ok (.entry directory name (some id)) =>
    if (files.directory? id).isSome then .error .isDirectory
    else .ok ((files.dropEntry directory name now).changeLinks id (· - 1))

def read (files : FileSystem) (path : String) : Except Errno (FileId × ByteArray) :=
  match files.stat path with
  | .error errno => .error errno
  | .ok (id, ⟨.regular content, _, _, _⟩) => .ok (id, content)
  | .ok _ => .error .isDirectory

/-- The file that a path leads to, to be opened; a directory cannot be opened for writing. -/
def openable (files : FileSystem) (path : String) (writable : Bool) : Except Errno FileId :=
  match files.stat path with
  | .error errno => .error errno
  | .ok (id, file) => if writable && file.isDirectory then .error .isDirectory else .ok id

/-- Gives the file that a path leads to a content, after making it if nothing is there. -/
def overwrite (files : FileSystem) (path : String) (content : ByteArray) (now : Instant) :
    Except Errno (FileId × FileSystem) :=
  match files.locate true path with
  | .error errno => .error errno
  | .ok (.directory _) => .error .isDirectory
  | .ok (.entry directory name none) => .ok (files.make directory name (.regular content) now)
  | .ok (.entry _ _ (some id)) =>
    if (files.directory? id).isSome then .error .isDirectory
    else .ok (id, files.setContent id content now)

def change (files : FileSystem) (follow : Bool) (path : String) (update : File → File) :
    Except Errno FileSystem :=
  (files.find follow path).map fun (id, file) => files.put id (update file)

def touch (files : FileSystem) (path : String) (now : Instant) : Except Errno FileSystem :=
  files.change true path fun file => { file with modified := now, accessed := now }

def setModified (files : FileSystem) (path : String) (time : Instant) : Except Errno FileSystem :=
  files.change false path fun file => { file with modified := time }

/-- Sets the time of the last access to the file that a path leads to. -/
def setAccessed (files : FileSystem) (path : String) (time : Instant) : Except Errno FileSystem :=
  files.change true path fun file => { file with accessed := time }

def makeAlong (now : Instant) : FileSystem → FileId → List Component → Except Errno FileSystem
  | files, _, [] => .ok files
  | files, current, component :: rest =>
    match files.directory? current with
    | none => .error .notDirectory
    | some (entries, parent) =>
      match component with
      | .here => makeAlong now files current rest
      | .up => makeAlong now files parent rest
      | .name name =>
        if nameLimit < name.utf8ByteSize then .error .nameTooLong
        else if (entries.lookup name).isNone then
          let (id, grown) := files.make current name (.directory [] current) now
          makeAlong now grown id rest
        else
          match files.walk true linkLimit current [.name name] with
          | .error errno => .error errno
          | .ok place =>
            match place.file? with
            | none => .error .alreadyExists
            | some id =>
              if (files.directory? id).isSome then makeAlong now files id rest
              else .error .notDirectory

def makeDirectories (files : FileSystem) (path : String) (now : Instant) :
    Except Errno FileSystem :=
  if path.isEmpty then .ok files
  else if pathLimit ≤ path.utf8ByteSize then .error .nameTooLong
  else makeAlong now files (start files.working path) (Component.ofPath path)

end MailSpool.FileSystem

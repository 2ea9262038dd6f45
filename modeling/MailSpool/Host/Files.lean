import MailSpool.AccessTime
import MailSpool.Host

/-!
# Files of a host

The calls of processes on files. Changes carry the time of the host. A path with a NUL character
reaches no call. A process that closes any descriptor of a file loses its locks on that file, so
reading or writing a whole file, which opens and closes it, has that effect too.
-/

namespace MailSpool.Host

/-- The result of a call with paths, as that of an input or output operation. -/
def calling {Value : Type} (paths : List String) (result : Except Errno Value) :
    Except IoError Value :=
  if paths.any fun path => path.toList.contains '\x00' then .error .nulInPath
  else result.mapError .system

def withFiles (host : Host) (files : FileSystem) : Host :=
  { host with files := files }

/-- The file that a path names; a symbolic link at the end is the file itself. -/
def lstat (host : Host) (path : String) : Except IoError (FileId × File) :=
  calling [path] (host.files.lstat path)

def stat (host : Host) (path : String) : Except IoError (FileId × File) :=
  calling [path] (host.files.stat path)

def create (host : Host) (path : String) : Except IoError (FileId × Host) :=
  (calling [path] (host.files.create path (.regular .empty) host.now)).map fun (id, files) =>
    (id, host.withFiles files)

/-- Writes a file that was just made, unless every write fails. -/
def fill (host : Host) (id : FileId) (content : ByteArray) : Except IoError Host :=
  match host.writeFault with
  | some errno => .error (.system errno)
  | none => .ok (host.withFiles (host.files.setContent id content host.now))

def link (host : Host) (existing path : String) : Except IoError Host :=
  (calling [existing, path] (host.files.link existing path host.now)).map host.withFiles

def unlink (host : Host) (path : String) : Except IoError Host :=
  (calling [path] (host.files.unlink path host.now)).map host.withFiles

def makeDirectories (host : Host) (path : String) : Except IoError Host :=
  (calling [path] (host.files.makeDirectories path host.now)).map host.withFiles

def touch (host : Host) (path : String) : Except Failure Host :=
  if path.toList.contains '\x00' then .error (.settings (.nulInPath path))
  else
    match host.files.touch path host.now with
    | .ok files => .ok (host.withFiles files)
    | .error errno => .error (.ofPathErrno errno path)

def accessTime (host : Host) (path : String) : Except Failure AccessTime :=
  if path.toList.contains '\x00' then .error (.ofPathErrno .invalidArgument path)
  else
    match host.files.stat path with
    | .ok (_, file) => .ok (.ofInstant file.accessed)
    | .error errno => .error (.ofPathErrno errno path)

/-- A process loses its lock on a file, because it closed a descriptor of the file. -/
def loseLock (host : Host) (process : ProcessId) (file : FileId) : Host :=
  { host with locks := host.locks.release file process }

def read (host : Host) (process : ProcessId) (path : String) : Except IoError ByteArray × Host :=
  match calling [path] (host.files.stat path) with
  | .error error => (.error error, host)
  | .ok (id, file) =>
    let content :=
      match file.node with
      | .regular content => .ok content
      | _ => .error (.system .isDirectory)
    (content, host.loseLock process id)

/-- Gives the file that a path leads to a content, after making it if nothing is there. -/
def overwrite (host : Host) (process : ProcessId) (path : String) (content : ByteArray) :
    Except IoError Host :=
  (calling [path] (host.files.overwrite path content host.now)).map fun (id, files) =>
    (host.withFiles files).loseLock process id

/-- Opens the file that a path leads to, for reading or also for writing. -/
def openFile (host : Host) (process : ProcessId) (path : String) (writable : Bool) :
    Except IoError (Nat × Host) :=
  match calling [path] (host.files.openable path writable), host.process process with
  | .error error, _ => .error error
  | .ok _, none => .error (.system .badDescriptor)
  | .ok id, some state =>
    let number := state.freeDescriptor
    let opened : OpenFile := { file := id, readable := true, writable := writable }
    .ok (number, host.setProcess process
      (some { state with descriptors := (number, opened) :: state.descriptors }))

def descriptor? (host : Host) (process : ProcessId) (number : Int) : Option OpenFile :=
  if number < 0 then none
  else (host.process process).bind fun state => state.descriptors.lookup number.toNat

def close (host : Host) (process : ProcessId) (number : Nat) : Host :=
  match host.descriptor? process number with
  | none => host
  | some opened =>
    (host.changeProcess process fun state =>
      { state with descriptors := state.descriptors.filter fun entry => entry.1 ≠ number }).loseLock
        process opened.file

end MailSpool.Host

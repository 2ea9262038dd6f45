import MailSpool.Host.Time

/-!
# Programs

The programs that a command can name. What a program does is a parameter of all that runs one; the
few given here end with a code or by a signal, print a line or ask about a file, and change
nothing.
-/

namespace MailSpool

/-- How a program ended. -/
inductive ExitStatus where
  | exited (code : Nat)
  | killed (signal : Nat)
  deriving DecidableEq, Repr

/-- The code that tells how a program ended: its own code, or 128 and the signal. -/
def ExitStatus.code : ExitStatus → Nat
  | exited code => code
  | killed signal => 128 + signal

/-- What became of a program, and of the host that it ran on. -/
structure ProgramRun where
  status : ExitStatus
  output : String
  host : Host

/-- What a program does on a host, given its name and its arguments, if it can be started. -/
abbrev Programs := String → List String → Host → Except IoError ProgramRun

namespace Programs

def isFile (host : Host) (path : String) (holds : File → Bool) : Bool :=
  match host.stat path with
  | .ok (_, file) => holds file
  | .error _ => false

def answer (holds : Bool) : ExitStatus :=
  .exited (if holds then 0 else 1)

def opposite : ExitStatus → ExitStatus
  | .exited 0 => .exited 1
  | .exited 1 => .exited 0
  | status => status

def test (arguments : List String) (host : Host) : ExitStatus :=
  match arguments with
  | [] => answer false
  | [text] => answer !text.isEmpty
  | "!" :: rest => opposite (test rest host)
  | ["-e", path] => answer (isFile host path fun _ => true)
  | ["-d", path] => answer (isFile host path File.isDirectory)
  | ["-f", path] => answer (isFile host path fun file => !file.isDirectory)
  | _ => .exited 2

def signalNames : List (String × Nat) :=
  [("HUP", 1), ("INT", 2), ("QUIT", 3), ("ILL", 4), ("TRAP", 5), ("ABRT", 6), ("BUS", 7),
    ("FPE", 8), ("KILL", 9), ("USR1", 10), ("SEGV", 11), ("USR2", 12), ("PIPE", 13), ("ALRM", 14),
    ("TERM", 15), ("CHLD", 17), ("CONT", 18), ("URG", 23), ("WINCH", 28)]

def harmlessSignals : List Nat := [0, 17, 18, 23, 28]

/-- The signal that an option such as `-9` or `-TERM` names. -/
def signalOf (option : String) : Option Nat :=
  let name := (option.drop 1).toString
  (signalNames.lookup name) <|> name.toNat?

def echoed (arguments : List String) : String :=
  match arguments with
  | "-n" :: rest => " ".intercalate rest
  | _ => " ".intercalate arguments ++ "\n"

/-- What a single command of a script does: it ends the script, or it has a status and prints. -/
inductive ScriptStep where
  | ends (status : ExitStatus)
  | goesOn (status : ExitStatus) (output : String)

def scriptStep (last : ExitStatus) (words : List String) (host : Host) : ScriptStep :=
  match words with
  | [] => .goesOn last ""
  | ["exit"] => .ends last
  | ["exit", code] => .ends (.exited ((code.toNat?.getD 2) % 256))
  | ["kill", option, "$$"] =>
    match signalOf option with
    | none => .goesOn (.exited 1) ""
    | some signal =>
      if harmlessSignals.contains signal then .goesOn (.exited 0) "" else .ends (.killed signal)
  | "true" :: _ => .goesOn (.exited 0) ""
  | "false" :: _ => .goesOn (.exited 1) ""
  | "echo" :: arguments => .goesOn (.exited 0) (echoed arguments)
  | "test" :: arguments => .goesOn (test arguments host) ""
  | _ => .goesOn (.exited 127) ""

def script (host : Host) : ExitStatus → String → List (List String) → ExitStatus × String
  | last, output, [] => (last, output)
  | last, output, words :: rest =>
    match scriptStep last words host with
    | .ends status => (status, output)
    | .goesOn status printed => script host status (output ++ printed) rest

def scriptCommands (text : String) : List (List String) :=
  (text.splitOn ";").map fun command =>
    (command.splitOn " ").filter fun word => !word.isEmpty

def directories : List String := ["/usr/bin/", "/bin/"]

/-- The name of a program, which may be given with the directory that it lies in. -/
def nameOf (given : String) : String :=
  match directories.find? fun directory => given.startsWith directory with
  | some directory => (given.drop directory.length).toString
  | none => given

/-- Why what is no program cannot be started. A path leads to nothing that is one. A name is
looked for in directories, where it is that of a directory or of nothing. -/
def refusal (host : Host) (given : String) : IoError :=
  if given.toList.contains '/' then
    match host.stat given with
    | .ok _ => .system .accessDenied
    | .error error => error
  else if given = "." || given = ".." then .system .accessDenied
  else if FileSystem.nameLimit < given.utf8ByteSize then .system .nameTooLong
  else .system .notFound

def standard : Programs := fun given arguments host =>
  let done (status : ExitStatus) (output : String) : Except IoError ProgramRun :=
    .ok { status := status, output := output, host := host.elapse (milliseconds 1) }
  match nameOf given, arguments with
  | "true", _ => done (.exited 0) ""
  | "false", _ => done (.exited 1) ""
  | "echo", _ => done (.exited 0) (echoed arguments)
  | "test", _ => done (test arguments host) ""
  | "sh", ["-c", text] =>
    let (status, output) := script host (.exited 0) "" (scriptCommands text)
    done status output
  | "sh", _ => done (.exited 0) ""
  | _, _ => .error (refusal host given)

end Programs

end MailSpool

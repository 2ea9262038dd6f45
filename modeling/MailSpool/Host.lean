import MailSpool.FileSystem.Calls
import MailSpool.Notice
import MailSpool.LockTable
import MailSpool.Signals

/-!
# A host

The machine on which locks are taken: its files, its clock, its processes with their environment,
their open files and their signal cells, the record locks, and what is going to happen at given
times. What processes had to tell is kept, the latest first. Random numbers are drawn from a
sequence that is given once and for all, so that all that happens on a host is a function of it.
-/

namespace MailSpool

/-- A file that a process has open. -/
structure OpenFile where
  file : FileId
  readable : Bool
  writable : Bool
  deriving DecidableEq, Repr

/-- A process. -/
structure Process where
  parent : ProcessId
  /-- The variables of the environment and their values. -/
  environment : List (String × String) := []
  /-- The open files by their descriptor numbers. -/
  descriptors : List (Nat × OpenFile) := []
  /-- Whether the process handles the signals that ask it to stop. -/
  handlesSignals : Bool := false
  signals : SignalCells := .clear
  deriving DecidableEq, Repr

/-- What can happen on a host without a process of interest doing it. -/
inductive Deed where
  /-- A file is removed. -/
  | unlink (path : String)
  /-- A file is touched. -/
  | touch (path : String)
  /-- A process ends. -/
  | exit (process : ProcessId)
  /-- A signal reaches a process. -/
  | signal (process : ProcessId) (number : Nat)
  deriving DecidableEq, Repr

/-- A deed at a time, done once, or again and again after a period in nanoseconds. -/
structure Appointment where
  due : Instant
  period : Option Nat
  deed : Deed
  deriving DecidableEq, Repr

/-- The state of a machine. -/
structure Host where
  files : FileSystem
  now : Instant
  process : ProcessId → Option Process
  /-- A number above those of all processes so far. -/
  nextProcess : ProcessId
  locks : LockTable := {}
  agenda : List Appointment := []
  notices : List (ProcessId × Notice) := []
  /-- The random numbers, and how many were drawn. -/
  random : Nat → Nat := fun _ => 0
  drawn : Nat := 0
  /-- The number with which every write to a file fails, if it does. -/
  writeFault : Option Errno := none

namespace Process

def valueOf (process : Process) (name : String) : Option String :=
  process.environment.lookup name

/-- An environment in which a variable has a value, or none. -/
def setVariable (environment : List (String × String)) (name : String) (value : Option String) :
    List (String × String) :=
  let others := environment.filter fun entry => entry.1 ≠ name
  match value with
  | some value => (name, value) :: others
  | none => others

/-- The lowest descriptor number from a start on that is not taken; a number of steps is tried. -/
def freeFrom (descriptors : List (Nat × OpenFile)) : Nat → Nat → Nat
  | 0, number => number
  | steps + 1, number =>
    if (descriptors.lookup number).isSome then freeFrom descriptors steps (number + 1) else number

/-- The number that the next open file gets: the lowest one behind the standard streams that is
not taken. -/
def freeDescriptor (process : Process) : Nat :=
  freeFrom process.descriptors process.descriptors.length 3

end Process

namespace Host

/-- A host with no files but an empty root, and with one process, the first one. -/
def boot (now : Instant) (random : Nat → Nat) : Host where
  files := .empty now
  now := now
  process id := if id = 1 then some { parent := 0 } else none
  nextProcess := 2
  random := random

/-- A host in which one process is as given, or is gone. -/
def setProcess (host : Host) (id : ProcessId) (process : Option Process) : Host :=
  { host with process := fun other => if other = id then process else host.process other }

@[simp]
theorem process_setProcess_self (host : Host) (id : ProcessId) (process : Option Process) :
    (host.setProcess id process).process id = process := by
  simp [setProcess]

theorem process_setProcess_of_ne (host : Host) {id other : ProcessId} (process : Option Process)
    (different : other ≠ id) : (host.setProcess id process).process other = host.process other := by
  simp [setProcess, different]

/-- A host in which a process, if there is one of that number, is changed. -/
def changeProcess (host : Host) (id : ProcessId) (change : Process → Process) : Host :=
  match host.process id with
  | some process => host.setProcess id (some (change process))
  | none => host

def isAlive (host : Host) (id : ProcessId) : Bool :=
  (host.process id).isSome

def valueOf (host : Host) (id : ProcessId) (name : String) : Option String :=
  (host.process id).bind fun process => process.valueOf name

/-- Gives a variable in the environment of a process a value, or takes it away. -/
def setVariable (host : Host) (id : ProcessId) (name : String) (value : Option String) : Host :=
  host.changeProcess id fun process =>
    { process with environment := Process.setVariable process.environment name value }

def spawn (host : Host) (parent : ProcessId) (environment : List (String × String)) :
    ProcessId × Host :=
  (host.nextProcess,
    { host with nextProcess := host.nextProcess + 1 }.setProcess host.nextProcess
      (some { parent := parent, environment := environment }))

/-- Ends a process: its files are closed, its locks and requests are gone. -/
def exit (host : Host) (id : ProcessId) : Host :=
  { host with locks := host.locks.releaseAll id }.setProcess id none

/-- A signal reaches a process, which handles it if it handles signals. -/
def signal (host : Host) (id : ProcessId) (number : Nat) : Host :=
  host.changeProcess id fun process =>
    if process.handlesSignals then { process with signals := process.signals.deliver number }
    else process

def tell (host : Host) (id : ProcessId) (notice : Notice) : Host :=
  { host with notices := (id, notice) :: host.notices }

def told (host : Host) (id : ProcessId) : List Notice :=
  (host.notices.filter fun entry => entry.1 = id).reverse.map (·.2)

def draw (host : Host) (bound : Nat) : Nat × Host :=
  (host.random host.drawn % bound, { host with drawn := host.drawn + 1 })

def appoint (host : Host) (appointment : Appointment) : Host :=
  { host with agenda := host.agenda ++ [appointment] }

def cancel (host : Host) (deed : Deed) : Host :=
  { host with agenda := host.agenda.eraseP fun appointment => appointment.deed = deed }

end Host

end MailSpool

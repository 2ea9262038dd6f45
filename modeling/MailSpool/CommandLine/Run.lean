import MailSpool.Calendar
import MailSpool.CommandLine.Invocation
import MailSpool.CommandLine.Programs
import MailSpool.Host.Signals
import MailSpool.Settings.Load
import MailSpool.SpoolGuard.Drop

/-!
# Running the program

What an invocation does on a host: it reads the settings, does its operation as a process of its
own, prints, and ends with a code. A failure ends it with the code of the failure; whatever else
goes wrong ends it with one. Locks that the process holds go when it ends; a mailbox lock that is
to outlive it names the process that started it as the owner.
-/

namespace MailSpool

/-- What a run of the program leaves to the one that started it. -/
structure Outcome where
  code : Nat := 0
  output : String := ""
  errors : String := ""
  deriving DecidableEq, Repr

namespace Outcome

def ofFailure (failure : Failure) : Outcome where
  code := failure.exitCode.toNat
  errors := "Error: " ++ failure.message ++ "\n"

/-- The end of a run in which something went wrong that is told in words only. -/
def ofTrouble (text : String) : Outcome where
  code := 1
  errors := "Error: " ++ text ++ "\n"

def after (outcome : Outcome) (text : String) : Outcome :=
  { outcome with errors := text ++ outcome.errors }

/-- The end of a run whose arguments were not followed. -/
def ofRefusal : Refusal → Outcome
  | .version => { output := Invocation.programName ++ " " ++ Invocation.version ++ "\n" }
  | .help command about => { output := about ++ "\n\n" ++ CommandRule.usage command ++ "\n" }
  | .overview command about =>
    { code := 2, errors := about ++ "\n\n" ++ CommandRule.usage command ++ "\n" }
  | .fault command fault =>
    { code := 2
      errors := "error: " ++ fault.message ++ "\n\n" ++ CommandRule.usage command ++ "\n" }

end Outcome

namespace Invocation

def runCommand (programs : Programs) (host : Host) : List String → Outcome × Host
  | [] => (.ofTrouble "missing command", host)
  | name :: arguments =>
    match programs name arguments host with
    | .ok done => ({ code := done.status.code, output := done.output }, done.host)
    | .error error => (.ofTrouble ("Failed to run " ++ name ++ ": " ++ error.message), host)

def cannotOpen (path : String) (error : IoError) : Outcome :=
  .ofTrouble ("Cannot open " ++ path ++ ": " ++ error.message)

/-- How many polls of a second are worth it while signals may still come. -/
def pollsWorthwhile (host : Host) : Nat :=
  (host.horizon - host.now).toNat / seconds 1 + 2

/-- Holds a record lock on a file while a command runs, or until a signal comes. Nothing is given
when that is never over. -/
def lock (programs : Programs) (settings : Settings) (process : ProcessId) (host : Host)
    (path : String) (mode : LockMode) (waits : Bool) (command : List String) :
    Option (Outcome × Host) :=
  let bridge := Bridge.ofStandardInput process settings
  match (host.handleSignals process).openFile process path (mode = .write) with
  | .error error => some (cannotOpen path error, host)
  | .ok (descriptor, opened) =>
    match bridge.lock opened (.ofNat descriptor) mode.tag waits with
    | none => none
    | some (.error failure, after) => some (.ofFailure failure, after)
    | some (.ok (), locked) =>
      let told := "Locked " ++ path ++ " (" ++ mode.name ++ ")\n"
      if command.isEmpty then
        match locked.watch process (seconds 1) (pollsWorthwhile locked) fun _ host => host with
        | none => none
        | some (signal, _, after) =>
          let released :=
            "Received signal " ++ toString signal ++ ", releasing " ++ path ++ "\n"
          some ({ errors := told ++ released }, after)
      else
        let (outcome, after) := runCommand programs locked command
        some (outcome.after told, after)

/-- Tells whether another process holds a record lock that stands against one of a mode. -/
def probe (settings : Settings) (process : ProcessId) (host : Host) (path : String)
    (mode : LockMode) : Outcome × Host :=
  match host.openFile process path false with
  | .error error => (cannotOpen path error, host)
  | .ok (descriptor, opened) =>
    let bridge := Bridge.ofStandardInput process settings
    match bridge.probe opened (.ofNat descriptor) mode.tag with
    | .error failure => (.ofFailure failure, opened)
    | .ok none => ({ output := "free\n" }, opened)
    | .ok (some holder) =>
      ({ code := 2
         output := holder.mode.name ++ " lock held by pid " ++ toString holder.owner ++ "\n" },
        opened)

def accessTime (settings : Settings) (process : ProcessId) (host : Host) (path : String)
    (precise : Bool) : Outcome :=
  let bridge := Bridge.ofStandardInput process
    { settings with preciseAccessTime := precise || settings.preciseAccessTime }
  match bridge.accessMilliseconds host path with
  | .ok time =>
    let written := (Calendar.timestamp? time.toInt).getD ""
    { output := toString time.toInt ++ " " ++ written ++ "\n" }
  | .error failure => { Outcome.ofFailure failure with output := "-1\n" }

/-- Takes the lock of a user and leaves it in place, in the name of the process that started this
one. -/
def mailLock (settings : Settings) (process : ProcessId) (host : Host) (user : String)
    (retries : UInt32) : Outcome × Host :=
  let parent := ((host.process process).map Process.parent).getD 0
  let locker : Locker :=
    { process := process, settings := settings.mail, owner := some (.ofNat parent) }
  match locker.acquire host user retries with
  | (.success, held, after) =>
    ({ output := held.persist.1.elim "" fun path => path ++ "\n" }, after)
  | (status, _, after) => (.ofFailure (.mailLock status), after)

/-- Takes over the lock of a user that is there, and does something with it. -/
def adopting (settings : Settings) (process : ProcessId) (host : Host) (user : String)
    (action : Locker → Host → Host) : Outcome × Host :=
  let locker : Locker := { process := process, settings := settings.mail }
  match locker.adopt host user with
  | (.success, held) => ({}, action held host)
  | (status, _) => (.ofFailure (.mailLock status), host)

def mailRun (programs : Programs) (settings : Settings) (process : ProcessId) (host : Host)
    (user : String) (retries : UInt32) (command : List String) : Outcome × Host :=
  let bridge := Bridge.ofStandardInput process settings
  match bridge.lockMail host user retries with
  | (.success, held, locked) =>
    let (refresher, started) := held.startRefresher locked
    let (outcome, ran) := runCommand programs started command
    (outcome, (held.unlockMail (Bridge.stopRefresher refresher ran)).2)
  | (status, _, after) => (.ofFailure (.mailLock status), after)

def mailAction (programs : Programs) (settings : Settings) (process : ProcessId) (host : Host)
    (user : String) : MailAction → Outcome × Host
  | .lock retries => mailLock settings process host user retries
  | .unlock => adopting settings process host user fun held host => (held.release host).2
  | .touch => adopting settings process host user Locker.refresh
  | .run retries command => mailRun programs settings process host user retries command

def inbox (programs : Programs) (settings : Settings) (process : ProcessId) (host : Host)
    (user : String) (mode : LockMode) (retries : UInt32) (command : List String) :
    Outcome × Host :=
  let bridge := Bridge.ofStandardInput process settings
  match SpoolGuard.acquire bridge host user mode.tag retries with
  | (.error (failure, _), after) => (.ofFailure failure, after)
  | (.ok guard, locked) =>
    let told := "Locked spool " ++ guard.path ++ " (" ++ guard.mode.name ++ ")\n"
    let (outcome, ran) := runCommand programs locked command
    (outcome.after told, (guard.drop ran).2)

/-- Does an operation. Nothing is given when it is never over. -/
def operate (programs : Programs) (settings : Settings) (process : ProcessId) (host : Host) :
    Operation → Option (Outcome × Host)
  | .lock path mode waits command => lock programs settings process host path mode waits command
  | .probe path mode => some (probe settings process host path mode)
  | .accessTime path precise => some (accessTime settings process host path precise, host)
  | .mail user action => some (mailAction programs settings process host user action)
  | .inbox user mode retries command =>
    some (inbox programs settings process host user mode retries command)

def run (programs : Programs) (invocation : Invocation) (process : ProcessId) (host : Host) :
    Option (Outcome × Host) :=
  let (loaded, read) :=
    match invocation.settings with
    | some path => Settings.load host process path
    | none => Settings.loadDefault host process
  match loaded.bind Settings.validate with
  | .error failure => some (.ofFailure failure, read)
  | .ok settings => operate programs settings process read invocation.operation

/-- Runs the program: a process is started by another one with an environment and arguments, does
what they ask for, and ends. -/
def runProgram (programs : Programs) (host : Host) (parent : ProcessId)
    (environment : List (String × String)) (arguments : List String) : Option (Outcome × Host) :=
  let (process, started) := host.spawn parent environment
  match ofArguments arguments with
  | .error refusal => some (.ofRefusal refusal, started.exit process)
  | .ok invocation =>
    (invocation.run programs process started).map fun (outcome, after) =>
      (outcome, after.exit process)

end Invocation

end MailSpool

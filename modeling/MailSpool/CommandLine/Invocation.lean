import MailSpool.CommandLine.Reading
import MailSpool.LockMode

/-!
# Invocations

What the arguments of the program ask for: which settings are read, and one operation on locks,
access times or mailboxes.
-/

namespace MailSpool

/-- What is to be done with the mailbox lock of a user. -/
inductive MailAction where
  /-- The lock is taken and left in place. -/
  | lock (retries : UInt32)
  | unlock
  | touch
  /-- A command runs while the lock is held. -/
  | run (retries : UInt32) (command : List String)
  deriving DecidableEq, Repr

/-- What the program is to do. -/
inductive Operation where
  /-- A file is locked while a command runs, or until a signal comes if there is no command. -/
  | lock (path : String) (mode : LockMode) (waits : Bool) (command : List String)
  | probe (path : String) (mode : LockMode)
  | accessTime (path : String) (precise : Bool)
  | mail (user : String) (action : MailAction)
  /-- A command runs while both locks of a mailbox are held. -/
  | inbox (user : String) (mode : LockMode) (retries : UInt32) (command : List String)
  deriving DecidableEq, Repr

/-- What the arguments of the program ask for. -/
structure Invocation where
  /-- The file of the settings, if one is given. -/
  settings : Option String
  operation : Operation
  deriving DecidableEq, Repr

namespace Invocation

def programName : String := "mboxlock"

def version : String := "0.1.0"

def settingsOption : OptionRule :=
  { name := "config", value := some (.path "CONFIG") }

def modeOption : OptionRule :=
  { name := "mode", value := some (.oneOf "MODE" ["r", "rw"]) }

def retriesOption : OptionRule :=
  { name := "retries", value := some (.count "RETRIES") }

def userOption : OptionRule :=
  { name := "user", value := some (.any "USER"), required := true }

def program : CommandRule where
  name := programName
  about := "Advisory file locks, access times and UNIX mailbox dotlocks"
  options := [settingsOption]
  subcommands := ["lock", "probe", "atime", "mail", "inbox", "help"]
  hasVersion := true

def lockRule : CommandRule where
  name := programName ++ " lock"
  about := "Hold an advisory lock on a file while a command runs (or until a signal)"
  options := [settingsOption, modeOption, { name := "wait" }]
  takesPath := true
  trailing := some false

def probeRule : CommandRule where
  name := programName ++ " probe"
  about := "Report whether another process holds a conflicting advisory lock"
  options := [settingsOption, modeOption]
  takesPath := true

def accessTimeRule : CommandRule where
  name := programName ++ " atime"
  about := "Print the last access time of a path in milliseconds"
  options := [settingsOption, { name := "precise" }]
  takesPath := true

def mailRule : CommandRule where
  name := programName ++ " mail"
  about := "Mailbox dotlock operations"
  options := [settingsOption]
  subcommands := ["lock", "unlock", "touch", "run", "help"]

def mailLockRule : CommandRule where
  name := programName ++ " mail lock"
  about := "Create the dotlock and leave it in place"
  options := [settingsOption, userOption, retriesOption]

def mailUnlockRule : CommandRule where
  name := programName ++ " mail unlock"
  about := "Remove a dotlock"
  options := [settingsOption, userOption]

def mailTouchRule : CommandRule where
  name := programName ++ " mail touch"
  about := "Refresh a dotlock's timestamp"
  options := [settingsOption, userOption]

def mailRunRule : CommandRule where
  name := programName ++ " mail run"
  about := "Run a command while holding the dotlock"
  options := [settingsOption, userOption, retriesOption]
  trailing := some true

def inboxRule : CommandRule where
  name := programName ++ " inbox"
  about := "Run a command with the user's spool dotlocked and fcntl-locked"
  options := [settingsOption, userOption, modeOption, retriesOption]
  trailing := some true

def helpAbout : String := "Print this message or the help of the given subcommand(s)"

/-- All commands. The name of a command starts with that of the command it belongs to. -/
def rules : List CommandRule :=
  [program, lockRule, probeRule, accessTimeRule, mailRule, mailLockRule, mailUnlockRule,
    mailTouchRule, mailRunRule, inboxRule, { name := programName ++ " help", about := helpAbout },
    { name := programName ++ " mail help", about := helpAbout }]

/-- The command of a name right below another one. -/
def below? (rule : CommandRule) (name : String) : Option CommandRule :=
  if rule.subcommands.contains name then
    rules.find? fun below => below.name = rule.name ++ " " ++ name
  else none

/-- Shows how a command is used, or the one below it that the arguments lead to. -/
def help (rule : CommandRule) : List String → Refusal
  | [] => .help rule.name rule.about
  | name :: rest =>
    match below? rule name with
    | some below => help below rest
    | none => .fault rule.name (.unknownSubcommand name)

end Invocation

namespace Reading

def has (reading : Reading) (name : String) : Bool :=
  (reading.options.lookup name).isSome

/-- The mode that was asked for; a lock is exclusive if nothing else is said. -/
def mode (reading : Reading) : LockMode :=
  .ofTag ((reading.options.lookup "mode").getD "rw")

/-- The number of retries that was asked for; it is five if nothing else is said. -/
def retries (reading : Reading) : UInt32 :=
  match reading.options.lookup "retries" with
  | none => 5
  | some text => .ofInt ((ValueRule.signed text).toOption.getD 0)

def user (reading : Reading) : String :=
  (reading.options.lookup "user").getD ""

def pathGiven (reading : Reading) : String :=
  reading.path.getD ""

end Reading

namespace Invocation

/-- A command that was read, with the file of the settings if it names one. -/
def reading (rule : CommandRule) (arguments : List String) (operation : Reading → Operation) :
    Except Refusal (Option String × Operation) :=
  (Reading.ofArguments rule arguments).map fun read =>
    (read.options.lookup settingsOption.name, operation read)

/-- Reads what a command does with subcommands, given how each of them is read. The settings named
last count. -/
def dispatch (rule : CommandRule) (arguments : List String)
    (read : String → List String → Except Refusal (Option String × Operation)) :
    Except Refusal (Option String × Operation) :=
  match Reading.all rule {} arguments with
  | .error refusal => .error refusal
  | .ok (outer, none) => (outer.finish rule false).bind fun _ =>
    .error (.fault rule.name (.subcommandMissing rule.name))
  | .ok (outer, some (name, rest)) =>
    match read name rest with
    | .error refusal => .error refusal
    | .ok (settings, operation) =>
      (outer.finish rule true).map fun finished =>
        (settings <|> finished.options.lookup settingsOption.name, operation)

def mail (name : String) (arguments : List String) : Except Refusal (Option String × Operation) :=
  match name with
  | "lock" =>
    reading mailLockRule arguments fun read => .mail read.user (.lock read.retries)
  | "unlock" => reading mailUnlockRule arguments fun read => .mail read.user .unlock
  | "touch" => reading mailTouchRule arguments fun read => .mail read.user .touch
  | "run" =>
    reading mailRunRule arguments fun read => .mail read.user (.run read.retries read.command)
  | _ => .error (help mailRule arguments)

def subcommand (name : String) (arguments : List String) :
    Except Refusal (Option String × Operation) :=
  match name with
  | "lock" =>
    reading lockRule arguments fun read =>
      .lock read.pathGiven read.mode (read.has "wait") read.command
  | "probe" => reading probeRule arguments fun read => .probe read.pathGiven read.mode
  | "atime" =>
    reading accessTimeRule arguments fun read => .accessTime read.pathGiven (read.has "precise")
  | "mail" => dispatch mailRule arguments mail
  | "inbox" =>
    reading inboxRule arguments fun read =>
      .inbox read.user read.mode read.retries read.command
  | _ => .error (help program arguments)

def ofArguments (arguments : List String) : Except Refusal Invocation :=
  (dispatch program arguments subcommand).map fun (settings, operation) =>
    { settings := settings, operation := operation }

end Invocation

end MailSpool

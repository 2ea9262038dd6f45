import MailSpool.CommandLine.Run
import MailSpool.Proofs.Dotlock.Conceding
import MailSpool.Proofs.Settings.Validity

/-!
# Running mailbox commands

Each command on the mailbox lock of a user is a process of its own. It reads the settings and acts
as a locker that holds nothing; what commands have in common is what they find in the files and the
environment. Running one comes down to one call of a locker: see `run_lock`, `run_touch` and
`run_unlock`.
-/

namespace MailSpool

/-- One who runs commands on the mailbox lock of a user, always in the same environment and with the
same file of settings, if one is named. -/
structure MailClient where
  programs : Programs
  environment : List (String × String)
  config : Option String
  user : String

namespace MailClient

variable (client : MailClient) (settings : Settings) (host : Host) (parent : ProcessId)

/-- Arguments ask for an operation. -/
def AsksFor (arguments : List String) (operation : Operation) : Prop :=
  Invocation.ofArguments arguments = .ok { settings := client.config, operation := operation }

/-- Arguments ask for a `MailAction` to be done with the lock. -/
def Asks (arguments : List String) (action : MailAction) : Prop :=
  Invocation.ofArguments arguments =
    .ok { settings := client.config, operation := .mail client.user action }

/-- A command is started by a process, and runs to its end. -/
def run (arguments : List String) : Option (Outcome × Host) :=
  Invocation.runProgram client.programs host parent client.environment arguments

/-- The file of the settings. -/
def configPath? : Option String :=
  client.config.or (client.environment.lookup Settings.fileVariable)

/-- What a process reads as settings, and the host on which it has read them. -/
def load (process : ProcessId) : Except Failure Settings × Host :=
  match client.configPath? with
  | some path => Settings.load host process path
  | none => (.ok {}, host)

/-- What the commands read as settings on a host. -/
def Reads : Prop :=
  (client.load host host.nextProcess).1 = .ok settings

def lockPath : Except MailLockStatus String :=
  settings.mail.lockPath (client.environment.lookup "MAIL") client.user

/-- The host on which a command has read its settings. -/
def ready : Host :=
  (client.load (host.spawn parent client.environment).2 host.nextProcess).2

end MailClient

/-- The locker of a command that is started on a host, with the owner that it records. -/
def Host.commandLocker (host : Host) (settings : Settings) (owner : Option UInt32) : Locker where
  process := host.nextProcess
  settings := settings.mail
  owner := owner

namespace MailClient

variable {client : MailClient} {settings : Settings} {host : Host} {parent : ProcessId}
  {arguments : List String} {action : MailAction}

/-! ## The process of a command -/

theorem valueOf_spawn (host : Host) (parent : ProcessId) (environment : List (String × String))
    (name : String) :
    (host.spawn parent environment).2.valueOf host.nextProcess name = environment.lookup name := by
  simp [Host.spawn, Host.valueOf, Process.valueOf]

theorem validate_of_reads (reads : client.Reads settings host) :
    settings.validate = .ok settings := by
  unfold Reads load at reads
  split at reads
  · exact Settings.validate_eq_ok_iff.mpr ⟨Settings.valid_of_ofContent reads, rfl⟩
  · cases reads
    decide +kernel

theorem load_fst_congr {after : Host} (files : after.files = host.files)
    (process reader : ProcessId) :
    (client.load after reader).1 = (client.load host process).1 := by
  unfold load
  split
  case h_1 path _ => exact congrArg (Settings.ofContent path) (Host.read_fst_congr files _ _ path)
  case h_2 => rfl

theorem load_spawn (parent : ProcessId) (reads : client.Reads settings host) :
    client.load (host.spawn parent client.environment).2 host.nextProcess =
      (.ok settings, client.ready host parent) := by
  have files : (host.spawn parent client.environment).2.files = host.files := rfl
  exact Prod.ext ((load_fst_congr files _ _).trans reads) rfl

theorem run_eq_operate {operation : Operation} (asks : client.AsksFor arguments operation)
    (reads : client.Reads settings host) :
    client.run host parent arguments =
      (Invocation.operate client.programs settings host.nextProcess (client.ready host parent)
        operation).map fun (outcome, after) => (outcome, after.exit host.nextProcess) := by
  have loaded := load_spawn parent reads
  have started : (host.spawn parent client.environment).1 = host.nextProcess := rfl
  unfold load configPath? at loaded
  unfold run Invocation.runProgram Invocation.run
  simp only [started]
  rw [asks]
  rcases named : client.config with _ | path
  · simp only [named, Option.none_or] at loaded ⊢
    unfold Settings.loadDefault
    simp only [valueOf_spawn]
    rcases value : client.environment.lookup Settings.fileVariable with _ | path
    · simp only [value, Prod.mk.injEq, Except.ok.injEq] at loaded ⊢
      have valid := validate_of_reads reads
      rw [← loaded.1] at valid ⊢
      simp only [← loaded.2, Except.bind, valid]
    · simp only [value] at loaded ⊢
      simp only [loaded, Except.bind, validate_of_reads reads]
  · simp only [named, Option.some_or] at loaded ⊢
    simp only [loaded, Except.bind, validate_of_reads reads]

theorem run_eq (asks : client.Asks arguments action) (reads : client.Reads settings host) :
    client.run host parent arguments =
      some ((Invocation.mailAction client.programs settings host.nextProcess
          (client.ready host parent) client.user action).1,
        (Invocation.mailAction client.programs settings host.nextProcess
          (client.ready host parent) client.user action).2.exit host.nextProcess) := by
  have asksFor : client.AsksFor arguments (.mail client.user action) := asks
  rw [run_eq_operate asksFor reads]
  rfl

/-! ## The host of a command -/

/-- To be `ready`, with the settings read, may cost a process a record lock, by `loseLock`, and
changes nothing else. -/
theorem ready_cases (client : MailClient) (host : Host) (parent : ProcessId) :
    client.ready host parent = (host.spawn parent client.environment).2 ∨
      ∃ file, client.ready host parent =
        (host.spawn parent client.environment).2.loseLock host.nextProcess file := by
  unfold ready load
  split
  case h_1 path _ =>
    rcases Host.read_snd (host.spawn parent client.environment).2 host.nextProcess path with
      same | ⟨file, _, _, same⟩
    · exact Or.inl same
    · exact Or.inr ⟨file, same⟩
  case h_2 => exact Or.inl rfl

/-- A command starts on the host as it is. -/
structure Starts (client : MailClient) (host : Host) (parent : ProcessId) (started : Host) :
    Prop where
  files : started.files = host.files
  now : started.now = host.now
  agenda : started.agenda = host.agenda
  writeFault : started.writeFault = host.writeFault
  draw : ∀ bound, (started.draw bound).1 = (host.draw bound).1
  parent : (started.process host.nextProcess).map Process.parent = some parent
  value : ∀ name, started.valueOf host.nextProcess name = client.environment.lookup name

theorem starts_ready (client : MailClient) (host : Host) (parent : ProcessId) :
    client.Starts host parent (client.ready host parent) := by
  have spawned : client.Starts host parent (host.spawn parent client.environment).2 :=
    ⟨rfl, rfl, rfl, rfl, fun _ => rfl, by simp [Host.spawn], valueOf_spawn host parent _⟩
  rcases client.ready_cases host parent with same | ⟨file, same⟩
  · exact same ▸ spawned
  · rw [same]
    exact ⟨spawned.files, spawned.now, spawned.agenda, spawned.writeFault, spawned.draw,
      spawned.parent, spawned.value⟩

theorem Starts.canPrepare {started : Host} {lock : String}
    (starts : client.Starts host parent started)
    (able : host.CanPrepare (temporaryPath lock host.nextProcess (host.draw UInt32.size).1)) :
    started.CanPrepare (temporaryPath lock host.nextProcess (started.draw UInt32.size).1) := by
  unfold Host.CanPrepare Host.IsVacant at able ⊢
  rwa [starts.draw, starts.files, starts.writeFault]

variable {lock : String}

theorem lockPath_commandLocker (client : MailClient) (settings : Settings) (host : Host)
    (parent : ProcessId) (owner : Option UInt32) :
    (host.commandLocker settings owner).lockPath (client.ready host parent) client.user =
      client.lockPath settings := by
  unfold Locker.lockPath lockPath Host.commandLocker
  rw [(client.starts_ready host parent).value]

theorem lockPath_ready (host : Host) (parent : ProcessId) (owner : Option UInt32)
    (isLock : client.lockPath settings = .ok lock) :
    (host.commandLocker settings owner).lockPath (client.ready host parent) client.user =
      .ok lock :=
  (client.lockPath_commandLocker settings host parent owner).trans isLock

/-! ## What a command does -/

/-- A command that is to take the lock calls `acquire` for its `commandLocker`, in the name of the
process that has started the command, and ends with a code that tells how this went. -/
theorem run_lock {retries : UInt32} (asks : client.Asks arguments (.lock retries))
    (reads : client.Reads settings host) :
    ∃ status held left outcome,
      (host.commandLocker settings (some (.ofNat parent))).acquire (client.ready host parent)
          client.user retries = (status, held, left) ∧
        client.run host parent arguments = some (outcome, left.exit host.nextProcess) ∧
        (outcome.code = 0 ↔ status = .success) ∧ (status = .maxTries → outcome.code = 75) := by
  rw [run_eq asks reads]
  unfold Invocation.mailAction Invocation.mailLock Host.commandLocker
  simp only [(client.starts_ready host parent).parent, Option.getD_some]
  generalize Locker.acquire _ (client.ready host parent) client.user retries = taken
  rcases taken with ⟨status, held, left⟩
  cases status with
  | success => exact ⟨_, _, _, _, rfl, rfl, by simp⟩
  | maxTries => exact ⟨_, _, _, _, rfl, rfl, by simp [Outcome.ofFailure, Failure.exitCode]⟩
  | _ => exact ⟨_, _, _, _, rfl, rfl, by simp [Outcome.ofFailure, Failure.exitCode]⟩

/-- `adopting` takes over a lock that is there. -/
theorem adopting_eq {file : FileId} (isLock : client.lockPath settings = .ok lock)
    (named : host.named? lock = some file) (action : Locker → Host → Host) :
    Invocation.adopting settings host.nextProcess (client.ready host parent) client.user action =
      ({}, action { host.commandLocker settings none with
        held := some { user := client.user, path := lock } } (client.ready host parent)) := by
  have files := (client.starts_ready host parent).files
  rw [← Host.named?_congr files] at named
  rcases Host.named?_eq_some_iff.mp named with ⟨found, looked⟩
  unfold Invocation.adopting Locker.adopt
  have stillLock : Locker.lockPath { process := host.nextProcess, settings := settings.mail }
      (client.ready host parent) client.user = .ok lock :=
    lockPath_ready host parent none isLock
  simp only [stillLock, looked]
  rfl

/-- A command that touches a lock touches it and does not fail. -/
theorem run_touch {file : FileId} (asks : client.Asks arguments .touch)
    (reads : client.Reads settings host) (isLock : client.lockPath settings = .ok lock)
    (named : host.named? lock = some file) :
    client.run host parent arguments =
      some ({}, (RefreshTask.run { process := host.nextProcess, path := lock }
        (client.ready host parent)).exit host.nextProcess) := by
  rw [run_eq asks reads]
  simp only [Invocation.mailAction, adopting_eq isLock named]
  rfl

/-- A command that gives back a lock does so and does not fail. -/
theorem run_unlock {file : FileId} (asks : client.Asks arguments .unlock)
    (reads : client.Reads settings host) (isLock : client.lockPath settings = .ok lock)
    (named : host.named? lock = some file) :
    ∃ after, client.run host parent arguments = some ({}, after) ∧
      after.files = (client.ready host parent).remaining lock := by
  rw [run_eq asks reads]
  simp only [Invocation.mailAction, adopting_eq isLock named]
  refine ⟨_, rfl, ?_⟩
  exact Locker.files_release _ _

end MailClient

end MailSpool

import MailSpool.Proofs.CommandLine.Maintenance
import MailSpool.Proofs.Dotlock.Refusal
import MailSpool.Proofs.Guard.Failure
import MailSpool.Proofs.Guard.Unwinding

/-!
# Running another command under a lock

Two commands start another one under the lock of a user: one takes the lock file only, the other one
both locks of the mailbox. The other command is a program that does whatever it does to the host,
and ends in whatever way. It is started only on a host where the locks are held, and it finds the
lock file there until its end as long as nobody removes it. Then the lock file is given back on
every way to the end, and a command that was refused a lock leaves no lock file of its own. What a
run comes to is `RunsLocked` or `EndsRefused`, and `runs_locked_only` puts them together.
-/

namespace MailSpool

open FileSystem

/-! ## The command to be started -/

/-- The command that an operation starts under the lock of a user. -/
def Operation.guarded? : Operation → Option (List String)
  | .mail _ (.run _ command) => some command
  | .inbox _ _ _ command => some command
  | .mail _ (.lock _) | .mail _ .unlock | .mail _ .touch => none
  | .lock _ _ _ _ | .probe _ _ | .accessTime _ _ => none

theorem Reading.command_ne_nil_of_ofArguments {rule : CommandRule} {arguments : List String}
    {reading : Reading} (needs : rule.trailing = some true)
    (isRead : Reading.ofArguments rule arguments = .ok reading) : reading.command ≠ [] := by
  unfold ofArguments at isRead
  split at isRead
  case h_1 => simp at isRead
  case h_2 outer _ _ =>
    unfold finish at isRead
    split at isRead
    case h_1 => simp at isRead
    case h_2 settled _ =>
      split at isRead
      case isTrue => split at isRead <;> simp at isRead
      case isFalse =>
        split at isRead
        case isTrue complete =>
          cases isRead
          simp only [isComplete, needs, Bool.and_eq_true] at complete
          simpa using complete.2
        case isFalse => simp at isRead

namespace Invocation

variable {rule : CommandRule} {arguments : List String} {config : Option String}
  {operation : Operation}

theorem exists_reading_of_reading {form : Reading → Operation}
    (isRead : reading rule arguments form = .ok (config, operation)) :
    ∃ read, Reading.ofArguments rule arguments = .ok read ∧ operation = form read := by
  rcases map_eq_ok_iff.mp isRead with ⟨read, isReading, same⟩
  exact ⟨read, isReading, (congrArg Prod.snd same).symm⟩

/-- The operation that `dispatch` leads to is that of a subcommand. -/
theorem exists_read_of_dispatch
    {read : String → List String → Except Refusal (Option String × Operation)}
    (isRead : dispatch rule arguments read = .ok (config, operation)) :
    ∃ name rest inner, read name rest = .ok (inner, operation) := by
  unfold dispatch at isRead
  split at isRead
  case h_1 => simp at isRead
  case h_2 outer _ =>
    rcases result : outer.finish rule false with refusal | finished
    · simp [result, Except.bind] at isRead
    · simp [result, Except.bind] at isRead
  case h_3 outer name rest _ =>
    rcases result : read name rest with refusal | ⟨inner, found⟩
    · simp [result] at isRead
    · simp only [result] at isRead
      rcases map_eq_ok_iff.mp isRead with ⟨_, _, same⟩
      cases same
      exact ⟨name, rest, inner, result⟩

theorem command_ne_nil_of_reading {form : Reading → Operation}
    (isRead : reading rule arguments form = .ok (config, operation))
    (takes : ∀ read command, (form read).guarded? = some command →
      rule.trailing = some true ∧ command = read.command) {command : List String}
    (guarded : operation.guarded? = some command) : command ≠ [] := by
  rcases exists_reading_of_reading isRead with ⟨read, isReading, rfl⟩
  rcases takes read command guarded with ⟨needs, rfl⟩
  exact Reading.command_ne_nil_of_ofArguments needs isReading

theorem command_ne_nil_of_mail {name : String}
    (isRead : mail name arguments = .ok (config, operation)) {command : List String}
    (guarded : operation.guarded? = some command) : command ≠ [] := by
  unfold mail at isRead
  split at isRead
  case h_1 | h_2 | h_3 =>
    exact command_ne_nil_of_reading isRead (by simp [Operation.guarded?]) guarded
  case h_4 =>
    refine command_ne_nil_of_reading isRead ?_ guarded
    exact fun read command isCommand => ⟨rfl, (Option.some.inj isCommand).symm⟩
  case h_5 => simp at isRead

theorem command_ne_nil_of_ofArguments {invocation : Invocation}
    (asks : ofArguments arguments = .ok invocation) {command : List String}
    (guarded : invocation.operation.guarded? = some command) : command ≠ [] := by
  unfold ofArguments at asks
  rcases map_eq_ok_iff.mp asks with ⟨⟨config, operation⟩, result, rfl⟩
  rcases exists_read_of_dispatch result with ⟨name, rest, inner, isRead⟩
  unfold subcommand at isRead
  split at isRead
  case h_1 | h_2 | h_3 =>
    exact command_ne_nil_of_reading isRead (by simp [Operation.guarded?]) guarded
  case h_4 =>
    rcases exists_read_of_dispatch isRead with ⟨_, _, _, isMail⟩
    exact command_ne_nil_of_mail isMail guarded
  case h_5 =>
    refine command_ne_nil_of_reading isRead ?_ guarded
    exact fun read command isCommand => ⟨rfl, (Option.some.inj isCommand).symm⟩
  case h_6 => simp at isRead

end Invocation

/-! ## While the lock is held -/

namespace Host

variable {host after start : Host} {lock : String} {file : FileId}

/-- A file that can be removed is at the path of a lock. -/
structure HasLock (host : Host) (lock : String) (file : FileId) : Prop where
  named : host.named? lock = some file
  plain : host.files.directory? file = none

theorem HasLock.of_files (has : host.HasLock lock file) (files : after.files = host.files) :
    after.HasLock lock file :=
  ⟨(named?_congr files lock).trans has.named, files ▸ has.plain⟩

/-- A `Deed` that removes nothing leaves the lock where it is. -/
theorem HasLock.perform (has : host.HasLock lock file) {deed : Deed}
    (removesNothing : ∀ path, deed ≠ .unlink path) : (host.perform deed).HasLock lock file where
  named := host.named?_perform removesNothing has.named
  plain := ((host.sameEntries_perform removesNothing).directory?_eq_none_iff file).mpr has.plain

theorem HasLock.keep (has : host.HasLock lock file) {appointment : Appointment}
    (removesNothing : ∀ path, appointment.deed ≠ .unlink path) :
    (host.keep appointment).HasLock lock file := by
  unfold Host.keep
  refine HasLock.perform ?_ removesNothing
  exact has.of_files rfl

/-- What becomes of a host while nobody removes a lock: what is going to happen, such as the touches
of a refresher, happens unless it removes something, and others do what leaves the lock there. -/
inductive Meanwhile (lock : String) (start : Host) : Host → Prop where
  | start : Meanwhile lock start start
  | keep {host : Host} {appointment : Appointment} (since : Meanwhile lock start host)
      (member : appointment ∈ host.agenda)
      (removesNothing : ∀ path, appointment.deed ≠ .unlink path) :
      Meanwhile lock start (host.keep appointment)
  | act {host next : Host} (since : Meanwhile lock start host)
      (leaves : ∀ file, host.HasLock lock file → next.HasLock lock file) :
      Meanwhile lock start next

theorem Meanwhile.hasLock (since : Meanwhile lock start host) (has : start.HasLock lock file) :
    host.HasLock lock file := by
  induction since with
  | start => exact has
  | keep _ _ removesNothing ih => exact ih.keep removesNothing
  | act _ leaves ih => exact leaves file ih

end Host

/-- A locker that takes a lock leaves a host that `HasLock`, and its file is new. -/
theorem Locker.exists_hasLock_of_acquire {locker next : Locker} {host after : Host}
    {user lock : String} {retries : UInt32} (sound : host.files.Sound)
    (found : locker.lockPath host user = .ok lock)
    (acquired : locker.acquire host user retries = (.success, next, after)) :
    ∃ file, host.files.file file = none ∧ after.HasLock lock file := by
  have leaves := leaves_of_acquire sound found acquired
  rcases leaves.named rfl with ⟨file, isNew, named⟩
  exact ⟨file, isNew, named,
    (leaves.inherits.directory?_eq_none_iff file).mpr (plain_of_file_eq_none isNew).1⟩

theorem Bridge.acquire_of_lockMail {bridge held : Bridge} {host after : Host} {user : String}
    {retries : UInt32} {status : MailLockStatus}
    (taken : bridge.lockMail host user retries = (status, held, after)) :
    bridge.locker.acquire host user retries = (status, held.locker, after) := by
  unfold lockMail at taken
  rcases result : bridge.locker.acquire host user retries with ⟨found, next, rest⟩
  simp only [result, Prod.mk.injEq] at taken
  rcases taken with ⟨rfl, rfl, rfl⟩
  rfl

/-- A command can be started as a process of its own: the files are sound, and nothing is known of a
process of the next number. -/
structure Host.CanSpawn (host : Host) : Prop where
  sound : host.files.Sound
  unlocked : ∀ record ∈ host.locks.held, record.owner ≠ host.nextProcess
  idle : host.locks.isWaiting host.nextProcess = false

namespace MailClient

variable {client : MailClient} {settings : Settings} {host started : Host} {parent : ProcessId}
  {arguments command : List String} {retries : UInt32} {mode : LockMode} {lock : String}

theorem isReady_ready (client : MailClient) (parent : ProcessId) (able : host.CanSpawn) :
    (client.ready host parent).IsReady host.nextProcess := by
  have few : ∀ state, (host.spawn parent client.environment).2.process host.nextProcess =
      some state → state.descriptors.length + 3 < 2147483648 := by
    intro state found
    simp only [Host.spawn, Host.process_setProcess_self, Option.some.injEq] at found
    simp [← found]
  rcases client.ready_cases host parent with same | ⟨file, same⟩
  · rw [same]
    exact ⟨able.sound, fun record member owner => absurd owner (able.unlocked record member),
      able.idle, few⟩
  · rw [same]
    have alters := LockTable.alters_release host.locks file host.nextProcess
    refine ⟨able.sound, fun record member owner => ?_, alters.isWaiting able.idle, few⟩
    rcases alters.held member with old | ⟨waiter, waits, rfl⟩
    · exact absurd owner (able.unlocked record old)
    · exact absurd owner (LockTable.isWaiting_eq_false_iff.mp able.idle waiter waits)

/-! ## How the command ends -/

/-- A client for whom other programs are there. -/
def withPrograms (client : MailClient) (programs : Programs) : MailClient :=
  { client with programs := programs }

/-- The bridge of a command that is started on a host. -/
def bridge (settings : Settings) (host : Host) : Bridge :=
  .ofStandardInput host.nextProcess settings

/-- A command ends with the code of a failure, whatever the programs are, since it starts none. What
is at the path of the lock then was there before. -/
def EndsRefused (client : MailClient) (settings : Settings) (host : Host) (parent : ProcessId)
    (arguments : List String) (failure : Failure) : Prop :=
  ∃ outcome after, outcome.code = failure.exitCode.toNat ∧
    (∀ programs, (client.withPrograms programs).run host parent arguments =
      some (outcome, after)) ∧
    ∀ lock file, client.lockPath settings = .ok lock → after.named? lock = some file →
      (host.files.file file).isSome

/-- How a command ends that has started another one: with the code of that one, or with one if it
could not be started. Nothing is at the path of the lock then. -/
def Reports (lock : String) (started : Host) (result : Except IoError ProgramRun)
    (outcome : Outcome) (after : Host) : Prop :=
  match result with
  | .error _ => outcome.code = 1 ∧ after.named? lock = none
  | .ok done =>
    outcome.code = done.status.code ∧
      (started.Meanwhile lock done.host → after.named? lock = none)

/-- A command starts another one on a host where a new file is the lock, and remains it while nobody
removes it. However the other one ends, the command ends with its code and without the lock. -/
def RunsLocked (client : MailClient) (settings : Settings) (host : Host) (parent : ProcessId)
    (arguments command : List String) (started : Host) : Prop :=
  ∃ lock file name rest, client.lockPath settings = .ok lock ∧ command = name :: rest ∧
    host.files.file file = none ∧
    (∀ present, started.Meanwhile lock present → present.HasLock lock file) ∧
    ∀ programs, ∃ outcome after,
      (client.withPrograms programs).run host parent arguments = some (outcome, after) ∧
        Reports lock started (programs name rest started) outcome after

/-- A command that ends with the removal of its lock is one that `RunsLocked`. -/
theorem runsLocked_of_ends {file : FileId} (isLock : client.lockPath settings = .ok lock)
    (filled : command ≠ []) (isNew : host.files.file file = none)
    (has : started.HasLock lock file)
    (ends : ∀ programs, ∃ outcome after,
      (client.withPrograms programs).run host parent arguments = some (outcome, after) ∧
        outcome.code = (Invocation.runCommand programs started command).1.code ∧
        after.files = (Invocation.runCommand programs started command).2.remaining lock) :
    client.RunsLocked settings host parent arguments command started := by
  rcases List.exists_cons_of_ne_nil filled with ⟨name, rest, rfl⟩
  refine ⟨lock, file, name, rest, isLock, rfl, isNew, fun _ since => since.hasLock has, ?_⟩
  intro programs
  rcases ends programs with ⟨outcome, after, ran, code, files⟩
  refine ⟨outcome, after, ran, ?_⟩
  have gone : ∀ {present : Host}, present.HasLock lock file →
      after.files = present.remaining lock → after.named? lock = none :=
    fun has files => Host.named?_eq_none_of_remaining isLock has.named has.plain files
  unfold Reports
  rcases result : programs name rest started with error | done
  · simp only [Invocation.runCommand, result] at code files
    exact ⟨code, gone has files⟩
  · simp only [Invocation.runCommand, result] at code files
    exact ⟨code, fun since => gone (since.hasLock has) files⟩

theorem run_withPrograms {operation : Operation} (asks : client.AsksFor arguments operation)
    (reads : client.Reads settings host) (programs : Programs) :
    (client.withPrograms programs).run host parent arguments =
      (Invocation.operate programs settings host.nextProcess (client.ready host parent)
        operation).map fun (outcome, after) => (outcome, after.exit host.nextProcess) := by
  have asksStill : (client.withPrograms programs).AsksFor arguments operation := asks
  have readsStill : (client.withPrograms programs).Reads settings host := reads
  exact run_eq_operate asksStill readsStill

theorem isSome_of_acquire {status : MailLockStatus} {next : Locker} {refused : Host}
    (able : host.CanSpawn)
    (taken : (bridge settings host).locker.acquire (client.ready host parent) client.user retries =
      (status, next, refused)) (failed : status ≠ .success) {file : FileId}
    (isLock : client.lockPath settings = .ok lock) (named : refused.named? lock = some file) :
    (host.files.file file).isSome := by
  have isLockReady := lockPath_ready host parent none isLock
  rw [← (client.starts_ready host parent).files]
  exact Locker.isSome_of_refused (client.isReady_ready parent able).sound isLockReady taken failed
    named

theorem exists_hasLock_of_acquire {next : Locker} {locked : Host} (able : host.CanSpawn)
    (taken : (bridge settings host).locker.acquire (client.ready host parent) client.user retries =
      (.success, next, locked)) :
    ∃ lock file, client.lockPath settings = .ok lock ∧ host.files.file file = none ∧
      locked.HasLock lock file ∧ next.heldPath? = some lock := by
  have sound := (client.isReady_ready parent able).sound
  rcases SpoolGuard.exists_lockPath_of_acquire taken with ⟨lock, found⟩
  rcases Locker.exists_hasLock_of_acquire sound found taken with ⟨file, isNew, has⟩
  refine ⟨lock, file, ?_, (client.starts_ready host parent).files ▸ isNew, has, ?_⟩
  · rw [← client.lockPath_commandLocker settings host parent none]
    exact found
  · have leaves := Locker.leaves_of_acquire sound found taken
    simp only [Locker.heldPath?, leaves.held, if_true, Option.map_some]

/-! ### Under the lock file -/

/-- A command to which `lockMail` has refused the lock file starts nothing. -/
theorem endsRefused_of_lockMail {status : MailLockStatus} {held : Bridge} {refused : Host}
    (able : host.CanSpawn) (reads : client.Reads settings host)
    (asks : client.Asks arguments (.run retries command))
    (taken : (bridge settings host).lockMail (client.ready host parent) client.user retries =
      (status, held, refused)) (failed : status ≠ .success) :
    client.EndsRefused settings host parent arguments (.mailLock status) := by
  refine ⟨.ofFailure (.mailLock status), refused.exit host.nextProcess, rfl, ?_, ?_⟩
  · intro programs
    rw [run_withPrograms asks reads]
    simp only [Invocation.operate, Invocation.mailAction, Invocation.mailRun]
    unfold bridge at taken
    rw [taken]
    cases status with
    | success => exact absurd rfl failed
    | nameLength | temporaryLock | temporaryWrite | maxTries | error => rfl
  · intro lock file isLock named
    exact isSome_of_acquire able (Bridge.acquire_of_lockMail taken) failed isLock named

/-- A command to which `lockMail` has given the lock file runs under it, with a refresher. -/
theorem runsLocked_of_lockMail {held : Bridge} {locked : Host} (able : host.CanSpawn)
    (reads : client.Reads settings host) (asks : client.Asks arguments (.run retries command))
    (taken : (bridge settings host).lockMail (client.ready host parent) client.user retries =
      (.success, held, locked)) :
    client.RunsLocked settings host parent arguments command
      (held.startRefresher locked).2 := by
  rcases exists_hasLock_of_acquire able (Bridge.acquire_of_lockMail taken) with
    ⟨lock, file, isLock, isNew, has, isHeld⟩
  have filled := Invocation.command_ne_nil_of_ofArguments asks rfl
  have startedFiles : (held.startRefresher locked).2.files = locked.files := by
    rw [SpoolGuard.startRefresher_snd]
  refine runsLocked_of_ends isLock filled isNew (has.of_files startedFiles) fun programs => ?_
  rcases ended : Invocation.runCommand programs (held.startRefresher locked).2 command with
    ⟨outcome, ran⟩
  let stopped := Bridge.stopRefresher (held.startRefresher locked).1 ran
  refine ⟨outcome, (held.unlockMail stopped).2.exit host.nextProcess, ?_, rfl, ?_⟩
  · rw [run_withPrograms asks reads]
    simp only [Invocation.operate, Invocation.mailAction, Invocation.mailRun]
    unfold bridge at taken
    rw [taken]
    simp only [ended]
    rfl
  · have isStopped : stopped = { ran with agenda := stopped.agenda } :=
      SpoolGuard.stopRefresher_eq _ ran
    have released : (held.unlockMail stopped).2.files = stopped.remaining lock :=
      Locker.files_release_of_heldPath? stopped isHeld
    have sameFiles : stopped.files = ran.files := by rw [isStopped]
    have sameTime : stopped.now = ran.now := by rw [isStopped]
    exact released.trans (Host.remaining_congr sameFiles sameTime lock)

/-! ### Under both locks -/

/-- A command that `SpoolGuard.acquire` has refused a lock starts nothing, and has given back the
lock file if it had taken it. -/
theorem endsRefused_of_acquire {failure : Failure} {freed : Bridge} {refused : Host}
    (able : host.CanSpawn) (reads : client.Reads settings host)
    (asks : client.AsksFor arguments (.inbox client.user mode retries command))
    (taken : SpoolGuard.acquire (bridge settings host) (client.ready host parent) client.user
      mode.tag retries = (.error (failure, freed), refused)) :
    client.EndsRefused settings host parent arguments failure := by
  refine ⟨.ofFailure failure, refused.exit host.nextProcess, rfl, ?_, ?_⟩
  · intro programs
    rw [run_withPrograms asks reads]
    simp only [Invocation.operate, Invocation.inbox]
    unfold bridge at taken
    rw [taken]
    rfl
  · intro lock file isLock named
    rcases SpoolGuard.cases_of_acquire_error taken with
      ⟨status, next, failed, acquired, _⟩ | ⟨next, locked, rest, notice, acquired, opening, _, rfl⟩
    · exact isSome_of_acquire able acquired failed isLock named
    · rcases exists_hasLock_of_acquire able acquired with ⟨path, made, isPath, _, has, isHeld⟩
      cases isLock.symm.trans isPath
      have hasStill : (rest.tell (bridge settings host).process notice).HasLock lock made :=
        has.of_files ((rest.files_tell _ _).trans (SpoolGuard.files_of_openLocked opening))
      have gone := Host.named?_eq_none_of_remaining isLock hasStill.named hasStill.plain
        (Locker.files_release_of_heldPath? _ isHeld)
      have stillNamed : (next.release _).2.named? lock = some file := named
      simp [gone] at stillNamed

/-- A command that has taken both locks by `SpoolGuard.acquire` runs under them. -/
theorem runsLocked_of_acquire {guard : SpoolGuard} {started : Host} (able : host.CanSpawn)
    (reads : client.Reads settings host)
    (asks : client.AsksFor arguments (.inbox client.user mode retries command))
    (taken : SpoolGuard.acquire (bridge settings host) (client.ready host parent) client.user
      mode.tag retries = (.ok guard, started)) :
    client.RunsLocked settings host parent arguments command started := by
  rcases SpoolGuard.exists_of_acquire taken with
    ⟨next, locked, secured, acquired, isBridge, _, _, opening, files, _, _⟩
  rcases exists_hasLock_of_acquire able acquired with ⟨lock, file, isLock, isNew, has, isHeld⟩
  rcases SpoolGuard.exists_of_openLocked opening with ⟨_, _, _, _, _, opens, _, _, _, rfl⟩
  have filled := Invocation.command_ne_nil_of_ofArguments asks rfl
  have stillHas : started.HasLock lock file := has.of_files (files.trans opens.files)
  refine runsLocked_of_ends isLock filled isNew stillHas fun programs => ?_
  rcases ended : Invocation.runCommand programs started command with ⟨outcome, ran⟩
  let told := "Locked spool " ++ guard.path ++ " (" ++ guard.mode.name ++ ")\n"
  refine ⟨outcome.after told, (guard.drop ran).2.exit host.nextProcess, ?_, rfl, ?_⟩
  · rw [run_withPrograms asks reads]
    simp only [Invocation.operate, Invocation.inbox]
    unfold bridge at taken
    rw [taken]
    simp only [ended]
    rfl
  · have guardHolds : guard.bridge.locker.heldPath? = some lock := by
      rw [isBridge]
      exact isHeld
    exact guard.files_drop ran guardHolds

/-- The process of a command has locked the mailbox at the `spoolPath` of its user, in a mode. -/
def HasMailbox (client : MailClient) (settings : Settings) (host : Host) (mode : LockMode)
    (started : Host) : Prop :=
  ∃ mailbox found, started.stat (settings.mail.spoolPath client.user) = .ok (mailbox, found) ∧
    { file := mailbox, owner := host.nextProcess, mode := mode } ∈ started.locks.held

/-- A command that has taken both locks has the record lock on the mailbox. -/
theorem hasMailbox_of_acquire {guard : SpoolGuard} (able : host.CanSpawn)
    (taken : SpoolGuard.acquire (bridge settings host) (client.ready host parent) client.user
      mode.tag retries = (.ok guard, started)) :
    client.HasMailbox settings host mode started := by
  rcases SpoolGuard.exists_of_acquire taken with ⟨_, _, _, _, _, isPath, isMode, _, _, _, _⟩
  have ready : (client.ready host parent).IsReady (bridge settings host).process :=
    client.isReady_ready parent able
  rcases SpoolGuard.exists_mailbox_of_acquire ready taken with
    ⟨mailbox, target, isMailbox, ⟨found, looked⟩, isTarget, locked, _⟩
  rw [SpoolGuard.target_eq_mailbox rfl isMailbox isTarget] at locked
  rw [isPath] at looked
  rw [isMode, LockMode.ofTag_tag] at locked
  exact ⟨mailbox.file, found, looked, locked⟩

/-- A command that is to run another one under locks starts it only when it has taken them: the lock
file by `lockMail`, or also the record lock on the mailbox by `SpoolGuard.acquire`. By `RunsLocked`
the lock file is there as long as the other command runs, if nobody removes it, and is gone in the
end, however the other command ended, whose code is that of the command. When a lock was refused,
`EndsRefused` says that nothing is started, that the code is that of the failure, and that no lock
file is left. -/
theorem runs_locked_only (able : host.CanSpawn) (reads : client.Reads settings host) :
    (∀ parent arguments retries command status held locked,
      client.Asks arguments (.run retries command) →
      (bridge settings host).lockMail (client.ready host parent) client.user retries =
        (status, held, locked) →
      if status = .success then
        client.RunsLocked settings host parent arguments command (held.startRefresher locked).2
      else client.EndsRefused settings host parent arguments (.mailLock status)) ∧
    ∀ parent arguments mode retries command result started,
      client.AsksFor arguments (.inbox client.user mode retries command) →
      SpoolGuard.acquire (bridge settings host) (client.ready host parent) client.user mode.tag
        retries = (result, started) →
      match result with
      | .ok _ =>
        client.RunsLocked settings host parent arguments command started ∧
          client.HasMailbox settings host mode started
      | .error (failure, _) => client.EndsRefused settings host parent arguments failure := by
  refine ⟨?_, ?_⟩
  · intro parent arguments retries command status held locked asks taken
    split
    case isTrue success =>
      subst success
      exact runsLocked_of_lockMail able reads asks taken
    case isFalse failed => exact endsRefused_of_lockMail able reads asks taken failed
  · intro parent arguments mode retries command result started asks taken
    cases result with
    | ok guard =>
        exact ⟨runsLocked_of_acquire able reads asks taken, hasMailbox_of_acquire able taken⟩
    | error refusal => exact endsRefused_of_acquire able reads asks taken

/-- A user whose settings are in a file. -/
def fileClient : MailClient :=
  { rootClient with environment := [("MAIL", "/u"), (Settings.fileVariable, "/c")] }

def rootSettings : Settings where
  mail := { spoolDirectory := "/" }

/-- The mailbox of a user, and the file of the settings. -/
def mailboxFiles : FileSystem :=
  let text := "\x7b\"mail\": \x7b\"spool_dir\": \"/\"\x7d\x7d"
  (((empty 0).make root "u" (.regular .empty) 0).2.make root "c" (.regular text.toUTF8) 0).2

def mailboxHost : Host :=
  { bareHost with files := mailboxFiles }

/-- Every program is killed and has done nothing. -/
def killed : Programs :=
  fun _ _ host => .ok { status := .killed 9, output := "", host := host }

theorem canSpawn_mailboxHost : mailboxHost.CanSpawn where
  sound := by
    have mailbox : ((empty 0).make root "u" (.regular .empty) 0).2.Sound := by
      apply (sound_empty 0).make
      · decide +kernel
      · decide +kernel
    have settings : mailboxFiles.Sound := by
      apply mailbox.make
      · decide +kernel
      · decide +kernel
    exact settings
  unlocked record member := by simp [mailboxHost, bareHost, Host.boot] at member
  idle := by decide +kernel

theorem reads_mailboxHost : fileClient.Reads rootSettings mailboxHost := by
  unfold Reads
  decide +kernel

theorem asks_run :
    fileClient.Asks ["mail", "run", "--user", "u", "--", "x"] (.run 5 ["x"]) := by
  unfold Asks
  decide +kernel

theorem asks_inbox :
    fileClient.AsksFor ["inbox", "--user", "u", "--", "x"]
      (.inbox fileClient.user .write 5 ["x"]) := by
  unfold AsksFor
  decide +kernel

theorem runs_locked_only_mailboxHost :
    mailboxHost.CanSpawn ∧ fileClient.Reads rootSettings mailboxHost ∧
      (∃ outcome after, (fileClient.withPrograms killed).run mailboxHost 1
          ["mail", "run", "--user", "u", "--", "x"] = some (outcome, after) ∧
        outcome.code = 137 ∧ after.named? "/u.lock" = none) ∧
      ∃ started, fileClient.RunsLocked rootSettings mailboxHost 1
          ["inbox", "--user", "u", "--", "x"] ["x"] started ∧
        fileClient.HasMailbox rootSettings mailboxHost .write started := by
  rcases runs_locked_only canSpawn_mailboxHost reads_mailboxHost with ⟨mail, inbox⟩
  refine ⟨canSpawn_mailboxHost, reads_mailboxHost, ?_, ?_⟩
  · have success : ((bridge rootSettings mailboxHost).lockMail (fileClient.ready mailboxHost 1)
      fileClient.user 5).1 = .success := by decide +kernel
    rcases taken : (bridge rootSettings mailboxHost).lockMail (fileClient.ready mailboxHost 1)
      fileClient.user 5 with ⟨status, held, locked⟩
    rw [taken] at success
    have ran := mail 1 _ _ _ status held locked asks_run taken
    rw [if_pos success] at ran
    rcases ran with ⟨lock, file, name, rest, isLock, _, _, _, ends⟩
    have isRoot : fileClient.lockPath rootSettings = .ok "/u.lock" := by decide +kernel
    cases isLock.symm.trans isRoot
    rcases ends killed with ⟨outcome, after, ended, code, gone⟩
    exact ⟨outcome, after, ended, code, gone .start⟩
  · have obtained : (SpoolGuard.acquire (bridge rootSettings mailboxHost)
      (fileClient.ready mailboxHost 1) fileClient.user LockMode.write.tag 5).1.isOk = true := by
      decide +kernel
    rcases taken : SpoolGuard.acquire (bridge rootSettings mailboxHost)
      (fileClient.ready mailboxHost 1) fileClient.user LockMode.write.tag 5 with ⟨result, started⟩
    rw [taken] at obtained
    have ran := inbox 1 _ _ _ _ result started asks_inbox taken
    cases result with
    | error refusal => simp [Except.isOk, Except.toBool] at obtained
    | ok guard => exact ⟨started, ran⟩

end MailClient

end MailSpool

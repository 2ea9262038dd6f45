import MailSpool.Proofs.CommandLine.LeftInPlace

/-!
# Maintaining a lock

A command that gives back the lock of a user, or touches it, looks whether something is at the path
of the lock, and ends with zero if there is. Then nothing is at the path any more, or the entry
there has the time of the command, as long as the call that was to do this could not fail: the entry
is no directory, which is not removed, and no symbolic link, which is followed. A call that fails
does not show in the code with which the command ends. The two sides of this are `done_of_exit_zero`
and `nothing_done_at_exit_zero`.
-/

namespace MailSpool

open FileSystem

namespace Host

variable {host : Host} {path : String} {id : FileId}

theorem named?_eq_none_of_not_isOccupied (free : host.files.isOccupied path = false) :
    host.named? path = none := by
  rw [Option.eq_none_iff_forall_ne_some]
  intro file named
  rcases named?_eq_some_iff_names.mp named with ⟨_, ⟨place, located, ends⟩, _⟩
  simp [isOccupied, located, ends] at free

/-- What is `remaining` of a host when the path of a lock is removed has nothing there, unless a
directory was. -/
theorem not_isOccupied_remaining {last : Char} (ends : path.toList.getLast? = some last)
    (noSlash : last ≠ '/') (noDot : last ≠ '.') (named : host.named? path = some id)
    (plain : host.files.directory? id = none) : (host.remaining path).isOccupied path = false := by
  rcases named?_eq_some_iff_names.mp named with ⟨writable, ⟨place, located, isFile⟩, _⟩
  rcases entry_of_locate ends noSlash noDot located with ⟨directory, name, found, rfl⟩
  obtain rfl : found = some id := isFile
  rcases exists_unlink_of_liesAt writable located plain with ⟨rest, removed⟩
  rw [remaining_of_unlink removed]
  exact not_isOccupied_of_unlink (unlink_eq_ok removed).1

theorem named?_eq_none_of_remaining {settings : MailSettings} {mail : Option String}
    {user lock : String} {after : Host} (isLock : settings.lockPath mail user = .ok lock)
    (named : host.named? lock = some id) (plain : host.files.directory? id = none)
    (files : after.files = host.remaining lock) : after.named? lock = none := by
  apply named?_eq_none_of_not_isOccupied
  rw [files]
  exact not_isOccupied_remaining (getLast?_lockPath isLock) (by decide) (by decide) named plain

/-- A `RefreshTask` whose path names no symbolic link gives the entry there the time of the host. -/
theorem lstat_of_run_task (process : ProcessId) (named : host.named? path = some id)
    (plain : host.files.target? id = none) :
    ∃ found, (RefreshTask.run { process := process, path := path } host).lstat path =
        .ok (id, found) ∧ found.modified = host.now := by
  rcases named?_eq_some_iff_names.mp named with ⟨writable, names, known⟩
  rcases exists_stat_of_names writable names plain known with ⟨old, looked⟩
  rcases exists_touch looked with ⟨after, touched⟩
  rcases touch_spec (touch_eq_ok touched).1 with ⟨other, found, isFound, given, same, _, _⟩
  cases (stat_eq_ok_iff.mp looked).2.symm.trans isFound
  refine ⟨{ old with modified := host.now, accessed := host.now }, ?_, rfl⟩
  have ran : RefreshTask.run { process := process, path := path } host = after := by
    simp [RefreshTask.run, touched]
  rcases names.sameEntries same with ⟨place, located, isFile⟩
  rw [ran, lstat_eq_ok_iff, find_eq_ok_iff]
  exact ⟨writable, place, located, isFile, given⟩

end Host

namespace MailClient

variable {client : MailClient} {settings : Settings} {host : Host} {parent : ProcessId}

/-- A command that is `adopting` a lock ends with zero only if something is at its path. -/
theorem exists_named_of_adopting {action : Locker → Host → Host}
    (zero : (Invocation.adopting settings host.nextProcess (client.ready host parent) client.user
      action).1.code = 0) :
    ∃ lock file, client.lockPath settings = .ok lock ∧ host.named? lock = some file := by
  have files := (client.starts_ready host parent).files
  have isPath : Locker.lockPath { process := host.nextProcess, settings := settings.mail }
      (client.ready host parent) client.user = client.lockPath settings :=
    client.lockPath_commandLocker settings host parent none
  unfold Invocation.adopting Locker.adopt at zero
  simp only [isPath] at zero
  rcases path : client.lockPath settings with status | lock
  · have failed := MailSettings.ne_success_of_lockPath path
    cases status with
    | success => exact absurd rfl failed
    | nameLength | temporaryLock | temporaryWrite | maxTries | error =>
        simp [path, Outcome.ofFailure, Failure.exitCode] at zero
  · rcases looked : (client.ready host parent).lstat lock with error | ⟨file, found⟩
    · simp [path, looked, Outcome.ofFailure, Failure.exitCode] at zero
    · refine ⟨lock, file, rfl, ?_⟩
      rw [← Host.named?_congr files]
      exact Host.named?_eq_some_iff.mpr ⟨found, looked⟩

/-- The lock of the user is at its path. -/
def Finds (client : MailClient) (settings : Settings) (host : Host) (lock : String)
    (file : FileId) : Prop :=
  client.lockPath settings = .ok lock ∧ host.named? lock = some file

theorem ends_unlock (reads : client.Reads settings host) :
    client.Ends host .unlock fun outcome after =>
      (outcome.code = 0 ↔ ∃ lock file, client.Finds settings host lock file) ∧
        ∀ lock file, client.Finds settings host lock file → host.files.directory? file = none →
          after.named? lock = none := by
  intro parent arguments asks
  refine ⟨_, _, run_eq asks reads, ⟨exists_named_of_adopting, ?_⟩, ?_⟩
  · rintro ⟨lock, file, isLock, named⟩
    simp only [Invocation.mailAction, adopting_eq isLock named]
  · rintro lock file ⟨isLock, named⟩ plain
    rcases run_unlock asks reads isLock named with ⟨after, ran, files⟩
    simp only [run_eq asks reads, Option.some.injEq, Prod.mk.injEq] at ran
    rcases ran with ⟨_, rfl⟩
    have starts := client.starts_ready host parent
    exact Host.named?_eq_none_of_remaining isLock
      ((Host.named?_congr starts.files lock).trans named) (starts.files ▸ plain) files

theorem ends_touch (reads : client.Reads settings host) :
    client.Ends host .touch fun outcome after =>
      (outcome.code = 0 ↔ ∃ lock file, client.Finds settings host lock file) ∧
        ∀ lock file, client.Finds settings host lock file → host.files.target? file = none →
          ∃ found, after.lstat lock = .ok (file, found) ∧ found.modified = host.now := by
  intro parent arguments asks
  refine ⟨_, _, run_eq asks reads, ⟨exists_named_of_adopting, ?_⟩, ?_⟩
  · rintro ⟨lock, file, isLock, named⟩
    simp only [Invocation.mailAction, adopting_eq isLock named]
  · rintro lock file ⟨isLock, named⟩ plain
    have ran : client.run host parent arguments = _ := run_touch asks reads isLock named
    simp only [run_eq asks reads, Option.some.injEq, Prod.mk.injEq] at ran
    have starts := client.starts_ready host parent
    rcases Host.lstat_of_run_task host.nextProcess
        ((Host.named?_congr starts.files lock).trans named) (starts.files ▸ plain) with
      ⟨found, looked, given⟩
    refine ⟨found, ?_, given.trans starts.now⟩
    rw [ran.2, ← looked]
    exact Host.lstat_congr rfl lock

/-- Commands that give back or touch the lock end with zero exactly if something is at its path, in
the sense of `Finds`. Then the one leaves nothing there unless it is a directory, and the other
gives it the time of the command unless it is a symbolic link. -/
theorem done_of_exit_zero (reads : client.Reads settings host) :
    (client.Ends host .unlock fun outcome after =>
      (outcome.code = 0 ↔ ∃ lock file, client.Finds settings host lock file) ∧
        ∀ lock file, client.Finds settings host lock file → host.files.directory? file = none →
          after.named? lock = none) ∧
      client.Ends host .touch fun outcome after =>
        (outcome.code = 0 ↔ ∃ lock file, client.Finds settings host lock file) ∧
          ∀ lock file, client.Finds settings host lock file → host.files.target? file = none →
            ∃ found, after.lstat lock = .ok (file, found) ∧ found.modified = host.now :=
  ⟨ends_unlock reads, ends_touch reads⟩

/-- The lock that was taken is left alone for 200 seconds. -/
def laterHost : Host :=
  { lockedRun.2 with now := seconds 200 }

theorem finds_laterHost : rootClient.Finds {} laterHost "/u.lock" ⟨1⟩ := by
  unfold Finds
  decide +kernel

theorem done_of_exit_zero_laterHost :
    rootClient.Reads {} laterHost ∧
      (rootClient.Ends laterHost .unlock fun outcome after =>
        outcome.code = 0 ∧ after.named? "/u.lock" = none) ∧
      rootClient.Ends laterHost .touch fun outcome after =>
        outcome.code = 0 ∧ ∃ found, after.lstat "/u.lock" = .ok (⟨1⟩, found) ∧
          found.modified = laterHost.now := by
  have reads : rootClient.Reads {} laterHost := by
    unfold Reads
    decide +kernel
  have ends := done_of_exit_zero reads
  have plain : laterHost.files.directory? ⟨1⟩ = none ∧ laterHost.files.target? ⟨1⟩ = none := by
    decide +kernel
  refine ⟨reads, ?_, ?_⟩
  · refine ends.1.mono fun outcome after ended => ?_
    exact ⟨ended.1.mpr ⟨_, _, finds_laterHost⟩, ended.2 _ _ finds_laterHost plain.1⟩
  · refine ends.2.mono fun outcome after ended => ?_
    exact ⟨ended.1.mpr ⟨_, _, finds_laterHost⟩, ended.2 _ _ finds_laterHost plain.2⟩

/-! ## Commands that end with zero and have done nothing -/

/-- A directory is at the path of the lock. -/
def obstructedHost : Host :=
  (bareHost.makeDirectories "/u.lock").toOption.getD bareHost

/-- A symbolic link that leads nowhere is at the path of the lock, and grows old. -/
def danglingHost : Host :=
  { (bareHost.files.symlink "/m" "/u.lock" 0).toOption.elim bareHost bareHost.withFiles with
    now := seconds 200 }

def obstructedRun : Outcome × Host :=
  (rootClient.run obstructedHost 1 ["mail", "unlock", "--user", "u"]).get (by decide +kernel)

def danglingRun : Outcome × Host :=
  (rootClient.run danglingHost 1 ["mail", "touch", "--user", "u"]).get (by decide +kernel)

/-- On `obstructedHost` the directory is still there after a command that ends with zero, and on
`danglingHost` the link has not become fresh. -/
theorem nothing_done_at_exit_zero :
    (rootClient.run obstructedHost 1 ["mail", "unlock", "--user", "u"] =
        some (obstructedRun.1, obstructedRun.2) ∧
      obstructedRun.1.code = 0 ∧ (obstructedRun.2.named? "/u.lock").isSome) ∧
    (rootClient.run danglingHost 1 ["mail", "touch", "--user", "u"] =
        some (danglingRun.1, danglingRun.2) ∧
      danglingRun.1.code = 0 ∧
      (danglingRun.2.lstat "/u.lock").toOption.map (fun found => found.2.modified) = some 0 ∧
      danglingRun.2.now = seconds 200) := by
  refine ⟨⟨eq_some_get _, ?_, ?_⟩, ⟨eq_some_get _, ?_, ?_, ?_⟩⟩
  all_goals decide +kernel

end MailClient

end MailSpool

import MailSpool.Proofs.Dotlock.LockPaths
import MailSpool.Proofs.Guard.BothLocks

/-!
# The mailbox that a guard opens

A guard opens the user's name in the spool directory, whatever the name is. That it is the name of
one entry is nowhere asked for here: this is left to the locker, which rejects a name with a slash.
With the suffix of locks behind them, the names `.` and `..` are names of entries as well, and are
not rejected. Then the spool directory itself is opened, or the one above it:
`directory_above_opened`.
-/

namespace MailSpool

open FileSystem

namespace SpoolGuard

variable {bridge : Bridge} {host after : Host} {user tag : String} {retries : UInt32}
  {result : Except (Failure × Bridge) SpoolGuard}

/-- A path that leads nowhere but to the entry of a user in a spool. -/
structure IsMailbox (path spool user : String) : Prop where
  entry : Path.IsEntryOf path spool user
  fileName : Path.fileName path = some user
  place : ∀ (files : FileSystem) place, files.locate false path = .ok place →
    ∃ directory child, place = .entry directory user child

/-- The `spoolPath` of a user whose name is neither of the two dotted ones `IsMailbox` of this user.
-/
theorem isMailbox_spoolPath (settings : MailSettings) (isName : isEntryName user = true)
    (notHere : user ≠ ".") (notUp : user ≠ "..") :
    IsMailbox (settings.spoolPath user) settings.spoolDirectory user := by
  rcases MailSettings.isEntryName_iff.mp isName with ⟨nonempty, noSlash, _⟩
  have named : ¬Path.IsNameless user.toList := by
    rintro (isEmpty | isDot)
    · exact nonempty (String.toList_eq_nil_iff.mp isEmpty)
    · exact notHere (String.toList_inj.mp isDot)
  have noDots : user.toList ≠ ['.', '.'] := fun same => notUp (String.toList_inj.mp same)
  refine ⟨Path.isEntryOf_join _ noSlash named, ?_, ?_⟩
  · rcases Path.segments_join settings.spoolDirectory noSlash with ⟨front, parts⟩
    rw [MailSettings.spoolPath, Path.fileName_of_segments parts named noDots, String.ofList_toList]
  · intro files place located
    exact FileSystem.entry_of_endsIn (Path.endsIn_join _ noSlash) named noDots located

theorem isEntryName_of_lockMail {held : Bridge} {locked : Host}
    (taken : bridge.lockMail host user retries = (.success, held, locked)) :
    isEntryName user = true := by
  unfold Bridge.lockMail at taken
  rcases acquired : bridge.locker.acquire host user retries with ⟨status, next, later⟩
  simp only [acquired, Prod.mk.injEq] at taken
  rw [taken.1] at acquired
  rcases exists_lockPath_of_acquire acquired with ⟨lock, found⟩
  exact (accepted_of_lockPath found).1

/-- Whatever becomes of a call for a guard, nothing is opened before `lockMail` has succeeded, and
then the one path that is opened, by `openLocked`, `IsMailbox` of the user in the spool. A guard
that is obtained has this path open. -/
theorem opens_mailbox_only (notHere : user ≠ ".") (notUp : user ≠ "..")
    (called : SpoolGuard.acquire bridge host user tag retries = (result, after)) :
    (∃ status held, status ≠ .success ∧
      bridge.lockMail host user retries = (status, held, after) ∧
      result = .error (.mailLock status, held)) ∨
    ∃ held locked path,
      bridge.lockMail host user retries = (.success, held, locked) ∧
      IsMailbox path bridge.settings.mail.spoolDirectory user ∧
      ((∃ guard secured, openLocked held locked path (.ofTag tag) =
          (.ok guard.descriptor, secured) ∧
        result = .ok guard ∧ guard.path = path ∧ after.process = secured.process) ∨
      ∃ failure freed rest, openLocked held locked path (.ofTag tag) = (.error failure, rest) ∧
        result = .error (failure, freed)) := by
  rcases taken : bridge.lockMail host user retries with ⟨status, held, locked⟩
  unfold SpoolGuard.acquire at called
  simp only [taken] at called
  cases status with
  | success =>
      have isMailbox := isMailbox_spoolPath bridge.settings.mail (isEntryName_of_lockMail taken)
        notHere notUp
      refine Or.inr ⟨held, locked, bridge.spoolPath user, rfl, isMailbox, ?_⟩
      dsimp only at called
      rcases opening : openLocked held locked (bridge.spoolPath user) (.ofTag tag) with
        ⟨failure | descriptor, secured⟩
      · simp only [opening, Prod.mk.injEq] at called
        exact Or.inr ⟨failure, _, secured, rfl, called.1.symm⟩
      · have refreshed := startRefresher_snd held secured
        simp only [opening, Prod.mk.injEq] at called
        rcases called with ⟨rfl, rfl⟩
        refine Or.inl ⟨_, secured, rfl, rfl, rfl, ?_⟩
        rw [refreshed]
        rfl
  | nameLength | temporaryLock | temporaryWrite | maxTries | error =>
      simp only [Prod.mk.injEq] at called
      rcases called with ⟨rfl, rfl⟩
      exact Or.inl ⟨_, held, by simp, rfl, rfl⟩

/-- A spool with the mailbox of a user whose name is made of three dots. -/
def dottedHost : Host :=
  { readerHost with files := ((empty 0).make root "..." (.regular .empty) 0).2 }

def dottedGuard : SpoolGuard where
  bridge := { plainBridge with
    locker := { plainBridge.locker with
      held := some { user := "...", path := "/....lock" }
      counts := { acquisitions := 1 } } }
  path := "/..."
  mode := .write
  descriptor := 4
  refresher := some { process := 1, path := "/....lock" }

theorem acquire_dottedHost :
    SpoolGuard.acquire plainBridge dottedHost "..." "rw" 0 =
      (.ok dottedGuard, (SpoolGuard.acquire plainBridge dottedHost "..." "rw" 0).2) := by
  have obtained : (SpoolGuard.acquire plainBridge dottedHost "..." "rw" 0).1 = .ok dottedGuard := by
    decide +kernel
  rw [← obtained, Prod.eta]

theorem opens_mailbox_only_threeDots :
    "..." ≠ "." ∧ "..." ≠ ".." ∧ IsMailbox dottedGuard.path "/" "..." := by
  have notHere : "..." ≠ "." := by decide
  have notUp : "..." ≠ ".." := by decide
  refine ⟨notHere, notUp, ?_⟩
  rcases opens_mailbox_only notHere notUp acquire_dottedHost with
    ⟨_, _, _, _, failed⟩ | ⟨_, _, path, _, isMailbox, opened | refused⟩
  · cases failed
  · rcases opened with ⟨guard, _, _, obtained, isPath, _⟩
    cases obtained
    rw [isPath]
    exact isMailbox
  · rcases refused with ⟨_, _, _, _, failed⟩
    cases failed

/-- Two dots as a user: what is opened and locked is the directory above the spool. -/
theorem directory_above_opened :
    ((SpoolGuard.acquire (.ofSettings 1 { mail := { spoolDirectory := "/m", honorMail := false } })
        mailElsewhere ".." "r" 0).1.toOption.map fun guard =>
      (guard.path, guard.bridge.locker.held.map HeldLock.path,
        (mailElsewhere.stat guard.path).toOption.map Prod.fst)) =
      some ("/m/..", some "/m/...lock", some root) := by
  decide +kernel

end SpoolGuard

end MailSpool

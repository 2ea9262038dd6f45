import MailSpool.Proofs.Dotlock.Outcome
import MailSpool.Proofs.FileSystem.Lasting

/-!
# Taking one lock after another

A locker that takes a lock gives back the one that it still holds before it does anything else. So
the files among which the new lock is taken are those without the old one, and from these come all
files that are there in the end, by `inherits_acquire`. No file that was known is forgotten on the
way.
-/

namespace MailSpool

open FileSystem

namespace Host

theorem remaining_congr {host after : Host} (files : after.files = host.files)
    (now : after.now = host.now) (path : String) : after.remaining path = host.remaining path := by
  unfold remaining unlink
  rw [files, now]
  cases calling [path] (host.files.unlink path host.now) with
  | error error => exact files
  | ok removed => rfl

theorem recalls_remaining (host : Host) (path : String) :
    Recalls host.files (host.remaining path) := by
  rcases host.remaining_cases path with same | removed
  · rw [same]
    exact .refl host.files
  · exact recalls_unlink removed

theorem recalls_perform (host : Host) (deed : Deed) :
    Recalls host.files (host.perform deed).files := by
  cases deed with
  | unlink path => exact host.recalls_remaining path
  | touch path =>
      simp only [perform]
      cases result : host.touch path with
      | error failure => exact .refl host.files
      | ok touched => exact recalls_touch (touch_eq_ok result).1
  | exit process => exact .refl host.files
  | signal process number =>
      have same : (host.perform (.signal process number)).files = host.files :=
        host.files_changeProcess process _
      rw [same]
      exact .refl host.files

theorem named?_perform (host : Host) {deed : Deed} {path : String} {file : FileId}
    (removesNothing : ∀ path, deed ≠ .unlink path) (named : host.named? path = some file) :
    (host.perform deed).named? path = some file := by
  rw [named?_eq_some_iff_names] at named ⊢
  rcases named with ⟨writable, names, known⟩
  exact ⟨writable, names.sameEntries (host.sameEntries_perform removesNothing),
    host.recalls_perform deed file known⟩

theorem recalls_elapseUntil (host : Host) (time : Instant) :
    Recalls host.files (host.elapseUntil time).files := by
  have any : host.Expects fun _ => True := fun _ _ => trivial
  refine (elapseUntil_induction (fun later => Recalls host.files later.files) ?_ ?_ time any
    (.refl host.files)).1
  · exact fun _ _ _ recalls => recalls
  · exact fun later deed _ recalls => recalls.trans (later.recalls_perform deed)

end Host

namespace Acquisition

variable {start : FileSystem} {work : Acquisition} {host : Host}

theorem recalls_step (work : Acquisition) (sound : host.files.Sound) :
    Recalls host.files (work.step host).2.files := by
  cases fileEffect_step work host with
  | keeps files =>
      rw [files]
      exact .refl host.files
  | makes file stage created => exact recalls_create sound (Host.create_eq_ok created).1
  | writes file stage filled =>
      rw [Host.fill_eq_ok filled]
      exact recalls_setContent host.files file _ host.now
  | links stage linked => exact recalls_link (Host.link_eq_ok linked).1
  | releases held stage isHeld removed => exact recalls_unlink removed
  | breaks stale stage removed => exact recalls_unlink removed
  | clears stage removed => exact recalls_unlink removed

/-- An acquisition that has not made its file yet `Stems` from the files that are there now. -/
theorem Stems.restart {files : FileSystem} (stems : work.Stems start files)
    (unused : ¬work.stage.UsesTemporary) : work.Stems files files where
  origin := stems.sound
  sound := stems.sound
  inherits := .refl files
  lock := stems.lock
  temporary := stems.temporary
  made file writing := by simp [writing, AcquisitionStage.UsesTemporary] at unused
  fresh uses := absurd uses unused
  writable uses := absurd uses unused

/-- Rounds come from the files at which they start, and forget none of them. -/
theorem Stems.iterate {state : Acquisition × Host} (stems : state.1.Stems start state.2.files)
    (count : Nat) :
    (round^[count] state).1.Stems start (round^[count] state).2.files ∧
      Recalls state.2.files (round^[count] state).2.files := by
  refine iterate_round_induction
    (fun later => later.1.Stems start later.2.files ∧ Recalls state.2.files later.2.files)
    ?_ ?_ ⟨stems, .refl _⟩ count
  · rintro work host wake _ ⟨stems, recalls⟩
    exact ⟨stems.elapse wake, recalls.trans (host.recalls_elapseUntil wake)⟩
  · rintro work host _ _ ⟨stems, recalls⟩
    exact ⟨stems.step, recalls.trans (recalls_step work stems.sound)⟩

end Acquisition

theorem RefreshTask.sound_run (task : RefreshTask) (host : Host) (sound : host.files.Sound) :
    (task.run host).files.Sound := by
  unfold run
  cases result : host.touch task.path with
  | error failure => exact sound
  | ok touched =>
      rcases touch_spec (Host.touch_eq_ok result).1 with ⟨_, _, _, _, _, _, keeps⟩
      exact keeps sound

theorem RefreshTask.inherits_run (task : RefreshTask) (host : Host) :
    host.files.Inherits (task.run host).files ∧ Recalls host.files (task.run host).files := by
  unfold run
  cases result : host.touch task.path with
  | error failure => exact ⟨.refl host.files, .refl host.files⟩
  | ok touched =>
      have call := (Host.touch_eq_ok result).1
      rcases touch_spec call with ⟨_, _, _, _, same, retains, _⟩
      exact ⟨(Inherits.refl host.files).sameEntries same retains.next, recalls_touch call⟩

namespace Locker

variable {locker next : Locker} {host after : Host} {user lock : String} {retries : UInt32}
  {status : MailLockStatus}

theorem inherits_release (locker : Locker) (host : Host) :
    host.files.Inherits (locker.release host).2.files ∧
      Recalls host.files (locker.release host).2.files := by
  rw [files_release]
  cases locker.held with
  | none => exact ⟨.refl host.files, .refl host.files⟩
  | some held =>
      refine ⟨?_, host.recalls_remaining held.path⟩
      rcases host.remaining_cases held.path with same | removed
      · simp only [Option.map_some, Option.getD_some, same]
        exact .refl host.files
      · rcases unlink_spec removed with ⟨_, _, _, _, _, sets, retains, _⟩
        exact (Inherits.refl host.files).sets sets retains.next (by simp)

/-- The first round of an acquisition does the `release` of the lock that the locker still holds. -/
theorem round_begin_of_held (locker : Locker) (host : Host) (user lock : String)
    (retries : UInt32) (held : locker.held.isSome = true) :
    (Acquisition.round (Acquisition.begin locker host user lock retries)).1.stage = .creating ∧
      (Acquisition.round (Acquisition.begin locker host user lock retries)).2.files =
        (locker.release host).2.files := by
  rcases Option.isSome_iff_exists.mp held with ⟨holding, isHeld⟩
  have releasing : (Acquisition.begin locker host user lock retries).1.stage = .releasing := by
    simp [Acquisition.begin, held]
  simp only [Acquisition.round, releasing, Acquisition.step, true_and]
  rw [files_release, files_release]
  simp only [Acquisition.begin, isHeld, Option.map_some, Option.getD_some]
  apply Host.remaining_congr
  · rfl
  · rfl

/-- What is there after an acquisition has come from the files without the lock that was held, by
`Inherits` and `Recalls`. -/
theorem inherits_acquire (sound : host.files.Sound) (found : locker.lockPath host user = .ok lock)
    (acquired : locker.acquire host user retries = (status, next, after)) :
    (locker.release host).2.files.Inherits after.files ∧
      Recalls (locker.release host).2.files after.files := by
  rcases exists_finished_of_acquire sound found acquired with
    ⟨count, done, isDone, ended, _, rfl, _⟩
  have stems := Acquisition.stems_begin retries sound found
  cases held : locker.held with
  | none =>
      have iterated := stems.iterate count
      rw [← isDone] at iterated
      rw [files_release, held]
      exact ⟨iterated.1.inherits, iterated.2⟩
  | some holding =>
      rcases round_begin_of_held locker host user lock retries (by simp [held]) with
        ⟨stage, files⟩
      cases count with
      | zero =>
          rw [Function.iterate_zero_apply] at isDone
          simp [isDone, Acquisition.begin, held] at ended
      | succ count =>
          rw [Function.iterate_succ_apply] at isDone
          have released := (stems.iterate 1).1.restart
          rw [Function.iterate_one] at released
          have restarted := (released (by simp [stage, AcquisitionStage.UsesTemporary])).iterate
            count
          rw [← isDone, files] at restarted
          exact ⟨restarted.1.inherits, restarted.2⟩

end Locker

end MailSpool

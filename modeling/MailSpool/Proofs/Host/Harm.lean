import MailSpool.Dotlock.Locker
import MailSpool.Proofs.Host.Files

/-!
# Files that suffer from a call

A call `Harms` a file when it takes a name from it, or changes its content or its times. Removing a
path harms the file that the path names and no other, and touching a path the file that it leads to.
Directories are left out: what they suffer is the making and removing of entries.
-/

namespace MailSpool

namespace FileSystem

structure Harms (before after : FileSystem) (file : FileId) : Prop where
  known : (before.file file).isSome
  plain : before.directory? file = none
  loss : (∃ directory name, before.child? directory name = some file ∧
      after.child? directory name ≠ some file) ∨
    (after.file file).map File.traits ≠ (before.file file).map File.traits

theorem not_harms_self (files : FileSystem) (file : FileId) : ¬files.Harms files file := by
  rintro ⟨_, _, ⟨directory, name, named, lost⟩ | changed⟩
  · exact lost named
  · exact changed rfl

variable {files after : FileSystem} {path : String} {now : Instant} {file : FileId}

theorem names_of_harms_unlink (removed : files.unlink path now = .ok after)
    (harms : files.Harms after file) : files.Names path file := by
  rcases unlink_spec removed with ⟨directory, name, id, located, _, sets, retains, _⟩
  rcases harms.loss with ⟨folder, text, named, lost⟩ | changed
  · by_cases same : (folder, text) = (directory, name)
    · cases same
      rw [child?_of_locate located] at named
      cases named
      exact ⟨_, located, rfl⟩
    · rw [sets.entry_of_ne same] at lost
      exact absurd named lost
  · exact absurd (retains.traits file harms.known harms.plain (by simp)) changed

theorem stat_of_harms_touch (touched : files.touch path now = .ok after)
    (harms : files.Harms after file) : ∃ found, files.stat path = .ok (file, found) := by
  rcases touch_spec touched with ⟨id, found, looked, _, same, retains, _⟩
  rcases harms.loss with ⟨folder, text, named, lost⟩ | changed
  · rw [same.entry] at lost
    exact absurd named lost
  · by_cases isTouched : file = id
    · exact ⟨found, isTouched ▸ looked⟩
    · exact absurd (retains.traits file harms.known harms.plain isTouched) changed

end FileSystem

variable {host : Host} {path : String} {file : FileId}

theorem Host.names_of_harms_remaining (harms : host.files.Harms (host.remaining path) file) :
    host.files.Names path file := by
  rcases host.remaining_cases path with same | removed
  · rw [same] at harms
    exact absurd harms (FileSystem.not_harms_self _ _)
  · exact FileSystem.names_of_harms_unlink removed harms

/-- A `RefreshTask` harms no file but the one that its path leads to. -/
theorem RefreshTask.stat_of_harms_run {task : RefreshTask}
    (harms : host.files.Harms (task.run host).files file) :
    ∃ found, host.files.stat task.path = .ok (file, found) := by
  unfold run at harms
  rcases touched : host.touch task.path with failure | after
  · rw [touched] at harms
    exact absurd harms (FileSystem.not_harms_self _ _)
  · rw [touched] at harms
    exact FileSystem.stat_of_harms_touch (Host.touch_eq_ok touched).1 harms

end MailSpool

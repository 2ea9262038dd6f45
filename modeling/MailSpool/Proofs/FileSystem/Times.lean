import MailSpool.Proofs.FileSystem.Lasting
import MailSpool.Proofs.Host.Files

/-!
# When files were last changed

A call `Redates`: it dates a file that it changes, be it a directory, with the time of the host, and
leaves the date of every other file as it was. So once a file was dated, no call gives it an earlier
date as long as the clock is not set back.
-/

namespace MailSpool

namespace FileSystem

/-- Every file stays known, with the date of its last change or with the present one. -/
structure Redates (now : Instant) (before after : FileSystem) : Prop where
  file : ∀ id found, before.file id = some found →
    ∃ next, after.file id = some next ∧ (next.modified = found.modified ∨ next.modified = now)

variable {before between after files : FileSystem} {now : Instant} {path : String}

theorem Redates.refl (now : Instant) (files : FileSystem) : Redates now files files where
  file _ found isFound := ⟨found, isFound, Or.inl rfl⟩

theorem Redates.trans (first : Redates now before between) (second : Redates now between after) :
    Redates now before after := by
  refine ⟨fun id found isFound => ?_⟩
  rcases first.file id found isFound with ⟨next, isNext, dated⟩
  rcases second.file id next isNext with ⟨last, isLast, same | present⟩
  · exact ⟨last, isLast, same ▸ dated⟩
  · exact ⟨last, isLast, Or.inr present⟩

theorem redates_put {id : FileId} {new : File}
    (dated : ∀ found, files.file id = some found →
      new.modified = found.modified ∨ new.modified = now) :
    Redates now files (files.put id new) := by
  refine ⟨fun other found isFound => ?_⟩
  by_cases same : other = id
  · subst same
    exact ⟨new, file_put_self .., dated found isFound⟩
  · exact ⟨found, (file_put_of_ne files new same).trans isFound, Or.inl rfl⟩

theorem redates_changeEntries (files : FileSystem) (directory : FileId) (now : Instant)
    (change : List (String × FileId) → List (String × FileId)) :
    Redates now files (files.changeEntries directory now change) := by
  unfold changeEntries
  split
  · exact redates_put fun _ _ => Or.inr rfl
  · exact .refl now files

theorem redates_changeLinks (files : FileSystem) (id : FileId) (now : Instant)
    (change : Nat → Nat) : Redates now files (files.changeLinks id change) := by
  unfold changeLinks
  split
  case h_1 file isFile =>
    apply redates_put
    intro found isFound
    cases isFile.symm.trans isFound
    exact Or.inl rfl
  case h_2 => exact .refl now files

theorem redates_setContent (files : FileSystem) (id : FileId) (content : ByteArray)
    (now : Instant) : Redates now files (files.setContent id content now) := by
  unfold setContent
  split
  · exact redates_put fun _ _ => Or.inr rfl
  · exact .refl now files

theorem redates_make (files : FileSystem) (directory : FileId) (name : String) (node : Node)
    (now : Instant) : Redates now files (files.make directory name node now).2 := by
  have put : Redates now files (files.put ⟨files.next⟩ (.made node 1 now)) :=
    redates_put fun _ _ => Or.inr rfl
  have enrolled : Redates now files (files.enroll node now) := ⟨put.file⟩
  exact enrolled.trans (redates_changeEntries ..)

/-! ## Calls -/

theorem redates_create {id : FileId} {node : Node}
    (created : files.create path node now = .ok (id, after)) : Redates now files after := by
  rcases map_eq_ok_iff.mp created with ⟨⟨directory, name⟩, _, made⟩
  have redates := redates_make files directory name node now
  rwa [show files.make directory name node now = (id, after) from made] at redates

theorem redates_link {existing : String} (linked : files.link existing path now = .ok after) :
    Redates now files after := by
  simp only [link] at linked
  split at linked
  · simp at linked
  · split at linked
    · simp at linked
    · split at linked
      · simp at linked
      · cases linked
        exact (redates_changeEntries ..).trans (redates_changeLinks ..)

theorem redates_unlink (removed : files.unlink path now = .ok after) :
    Redates now files after := by
  simp only [unlink] at removed
  split at removed
  · simp at removed
  · simp at removed
  · simp at removed
  · split at removed
    · simp at removed
    · cases removed
      exact (redates_changeEntries ..).trans (redates_changeLinks ..)

theorem redates_touch (touched : files.touch path now = .ok after) : Redates now files after := by
  rcases map_eq_ok_iff.mp touched with ⟨⟨id, file⟩, _, rfl⟩
  exact redates_put fun _ _ => Or.inr rfl

end FileSystem

namespace Host

open FileSystem

theorem redates_remaining (host : Host) (path : String) :
    Redates host.now host.files (host.remaining path) := by
  rcases host.remaining_cases path with same | removed
  · rw [same]
    exact .refl ..
  · exact redates_unlink removed

end Host

namespace RefreshTask

open FileSystem

theorem redates_run (task : RefreshTask) (host : Host) :
    Redates host.now host.files (task.run host).files := by
  unfold run
  rcases touched : host.touch task.path with failure | touching
  · exact .refl ..
  · exact redates_touch (Host.touch_eq_ok touched).1

end RefreshTask

end MailSpool

import MailSpool.Proofs.Dotlock.Outcome

/-!
# A lock that is not taken

An acquisition brings a file of its own to the path of the lock by a link, and whoever has linked it
takes the lock. So when the lock is not taken, its path leads to no file that was made meanwhile:
whatever is there was there before. The invariant is `LeadsToOld`.
-/

namespace MailSpool

open FileSystem

namespace Acquisition

variable {start : FileSystem} {begun work : Acquisition} {host : Host}

/-- Unless the link was made, the path of the lock leads to old files only. -/
def LeadsToOld (start : FileSystem) (work : Acquisition) (files : FileSystem) : Prop :=
  ¬work.stage.HasLock → ∀ directory name id, files.LiesAt work.lock directory name id →
    (start.file id).isSome

theorem leadsToOld_step (stems : work.Stems start host.files) (sees : work.Sees start host)
    (leads : work.LeadsToOld start host.files) :
    (work.step host).1.LeadsToOld start (work.step host).2.files := by
  intro unlinked directory name id lies
  have unlinkedBefore : ¬work.stage.HasLock := fun has => unlinked (hasLock_step stems sees has)
  rw [(continues_step work host).lock] at lies
  apply leads unlinkedBefore directory name id
  have linked : ∀ after, host.link work.temporary work.lock = .ok after →
      work.stage = .linking → (work.step host).1.stage.HasLock := by
    intro after linked stage
    simp [step, stage, linked, atStage, AcquisitionStage.HasLock, AcquisitionStage.HasLinked]
  have effect := fileEffect_step work host
  generalize work.step host = result at effect lies unlinked linked
  cases effect with
  | keeps files =>
      rw [files] at lies
      exact lies
  | makes file stage created =>
      have made := (Host.create_eq_ok created).1
      rcases create_spec stems.sound made with ⟨_, _, located, _, _, sets, _, _⟩
      refine lies.of_narrows (resets_create stems.sound made).narrows ?_
      rw [← sets.entry_of_ne, lies.child?]
      rintro ⟨⟩
      apply stems.getLast?_temporary
      rw [← getLast?_name_of_locate located, lies.getLast?_name, stems.lock]
  | writes file stage filled =>
      rw [Host.fill_eq_ok filled] at lies
      exact lies.of_sameEntries (setContent_spec host.files file _ host.now).1
  | links stage made => exact absurd (linked _ made stage) unlinked
  | releases _ _ _ removed | breaks _ _ removed | clears _ removed => exact lies.of_unlink removed

theorem LeadsToOld.perform (leads : work.LeadsToOld start host.files) (deed : Deed) :
    work.LeadsToOld start (host.perform deed).files := by
  intro unlinked directory name id lies
  apply leads unlinked directory name id
  cases deed with
  | unlink path =>
      rcases host.remaining_cases path with same | removed
      · change (host.remaining path).LiesAt _ _ _ _ at lies
        rwa [same] at lies
      · exact lies.of_unlink removed
  | touch _ | exit _ | signal _ _ =>
      exact lies.of_sameEntries (host.sameEntries_perform (by simp))

theorem LeadsToOld.elapse (leads : work.LeadsToOld start host.files) (time : Instant) :
    work.LeadsToOld start (host.elapseUntil time).files :=
  (Host.elapseUntil_induction (fun later => work.LeadsToOld start later.files)
    (fun _ _ _ leads => leads) (fun _ deed _ leads => leads.perform deed) time
    (fun _ _ => trivial) leads : _ ∧ Host.Expects _ fun _ => True).1

theorem leadsToOld_iterate {first : Host} {state : Acquisition × Host}
    (proceeds : Proceeds first begun state)
    (leads : state.1.LeadsToOld first.files state.2.files) (count : Nat) :
    (round^[count] state).1.LeadsToOld first.files (round^[count] state).2.files :=
  (iterate_round_induction
    (fun later => Proceeds first begun later ∧ later.1.LeadsToOld first.files later.2.files)
    (fun _ _ wake stage holds => ⟨holds.1.elapse stage, holds.2.elapse wake⟩)
    (fun _ _ going rested holds => ⟨(holds.1.step going rested).1,
      leadsToOld_step holds.1.stems holds.1.sees holds.2⟩)
    ⟨proceeds, leads⟩ count).2

end Acquisition

namespace Locker

variable {locker next : Locker} {host after : Host} {user lock : String} {retries : UInt32}
  {status : MailLockStatus}

/-- Whatever is at the path of a lock that was not taken was there before. -/
theorem isSome_of_refused (sound : host.files.Sound) (isLock : locker.lockPath host user = .ok lock)
    (refused : locker.acquire host user retries = (status, next, after))
    (failed : status ≠ .success) {file : FileId} (named : after.named? lock = some file) :
    (host.files.file file).isSome := by
  rcases exists_finished_of_acquire sound isLock refused with
    ⟨count, done, isDone, ended, _, rfl, proceeds⟩
  have begins : (Acquisition.begin locker host user lock retries).1.LeadsToOld host.files
      (Acquisition.begin locker host user lock retries).2.files :=
    fun _ directory name id lies => sound.named directory name id lies.child?
  have leads := Acquisition.leadsToOld_iterate
    (Acquisition.proceeds_begin retries sound isLock) begins count
  rw [← isDone] at leads
  have unlinked : ¬done.1.stage.HasLock := by
    simp [ended, AcquisitionStage.HasLock, AcquisitionStage.HasLinked, failed]
  rcases Host.named?_eq_some_iff_names.mp named with ⟨_, ⟨place, located, ends⟩, _⟩
  rcases entry_of_locate (getLast?_lockPath isLock) (by decide) (by decide) located with
    ⟨directory, name, found, rfl⟩
  obtain rfl : found = some file := ends
  apply leads unlinked directory name file
  rw [proceeds.continues.lock]
  exact located

end Locker

end MailSpool

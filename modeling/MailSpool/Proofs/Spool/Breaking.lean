import MailSpool.Proofs.Spool.Ownership

/-!
# Breaking a stale lock

A locker looks twice before it breaks a lock: at the file that it judges, and once more whether the
path still names that file. The removal is a call of its own, and what it removes is whatever the
path names by then. So a locker breaks the lock that it has judged, unless somebody else takes that
lock away between the second look and the removal: `eq_or_taken_of_harms_breaking`.
-/

namespace MailSpool

open FileSystem

namespace LockerActivity

/-- The stage at which a locker is that takes a lock. -/
def stage? : LockerActivity → Option AcquisitionStage
  | .taking work => some work.stage
  | _ => none

theorem exists_of_stage? {activity : LockerActivity} {stage : AcquisitionStage}
    (isStage : activity.stage? = some stage) :
    ∃ work, activity = .taking work ∧ work.stage = stage := by
  cases activity with
  | taking work => exact ⟨work, rfl, Option.some.inj isStage⟩
  | free | gone => simp [stage?] at isStage

end LockerActivity

namespace SharedSpool

variable {start : SharedSpool} {events : List SpoolEvent}

/-- The file that loses its name when a stale lock is broken is the one that was judged, unless that
one was `Taken` away by others since the locker looked again. -/
theorem eq_or_taken_of_harms_breaking (opens : start.IsOpened)
    (permits : start.Permits KeepsFiles events) {index : Nat} {work : Acquisition}
    {stale other : FileId}
    (going : ((start.run events).participant index).activity = .taking work)
    (stage : work.stage = .breaking stale)
    (harms : (start.run events).host.files.Harms
      ((start.run events).step (.act index .step)).host.files other) :
    other = stale ∨ start.Taken events work.lock stale (ByOthers index work.lock stale) := by
  have justified := opens.justified_run permits
  have trusts : ((start.run events).participant index).Trusts work.lock stale := by
    unfold Participant.Trusts
    rw [going]
    simp [Acquisition.Trusts, stage]
  rcases justified.trusted index work.lock stale trusts with leads | taken
  · rcases (justified.tidy.orderly index).harms_perform trusts leads harms with
      same | ⟨refreshes, _⟩
    · exact Or.inl same
    · simp at refreshes
  · exact Or.inr taken

/-- The first locker leaves its lock alone for long. The second one looks at it twice, and before it
removes it the third one breaks the same lock and takes its own. -/
def race : List SpoolEvent :=
  taking 0 7 ++
    .change { (bareSpool.run (taking 0 7)).host with now := seconds 1000 } ::
      (taking 1 7 ++ taking 2 12)

theorem permits_race : bareSpool.Permits KeepsFiles race :=
  permits_append_iff.mpr ⟨permits_taking .., rfl,
    permits_append_iff.mpr ⟨permits_taking .., permits_taking ..⟩⟩

/-- The second locker has judged the lock of the first one and removes that of the third. -/
theorem breaking_removes_unjudged_lock :
    bareSpool.IsOpened ∧ bareSpool.Permits KeepsFiles race ∧
      (∃ work, ((bareSpool.run race).participant 1).activity = .taking work ∧
        work.stage = .breaking ⟨1⟩) ∧
      ((bareSpool.run race).participant 2).heldPath? = some "/u.lock" ∧
      ((bareSpool.run race).participant 2).own = some ⟨3⟩ ∧
      (bareSpool.run race).host.files.Harms
        ((bareSpool.run race).step (.act 1 .step)).host.files ⟨3⟩ := by
  refine ⟨isOpened_bareSpool, permits_race, ?_, ?_, ?_, ?_⟩
  · exact LockerActivity.exists_of_stage? (by decide +kernel)
  · decide +kernel
  · decide +kernel
  · refine ⟨by decide +kernel, by decide +kernel, Or.inl ⟨FileSystem.root, "u.lock", ?_, ?_⟩⟩
    · decide +kernel
    · decide +kernel

end SharedSpool

end MailSpool

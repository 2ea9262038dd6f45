import MailSpool.Proofs.Spool.Moves

/-!
# Keeping the peace

A locker that takes one lock only, judges no file there stale, and neither adopts a lock nor leaves
one behind `KeepsPeace`. Each of its deeds is a single move, and it abides by the rules thereafter.
-/

namespace MailSpool

open FileSystem

/-- The file that was just judged stale. -/
def AcquisitionStage.judged? : AcquisitionStage → Option FileId
  | .rechecking stale => some stale
  | _ => none

namespace Participant

variable {participant next : Participant} {lock : String} {before after : FileSystem} {host : Host}

/-- The lock that a locker `Holds` has the record of its owner. -/
theorem recorded_step {work : Acquisition} {own : Option FileId}
    (orderly : work.Orderly host.files own) (sound : host.files.Sound)
    (holds : (work.step host).1.Holds) :
    ∃ file, (work.step host).1.stage.made?.or own = some file ∧
      (work.step host).2.files.node? file =
        some (.regular (ownerRecord (work.step host).1.locker.recordedOwner)) := by
  rcases holds with held | linked
  · rcases Option.isSome_iff_exists.mp held with ⟨holding, isHeld⟩
    rcases orderly.cleared_of_held isHeld with ⟨stage, _, finished, files⟩
    have written : work.stage.HasRecord := by
      simp [stage, AcquisitionStage.HasRecord, AcquisitionStage.UsesTemporary]
    rcases orderly.file written.usesTemporary with ⟨file, content, isOwn, _, regular, isRecord⟩
    obtain rfl := isRecord written
    rw [finished, files, (Acquisition.continues_step work host).owner]
    exact ⟨file, isOwn, (host.retains_remaining _ fun _ => False).node? regular (by simp)⟩
  · have next := orderly.step sound (by
      intro status stage
      simp [stage, AcquisitionStage.HasLinked] at linked)
    rcases next.file linked.hasRecord.usesTemporary with
      ⟨file, content, isOwn, _, regular, isRecord⟩
    obtain rfl := isRecord linked.hasRecord
    exact ⟨file, isOwn, regular⟩

/-- A locker keeps the peace when it takes the one lock only, judges no file at its path stale, and
neither adopts a lock nor leaves one behind. -/
def KeepsPeace (participant : Participant) (host : Host) (lock : String) (deed : LockerDeed) :
    Prop :=
  match participant.activity, deed with
  | .free locker, .acquire user _ => ∀ path ∈ (locker.lockPath host user).toOption, path = lock
  | .taking work, .step => (work.step host).1.stage.judged? = none
  | _, .adopt _ => False
  | _, .persist => False
  | _, _ => True

instance (participant : Participant) (host : Host) (lock : String) (deed : LockerDeed) :
    Decidable (participant.KeepsPeace host lock deed) := by
  unfold KeepsPeace
  split <;> infer_instance

theorem Move.refl (lock : String) (participant : Participant) (files : FileSystem) :
    Move lock participant participant files files :=
  .stays Iff.rfl rfl (fun _ uses => uses) (.refl files)

theorem Abides.move_release {locker : Locker} {own : Option FileId} {activity : LockerActivity}
    (abides : Participant.Abides { activity := .free locker, own := own } lock host.files)
    (orderly : Participant.Orderly { activity := .free locker, own := own } host.files)
    (idle : ¬Participant.Holds { activity := activity, own := own })
    (unused : ∀ file, ¬Participant.Uses { activity := activity, own := own } file) :
    Move lock { activity := .free locker, own := own } { activity := activity, own := own }
      host.files (locker.release host).2.files := by
  rcases held : locker.held with _ | holding
  · rw [Locker.files_release, held]
    refine .stays ?_ rfl (fun file uses => absurd uses (unused file)) (.refl host.files)
    exact iff_of_false idle (by simp [Holds, held])
  · have holds : Participant.Holds { activity := .free locker, own := own } := by
      simp [Holds, held]
    rcases abides.holding holds with ⟨writable, file, _, isOwn, names, _, regular⟩
    have samePath : holding.path = lock := by
      apply abides.held
      simp [heldPath?, LockerActivity.locker?, Locker.heldPath?, held]
    have ends : lock.toList.getLast? = some 'k' := samePath ▸ orderly holding held
    exact .gives file holds isOwn idle unused ends
      (resets_release held samePath ends writable names regular)

/-- A deed that `KeepsPeace` is a `Move` of one name at most. -/
theorem Abides.move_perform (abides : participant.Abides lock host.files)
    (orderly : participant.Orderly host.files) (sound : host.files.Sound) {deed : LockerDeed}
    (peace : participant.KeepsPeace host lock deed) :
    Move lock participant (participant.perform host deed).1 host.files
      (participant.perform host deed).2.files := by
  rcases participant with ⟨locker | work | _, own⟩
  · cases deed with
    | acquire user retries =>
        unfold Participant.perform
        dsimp only
        split
        · exact .stays Iff.rfl rfl (fun _ uses => uses) (.refl host.files)
        case h_2 path found =>
          rw [Acquisition.begin_eq]
          rcases held : locker.held with _ | holding
          · refine .stays ?_ rfl ?_ (.refl host.files)
            · simp [Holds, Acquisition.Holds, held, AcquisitionStage.HasLinked]
            · intro file uses
              exact False.elim uses.1
          · refine .stays ?_ rfl ?_ (.refl host.files)
            · simp [Holds, Acquisition.Holds, held]
            · intro file uses
              exact False.elim uses.1
    | release =>
        rw [perform_release]
        refine abides.move_release orderly ?_ ?_
        · simp [Holds]
        · exact fun _ uses => uses
    | drop =>
        refine abides.move_release orderly ?_ ?_
        · exact fun holds => holds
        · exact fun _ uses => uses
    | refresh =>
        exact .stays Iff.rfl rfl (fun _ uses => uses) (locker.sameEntries_refresh host)
    | step => exact .refl lock _ host.files
    | adopt | persist => exact False.elim peace
  · cases deed with
    | step => exact abides.move_step orderly sound
    | acquire | release | refresh | drop => exact .refl lock _ host.files
    | adopt | persist => exact False.elim peace
  · cases deed with
    | step | acquire | release | refresh | drop => exact .refl lock _ host.files
    | adopt | persist => exact False.elim peace

theorem eq_of_taking_ofAcquisition {work going : Acquisition}
    (isGoing : LockerActivity.ofAcquisition work = .taking going) : going = work := by
  unfold LockerActivity.ofAcquisition at isGoing
  split at isGoing
  · simp at isGoing
  · exact (LockerActivity.taking.inj isGoing).symm

theorem Abides.step {work : Acquisition} {own : Option FileId}
    (abides : Participant.Abides { activity := .taking work, own := own } lock host.files)
    (orderly : work.Orderly host.files own) (sound : host.files.Sound)
    (peace : (work.step host).1.stage.judged? = none) :
    Participant.Abides
      { activity := .ofAcquisition (work.step host).1
        own := (work.step host).1.stage.made?.or own } lock (work.step host).2.files := by
  have continues := work.continues_step host
  have sameLock := abides.sameLock work rfl
  refine (abides.move_step orderly sound).abides abides sound ?_ ?_ ?_ ?_ ?_
  · intro path held
    have heldAfter : (work.step host).1.locker.heldPath? = some path := by
      simpa [heldPath?] using held
    rcases Option.map_eq_some_iff.mp heldAfter with ⟨holding, isHeld, rfl⟩
    rcases orderly.cleared_of_held isHeld with ⟨_, rfl, _, _⟩
    exact sameLock
  · intro going isGoing
    rw [eq_of_taking_ofAcquisition isGoing, continues.lock]
    exact sameLock
  · intro going stale isGoing
    rw [eq_of_taking_ofAcquisition isGoing]
    refine ⟨?_, ?_⟩
    · intro stage
      simp [stage, AcquisitionStage.judged?] at peace
    · intro stage
      exact (abides.unjudged work stale rfl).1 (Acquisition.rechecking_of_breaking stage)
  · intro going file isGoing _
    refine ⟨work, rfl, ?_⟩
    rw [eq_of_taking_ofAcquisition isGoing]
    exact continues.temporary
  · intro holds
    rw [holds_ofAcquisition] at holds
    rcases recorded_step orderly sound holds with ⟨file, isOwn, regular⟩
    exact ⟨file, _, isOwn, LockerActivity.locker?_ofAcquisition _, regular⟩

theorem Abides.of_free {locker : Locker} {own : Option FileId} {activity : LockerActivity}
    (abides : Participant.Abides { activity := .free locker, own := own } lock before)
    (sound : before.Sound)
    (move : Move lock { activity := .free locker, own := own } { activity := activity, own := own }
      before after)
    (held : ∀ other, activity.locker? = some other →
      other.recordedOwner = locker.recordedOwner ∧
        (other.held = locker.held ∨ other.held = none))
    (begins : ∀ work, activity = .taking work →
      work.lock = lock ∧ (work.stage = .releasing ∨ work.stage = .creating))
    (node : ∀ file content, before.node? file = some (.regular content) →
      after.node? file = some (.regular content)) :
    Participant.Abides { activity := activity, own := own } lock after := by
  refine move.abides abides sound ?_ ?_ ?_ ?_ ?_
  · intro path isHeld
    rcases Option.bind_eq_some_iff.mp isHeld with ⟨other, isOther, isPath⟩
    apply abides.held
    rcases (held other isOther).2 with same | nothing
    · simpa [heldPath?, LockerActivity.locker?, Locker.heldPath?, same] using isPath
    · simp [Locker.heldPath?, nothing] at isPath
  · exact fun work going => (begins work going).1
  · intro work stale going
    rcases (begins work going).2 with stage | stage <;> simp [stage]
  · intro work file _ uses
    exact False.elim uses
  · intro holds
    have holder : ∃ other, activity.locker? = some other ∧ other.held.isSome := by
      cases activity with
      | free other => exact ⟨other, rfl, holds⟩
      | taking work =>
          refine ⟨work.locker, rfl, ?_⟩
          rcases (begins work rfl).2 with stage | stage <;>
            simpa [Holds, Acquisition.Holds, stage, AcquisitionStage.HasLinked] using holds
      | gone => exact False.elim holds
    rcases holder with ⟨other, isOther, isHeld⟩
    rcases held other isOther with ⟨sameOwner, same | nothing⟩
    · rw [same] at isHeld
      rcases abides.holding isHeld with ⟨_, file, holder, isOwn, _, isHolder, regular⟩
      cases isHolder
      refine ⟨file, other, isOwn, isOther, ?_⟩
      rw [sameOwner]
      exact node file _ regular
    · simp [nothing] at isHeld

/-- A locker goes on to be one that `Abides` by the rules as long as it `KeepsPeace`. -/
theorem Abides.perform (abides : participant.Abides lock host.files)
    (orderly : participant.Orderly host.files) (sound : host.files.Sound) {deed : LockerDeed}
    (peace : participant.KeepsPeace host lock deed) :
    (participant.perform host deed).1.Abides lock (participant.perform host deed).2.files := by
  have move := abides.move_perform orderly sound peace
  have spares := orderly.spares_perform sound deed
  rcases participant with ⟨locker | work | _, own⟩
  · have node : ∀ file content, host.files.node? file = some (.regular content) →
        (Participant.perform { activity := .free locker, own := own } host deed).2.files.node?
          file = some (.regular content) := by
      intro file content regular
      exact spares.node file content regular fun uses => uses
    cases deed with
    | acquire user retries =>
        unfold Participant.perform at move ⊢
        dsimp only at move ⊢
        split at move
        case h_1 status found =>
          refine Abides.of_free abides sound move ?_ ?_ (fun _ _ regular => regular)
          · rintro other ⟨⟩
            exact ⟨rfl, Or.inl rfl⟩
          · simp
        case h_2 path found =>
          have isLock : path = lock := peace path (by simp [found, Except.toOption])
          rw [Acquisition.begin_eq] at move ⊢
          refine Abides.of_free abides sound move ?_ ?_ (fun _ _ regular => regular)
          · rintro other ⟨⟩
            exact ⟨rfl, Or.inl rfl⟩
          · rintro work ⟨⟩
            refine ⟨isLock, ?_⟩
            rcases locker.held.isSome with _ | _ <;> simp
    | release =>
        rw [perform_release] at move node ⊢
        refine Abides.of_free abides sound move ?_ ?_ node
        · rintro other ⟨⟩
          exact ⟨rfl, Or.inr rfl⟩
        · simp
    | drop =>
        refine Abides.of_free abides sound move ?_ ?_ node
        · simp [LockerActivity.locker?]
        · simp
    | refresh =>
        refine Abides.of_free abides sound move ?_ ?_ node
        · rintro other ⟨⟩
          exact ⟨rfl, Or.inl rfl⟩
        · simp
    | step => exact abides
    | adopt | persist => exact False.elim peace
  · cases deed with
    | step => exact Abides.step abides orderly sound peace
    | acquire | release | refresh | drop => exact abides
    | adopt | persist => exact False.elim peace
  · cases deed with
    | step | acquire | release | refresh | drop => exact abides
    | adopt | persist => exact False.elim peace

end Participant

end MailSpool

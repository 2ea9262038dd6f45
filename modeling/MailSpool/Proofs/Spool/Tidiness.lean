import MailSpool.Proofs.Dotlock.Temporaries
import MailSpool.Proofs.Spool.Shared

/-!
# A tidy spool

On a `Tidy` spool every acquisition is `Orderly`, and no two of them use one file. Whatever lockers
do keeps the spool tidy, and so does what others do when they spare the temporary files.
-/

namespace MailSpool

open FileSystem

namespace Participant

/-- A locker whose held lock lies where locks lie, or whose acquisition is orderly. -/
def Orderly (participant : Participant) (files : FileSystem) : Prop :=
  match participant.activity with
  | .free locker => ∀ held, locker.held = some held → held.path.toList.getLast? = some 'k'
  | .taking work => work.Orderly files participant.own
  | .gone => True

/-- The file that a locker uses to take a lock. -/
def Uses (participant : Participant) (file : FileId) : Prop :=
  match participant.activity with
  | .taking work => work.Uses participant.own file
  | _ => False

variable {participant : Participant} {host : Host} {before after : FileSystem}

theorem Orderly.spared {excepted : FileId → Prop} (orderly : participant.Orderly before)
    (spares : Spares before after excepted)
    (different : ∀ file, participant.Uses file → ¬excepted file) : participant.Orderly after := by
  rcases participant with ⟨locker | work | _, own⟩
  · exact orderly
  · exact Acquisition.Orderly.spared orderly spares different
  · trivial

theorem Orderly.node_of_uses (orderly : participant.Orderly before) {file : FileId}
    (uses : participant.Uses file) : ∃ content, before.node? file = some (.regular content) := by
  rcases participant with ⟨locker | work | _, own⟩
  · exact False.elim uses
  · rcases uses with ⟨stage, isOwn⟩
    rcases Acquisition.Orderly.file orderly stage with ⟨other, content, isOther, _, regular, _⟩
    cases isOwn.symm.trans isOther
    exact ⟨content, regular⟩
  · exact False.elim uses

theorem orderly_step {work : Acquisition} {own : Option FileId}
    (orderly : work.Orderly host.files own) (sound : host.files.Sound) :
    Participant.Orderly
      { activity := .ofAcquisition (work.step host).1
        own := (work.step host).1.stage.made?.or own } (work.step host).2.files := by
  by_cases ended : ∃ status, (work.step host).1.stage = .finished status
  · rcases ended with ⟨status, stage⟩
    have free : LockerActivity.ofAcquisition (work.step host).1 =
        .free (work.step host).1.locker := by
      simp [LockerActivity.ofAcquisition, stage]
    rw [free]
    intro held isHeld
    rcases orderly.cleared_of_held isHeld with ⟨_, isLock, _, _⟩
    rw [isLock]
    exact orderly.lock
  · have going : ∀ status, (work.step host).1.stage ≠ .finished status := by
      intro status stage
      exact ended ⟨status, stage⟩
    have taking : LockerActivity.ofAcquisition (work.step host).1 = .taking (work.step host).1 := by
      unfold LockerActivity.ofAcquisition
      split
      case h_1 status stage => exact absurd stage (going status)
      · rfl
    rw [taking]
    exact orderly.step sound going

theorem Orderly.perform (orderly : participant.Orderly host.files) (sound : host.files.Sound)
    (deed : LockerDeed) :
    (participant.perform host deed).1.Orderly (participant.perform host deed).2.files := by
  rcases participant with ⟨locker | work | _, own⟩
  · cases deed with
    | acquire user retries =>
        unfold Participant.perform
        dsimp only
        split
        · exact orderly
        case h_2 lock found => exact Acquisition.orderly_begin host.files own retries found orderly
    | adopt user =>
        rcases perform_adopt locker own host user with ⟨path, file, found, _, adopted⟩ | same
        · rw [adopted]
          intro held isHeld
          cases isHeld
          exact getLast?_lockPath found
        · rw [same]
          exact orderly
    | release =>
        rw [perform_release]
        intro held isHeld
        simp at isHeld
    | persist =>
        intro held isHeld
        simp [Locker.persist] at isHeld
    | refresh => exact orderly
    | drop => trivial
    | step => exact orderly
  · cases deed with
    | step => exact orderly_step orderly sound
    | acquire | adopt | release | persist | refresh | drop => exact orderly
  · cases deed <;> trivial

/-- A deed of a locker `Spares` the temporary files of all others. -/
theorem Orderly.spares_perform (orderly : participant.Orderly host.files)
    (sound : host.files.Sound) (deed : LockerDeed) :
    Spares host.files (participant.perform host deed).2.files participant.Uses := by
  rcases participant with ⟨locker | work | _, own⟩
  · cases deed with
    | acquire user retries =>
        unfold Participant.perform
        dsimp only
        split
        · exact .refl _ _
        · exact .refl _ _
    | release => exact .release host _ orderly
    | drop => exact .release host _ orderly
    | refresh =>
        unfold Participant.perform Locker.refresh
        dsimp only
        split
        · exact .refl _ _
        case h_2 task _ => exact .run_task task host _
    | adopt | persist | step => exact .refl _ _
  · cases deed with
    | step => exact Acquisition.Orderly.spares_step orderly sound
    | acquire | adopt | release | persist | refresh | drop => exact .refl _ _
  · cases deed <;> exact .refl _ _

theorem uses_ofAcquisition {work : Acquisition} {own : Option FileId} {file : FileId}
    (uses : Participant.Uses { activity := .ofAcquisition work, own := own } file) :
    work.Uses own file := by
  unfold LockerActivity.ofAcquisition at uses
  split at uses
  · exact False.elim uses
  · exact uses

theorem uses_perform (sound : host.files.Sound) {deed : LockerDeed} {file : FileId}
    (uses : (participant.perform host deed).1.Uses file) :
    participant.Uses file ∨ host.files.file file = none := by
  rcases participant with ⟨locker | work | _, own⟩
  · cases deed with
    | acquire user retries =>
        unfold Participant.perform at uses
        dsimp only at uses
        split at uses
        · exact False.elim uses
        case h_2 lock found =>
          rcases uses with ⟨stage, _⟩
          rcases held : locker.held with _ | holding
          · simp [Acquisition.begin, held, AcquisitionStage.UsesTemporary] at stage
          · simp [Acquisition.begin, held, AcquisitionStage.UsesTemporary] at stage
    | adopt | release | persist | refresh | drop | step => exact False.elim uses
  · cases deed with
    | step => exact Acquisition.uses_step sound (uses_ofAcquisition uses)
    | acquire | adopt | release | persist | refresh | drop => exact Or.inl uses
  · cases deed <;> exact False.elim uses

end Participant

namespace SharedSpool

structure Tidy (spool : SharedSpool) : Prop where
  sound : spool.host.files.Sound
  orderly : ∀ index, (spool.participant index).Orderly spool.host.files
  distinct : ∀ index other file, (spool.participant index).Uses file →
    (spool.participant other).Uses file → index = other

variable {spool : SharedSpool}

theorem IsOpened.tidy (opens : spool.IsOpened) : spool.Tidy := by
  rcases opens with ⟨sound, lockers, isOpened⟩
  refine ⟨sound, ?_, ?_⟩
  · intro index
    rw [isOpened]
    intro held isHeld
    simp at isHeld
  · intro index other file uses
    rw [isOpened] at uses
    exact False.elim uses

/-- What a locker does spares the temporary files of the others. -/
theorem Tidy.spares_act (tidy : spool.Tidy) (index : Nat) (deed : LockerDeed) :
    Spares spool.host.files (spool.step (.act index deed)).host.files
      (spool.participant index).Uses :=
  (tidy.orderly index).spares_perform tidy.sound deed

theorem Tidy.step_act (tidy : spool.Tidy) (index : Nat) (deed : LockerDeed) :
    (spool.step (.act index deed)).Tidy := by
  have spares := tidy.spares_act index deed
  have apart : ∀ other file, other ≠ index → (spool.participant other).Uses file →
      ¬((spool.participant index).perform spool.host deed).1.Uses file := by
    intro other file different uses usesAfter
    rcases Participant.uses_perform tidy.sound usesAfter with usedBefore | unknown
    · exact different (tidy.distinct other index file uses usedBefore)
    · rcases (tidy.orderly other).node_of_uses uses with ⟨content, regular⟩
      simp [node?, unknown] at regular
  refine ⟨spares.sound tidy.sound, ?_, unshared_act tidy.distinct apart⟩
  intro other
  by_cases same : other = index
  · subst same
    rw [participant_step_act_self]
    exact (tidy.orderly other).perform tidy.sound deed
  · rw [participant_step_act_of_ne spool deed same]
    refine (tidy.orderly other).spared spares ?_
    intro file uses usedByIndex
    exact same (tidy.distinct other index file uses usedByIndex)

theorem spares_run (spool : SharedSpool) (number : Nat) (excepted : FileId → Prop) :
    Spares spool.host.files (spool.step (.run number)).host.files excepted := by
  unfold step
  dsimp only
  rcases spool.tasks[number]? with _ | lent
  · exact .refl _ _
  · exact .run_task lent.task spool.host excepted

/-- A `Tidy` spool stays tidy whatever lockers do, when the others leave acquisitions `Orderly`. -/
theorem Tidy.step (tidy : spool.Tidy) (event : SpoolEvent)
    (change : ∀ next, event = .change next →
      next.files.Sound ∧ ∀ index, (spool.participant index).Orderly next.files) :
    (spool.step event).Tidy := by
  cases event with
  | act index deed => exact tidy.step_act index deed
  | lend index => exact ⟨tidy.sound, tidy.orderly, tidy.distinct⟩
  | run number =>
      have spares := spool.spares_run number fun _ => False
      refine ⟨spares.sound tidy.sound, ?_, tidy.distinct⟩
      intro index
      exact (tidy.orderly index).spared spares (fun _ _ excepted => excepted)
  | change next =>
      rcases change next rfl with ⟨sound, orderly⟩
      exact ⟨sound, orderly, tidy.distinct⟩

end SharedSpool

end MailSpool

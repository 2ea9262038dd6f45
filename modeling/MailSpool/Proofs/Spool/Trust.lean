import MailSpool.Proofs.Host.Harm
import MailSpool.Proofs.Spool.Tidiness

/-!
# What lockers trust in

A locker `Trusts` that a path names a file from the moment at which it has looked: that the lock at
its path is its own file, from the comparison of the two on or from the adoption of the lock, and
that the lock is the stale one that it removes, from its second look on. It does not look again.
While the path leads to that file, no deed of the locker harms any other.
-/

namespace MailSpool

open FileSystem

/-- An acquisition that acts on a path without another look, because the path has named a file. -/
def Acquisition.Trusts (work : Acquisition) (own : Option FileId) (path : String)
    (file : FileId) : Prop :=
  match work.stage with
  | .releasing => work.locker.heldPath? = some path ∧ own = some file
  | .clearing .success => work.lock = path ∧ own = some file
  | .breaking stale => work.lock = path ∧ stale = file
  | _ => False

namespace Participant

/-- A locker that acts on a path without another look, because the path has named a file. -/
def Trusts (participant : Participant) (path : String) (file : FileId) : Prop :=
  match participant.activity with
  | .free locker => locker.heldPath? = some path ∧ participant.own = some file
  | .taking work => work.Trusts participant.own path file
  | .gone => False

theorem trusts_ofAcquisition {work : Acquisition} {own : Option FileId} {path : String}
    {file : FileId}
    (trusts : Participant.Trusts { activity := .ofAcquisition work, own := own } path file) :
    work.Trusts own path file ∨ work.locker.heldPath? = some path ∧ own = some file := by
  unfold LockerActivity.ofAcquisition at trusts
  split at trusts
  · exact Or.inr trusts
  · exact Or.inl trusts

end Participant

namespace Acquisition

variable {work next : Acquisition} {host : Host} {own : Option FileId} {path : String}
  {file : FileId}

/-- What a locker `Trusts` in after a step that is not the last one has just been seen. -/
theorem Orderly.leads_of_trusts_step (orderly : work.Orderly host.files own)
    (trusts : (work.step host).1.Trusts ((work.step host).1.stage.made?.or own) path file) :
    (work.step host).2.files.Leads path file := by
  have effect := effect_step work host
  have continues := continues_step work host
  generalize work.step host = result at effect continues trusts ⊢
  unfold Trusts at trusts
  cases effect with
  | confirms refusal seen found stage next held files looked =>
      simp only [next, AcquisitionStage.made?, Option.none_or] at trusts
      rcases trusts with ⟨rfl, isOwn⟩
      cases (orderly.compared refusal seen stage).symm.trans isOwn
      rw [files, continues.lock]
      exact Host.leads_of_named? (Host.named?_eq_some_iff.mpr ⟨found, looked⟩)
  | refuses refused written unseen other linked =>
      have stillRefused := refused.refused
      split at trusts
      case h_1 stage => simp [stage, AcquisitionStage.IsRefused] at stillRefused
      case h_2 stage => simp [stage, AcquisitionStage.IsRefused] at stillRefused
      case h_3 stale stage =>
        rcases trusts with ⟨rfl, rfl⟩
        rw [refused.files, continues.lock]
        exact Host.leads_of_named? (refused.judged stale stage).2
      case h_4 => exact False.elim trusts
  | rests status stage same =>
      rw [same] at trusts
      simp [stage] at trusts
  | releases stage next | creates _ stage next | stops stage next | fills _ stage next
  | spoils _ stage next | discards stage next | links stage next | misses _ stage next
  | compares _ _ _ stage next | breaks _ _ stage next | clears _ stage next =>
      simp [next] at trusts

theorem Orderly.trusts_of_held (orderly : work.Orderly host.files own)
    (held : (work.step host).1.locker.heldPath? = some path)
    (isOwn : (work.step host).1.stage.made?.or own = some file) :
    work.Trusts own path file ∧
      (host.files.Leads path file → (work.step host).2.files.Leads path file) := by
  rcases Option.map_eq_some_iff.mp held with ⟨holding, isHeld, isPath⟩
  rcases orderly.cleared_of_held isHeld with ⟨stage, rfl, finished, files⟩
  obtain rfl : work.lock = path := isPath
  have ownBefore : own = some file := by simpa [finished, AcquisitionStage.made?] using isOwn
  refine ⟨?_, ?_⟩
  · simp [Trusts, stage, ownBefore]
  · intro leads
    rw [files]
    rcases host.remaining_cases work.temporary with same | removed
    · rw [same]
      exact leads
    · apply leads.unlink_of_getLast?_ne removed
      rw [orderly.lock]
      exact orderly.temporary

end Acquisition

namespace Participant

variable {participant : Participant} {host : Host} {path : String} {file : FileId}

theorem Orderly.trusts_perform (orderly : participant.Orderly host.files) {deed : LockerDeed}
    (trusts : (participant.perform host deed).1.Trusts path file) :
    (participant.perform host deed).2.files.Leads path file ∨
      participant.Trusts path file ∧
        (host.files.Leads path file → (participant.perform host deed).2.files.Leads path file) := by
  rcases participant with ⟨locker | work | _, own⟩
  · cases deed with
    | acquire user retries =>
        unfold Participant.perform at trusts ⊢
        dsimp only at trusts ⊢
        split at trusts
        · exact Or.inr ⟨trusts, fun leads => leads⟩
        case h_2 lock found =>
          rcases held : locker.held with _ | holding
          · simp [Trusts, Acquisition.begin, Acquisition.Trusts, held] at trusts
          · refine Or.inr ⟨?_, fun leads => leads⟩
            simpa [Trusts, Acquisition.begin, Acquisition.Trusts, held] using trusts
    | adopt user =>
        rcases perform_adopt locker own host user with ⟨found, seen, _, named, adopted⟩ | same
        · rw [adopted] at trusts ⊢
          rcases trusts with ⟨isPath, isOwn⟩
          cases isPath
          cases isOwn
          exact Or.inl (Host.leads_of_named? named)
        · rw [same] at trusts ⊢
          exact Or.inr ⟨trusts, fun leads => leads⟩
    | release =>
        rw [perform_release] at trusts
        simp [Trusts, Locker.heldPath?] at trusts
    | persist => simp [Participant.perform, Locker.persist, Trusts, Locker.heldPath?] at trusts
    | refresh =>
        refine Or.inr ⟨trusts, ?_⟩
        exact fun leads => leads.sameEntries (locker.sameEntries_refresh host)
    | drop => exact False.elim trusts
    | step => exact Or.inr ⟨trusts, fun leads => leads⟩
  · cases deed with
    | step =>
        rcases trusts_ofAcquisition trusts with going | ⟨held, isOwn⟩
        · exact Or.inl (Acquisition.Orderly.leads_of_trusts_step orderly going)
        · exact Or.inr (Acquisition.Orderly.trusts_of_held orderly held isOwn)
    | acquire | adopt | release | persist | refresh | drop =>
        exact Or.inr ⟨trusts, fun leads => leads⟩
  · cases deed <;> exact False.elim trusts

theorem eq_of_harms_release {locker : Locker} {other : FileId} (held : locker.heldPath? = some path)
    (leads : host.files.Leads path file)
    (harms : host.files.Harms (locker.release host).2.files other) : other = file := by
  rw [Locker.files_release_of_heldPath? host held] at harms
  exact leads.eq_of_names (Host.names_of_harms_remaining harms)

theorem eq_of_harms_step {work : Acquisition} {own : Option FileId} {other : FileId}
    (orderly : work.Orderly host.files own) (trusts : work.Trusts own path file)
    (leads : host.files.Leads path file)
    (harms : host.files.Harms (work.step host).2.files other) : other = file := by
  have effect := Acquisition.effect_step work host
  generalize work.step host = result at effect harms
  unfold Acquisition.Trusts at trusts
  cases effect with
  | releases stage next held files =>
      simp only [stage] at trusts
      rw [files] at harms
      exact eq_of_harms_release trusts.1 leads harms
  | breaks stale removed stage next held unlinked files =>
      simp only [stage] at trusts
      rcases trusts with ⟨rfl, rfl⟩
      rw [files, ← Host.remaining_of_unlink unlinked] at harms
      exact leads.eq_of_names (Host.names_of_harms_remaining harms)
  | clears status stage next held files =>
      rcases orderly.file (by simp [stage, AcquisitionStage.UsesTemporary]) with
        ⟨ownFile, content, isOwn, ownLeads, _, _⟩
      rw [files] at harms
      rw [ownLeads.eq_of_names (Host.names_of_harms_remaining harms)]
      cases status with
      | success =>
          simp only [stage] at trusts
          exact Option.some.inj (isOwn.symm.trans trusts.2)
      | nameLength | temporaryLock | temporaryWrite | maxTries | error => simp [stage] at trusts
  | refuses refused written unseen looked linked =>
      rw [refused.files] at harms
      exact absurd harms (not_harms_self _ _)
  | creates _ stage | stops stage | fills _ stage | spoils _ stage | discards stage | links stage
  | misses _ stage | compares _ _ _ stage | confirms _ _ _ stage | rests _ stage =>
      simp [stage] at trusts

/-- While a path `Leads` to the file that a locker trusts in, a deed of the locker harms no other
file, but that a refreshment touches what a symbolic link leads to. -/
theorem Orderly.harms_perform (orderly : participant.Orderly host.files) {deed : LockerDeed}
    {other : FileId} (trusts : participant.Trusts path file) (leads : host.files.Leads path file)
    (harms : host.files.Harms (participant.perform host deed).2.files other) :
    other = file ∨ deed = .refresh ∧ (host.files.target? file).isSome := by
  rcases participant with ⟨locker | work | _, own⟩
  · cases deed with
    | acquire user retries =>
        unfold Participant.perform at harms
        dsimp only at harms
        split at harms
        · exact absurd harms (not_harms_self _ _)
        · exact absurd harms (not_harms_self _ _)
    | release => exact Or.inl (eq_of_harms_release trusts.1 leads harms)
    | drop => exact Or.inl (eq_of_harms_release trusts.1 leads harms)
    | refresh =>
        rcases Option.map_eq_some_iff.mp trusts.1 with ⟨holding, isHeld, rfl⟩
        simp only [Participant.perform, Locker.refresh, Locker.refreshTask?, isHeld,
          Option.map_some] at harms
        rcases RefreshTask.stat_of_harms_run harms with ⟨found, looked⟩
        rcases target : host.files.target? file with _ | text
        · exact Or.inl (leads.find target looked)
        · exact Or.inr ⟨rfl, rfl⟩
    | adopt | persist | step => exact absurd harms (not_harms_self _ _)
  · cases deed with
    | step => exact Or.inl (eq_of_harms_step orderly trusts leads harms)
    | acquire | adopt | release | persist | refresh | drop =>
        exact absurd harms (not_harms_self _ _)
  · exact False.elim trusts

end Participant

end MailSpool

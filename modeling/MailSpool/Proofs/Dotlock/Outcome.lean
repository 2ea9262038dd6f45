import MailSpool.Proofs.Dotlock.Progress
import MailSpool.Proofs.Dotlock.Rounds
import MailSpool.Proofs.Host.RecordLocks

/-!
# How an acquisition ends

An acquisition that nobody interrupts always comes to its end, whatever happens meanwhile to the
files: `exists_finished_of_acquire`. At the end the locker holds the lock that it was asked for,
whose path then names a file that was made for it, or it holds nothing. The process of the locker
has every record lock that it had, but for one: where owners count, reading the owner of a lock
closes the file to which the path of the lock leads.
-/

namespace MailSpool

/-- The record locks of a locker's process on the file to which the path of a lock leads, if owners
count. -/
def Locker.Spends (locker : Locker) (start : Host) (lock : String) (record : RecordLock) : Prop :=
  record.owner = locker.process ∧ locker.settings.checkOwner = true ∧
    ((start.files.file record.file).isSome → ∃ found, start.stat lock = .ok (record.file, found))

namespace Acquisition

/-- Past the release of its old lock, a locker holds nothing before it has succeeded. -/
def HoldsRightly (work : Acquisition) : Prop :=
  match work.stage with
  | .releasing => True
  | .finished .success => work.locker.held = some { user := work.user, path := work.lock }
  | _ => work.locker.held = none

theorem held_of_holdsRightly {work : Acquisition} (rightly : work.HoldsRightly)
    (past : work.stage ≠ .releasing) (other : work.stage ≠ .finished .success) :
    work.locker.held = none := by
  unfold HoldsRightly at rightly
  split at rightly
  case h_1 stage => exact absurd stage past
  case h_2 stage => exact absurd stage other
  case h_3 => exact rightly

theorem holdsRightly_of_none {work : Acquisition} (free : work.locker.held = none)
    (other : work.stage ≠ .finished .success) : work.HoldsRightly := by
  unfold HoldsRightly
  split
  case h_1 => trivial
  case h_2 stage => exact absurd stage other
  case h_3 => exact free

theorem holdsRightly_step {work : Acquisition} (host : Host) (rightly : work.HoldsRightly) :
    (work.step host).1.HoldsRightly := by
  have effect := effect_step work host
  have continues := continues_step work host
  generalize work.step host = result at effect continues ⊢
  cases effect with
  | releases stage next held files =>
      exact holdsRightly_of_none held (by simp [next])
  | clears status stage next held files =>
      by_cases success : status = .success
      · subst success
        rw [if_pos rfl] at held
        simp only [HoldsRightly, next, held, continues.user, continues.lock]
      · rw [if_neg success] at held
        apply holdsRightly_of_none
        · rw [held]
          exact held_of_holdsRightly rightly (by simp [stage]) (by simp [stage])
        · simpa [next] using success
  | refuses refused written unseen other linked =>
      apply holdsRightly_of_none
      · rw [refused.held]
        apply held_of_holdsRightly rightly
        · intro stage
          simp [stage, AcquisitionStage.HasRecord, AcquisitionStage.UsesTemporary] at written
        · intro stage
          simp [stage, AcquisitionStage.HasRecord, AcquisitionStage.UsesTemporary] at written
      · intro stage
        have stillRefused := refused.refused
        simp [stage, AcquisitionStage.IsRefused] at stillRefused
  | rests status stage same =>
      rw [same]
      exact rightly
  | creates _ stage next held | stops stage next held | fills _ stage next held
  | spoils _ stage next held | discards stage next held | links stage next held
  | misses _ stage next held | compares _ _ _ stage next held | confirms _ _ _ stage next held
  | breaks _ _ stage next held =>
      apply holdsRightly_of_none
      · rw [held]
        exact held_of_holdsRightly rightly (by simp [stage]) (by simp [stage])
      · simp [next]

/-- What holds of an acquisition in the course of its rounds. -/
structure Proceeds (start : Host) (begun : Acquisition) (state : Acquisition × Host) : Prop where
  continues : begun.Continues state.1
  stems : state.1.Stems start.files state.2.files
  sees : state.1.Sees start.files state.2
  rightly : state.1.HoldsRightly
  wears : Host.Wears (begun.locker.Spends start begun.lock) start state.2

variable {start host : Host} {begun work : Acquisition} {state : Acquisition × Host}

theorem Proceeds.spends_of_reads (proceeds : Proceeds start begun (work, host))
    {record : RecordLock} (reads : work.Reads host record) :
    begun.locker.Spends start begun.lock record := by
  rcases reads with ⟨⟨owned, stage⟩, isOwner, found, looked⟩
  have sees := proceeds.sees
  simp only [Sees, stage] at sees
  refine ⟨isOwner.trans proceeds.continues.process, ?_, ?_⟩
  · rw [← proceeds.continues.settings]
    exact sees.2
  · intro known
    rcases Host.stat_eq_ok_iff.mp looked with ⟨writable, isFound⟩
    rcases proceeds.stems.inherits.find known isFound with ⟨old, wasFound⟩
    rw [proceeds.continues.lock] at writable wasFound
    exact ⟨old, Host.stat_eq_ok_iff.mpr ⟨writable, wasFound⟩⟩

theorem Proceeds.step (proceeds : Proceeds start begun (work, host))
    (going : ∀ status, work.stage ≠ .finished status)
    (rested : ∀ wake, work.stage = .resting wake → wake ≤ host.now) :
    Proceeds start begun (work.step host) ∧
      (work.step host).1.rank (work.step host).2 < work.rank host := by
  have advances := advances_step proceeds.stems proceeds.sees going rested
  refine ⟨⟨?_, proceeds.stems.step, advances.sees, ?_, ?_⟩, advances.rank⟩
  · exact proceeds.continues.trans (continues_step work host)
  · exact holdsRightly_step host proceeds.rightly
  · refine proceeds.wears.trans ((work.wears_step host).mono ?_)
    exact fun record reads => proceeds.spends_of_reads reads

theorem Proceeds.elapse (proceeds : Proceeds start begun (work, host)) {wake : Instant}
    (stage : work.stage = .resting wake) :
    Proceeds start begun (work, host.elapseUntil wake) where
  continues := proceeds.continues
  stems := proceeds.stems.elapse wake
  sees := by simp only [Sees, stage]
  rightly := proceeds.rightly
  wears := proceeds.wears.trans (host.wears_elapseUntil wake)

/-- Before it has ended, the `rank` of an acquisition falls with each round. -/
theorem Proceeds.round (proceeds : Proceeds start begun state)
    (going : ∀ status, state.1.stage ≠ .finished status) :
    Proceeds start begun (round state) ∧
      (Acquisition.round state).1.rank (Acquisition.round state).2 < state.1.rank state.2 := by
  rcases round_eq_step state with ⟨later, same, rested, rfl | ⟨wake, stage, rfl⟩⟩
  · rw [same]
    exact proceeds.step going rested
  · have sameRank : state.1.rank (state.2.elapseUntil wake) = state.1.rank state.2 := by
      simp only [rank_of_stage stage, AcquisitionStage.rank]
    rw [same, ← sameRank]
    exact (proceeds.elapse stage).step going rested

theorem exists_finished_of_rank (none : state.1.rank state.2 = 0) :
    ∃ status, state.1.stage = .finished status := by
  cases stage : state.1.stage with
  | finished status => exact ⟨status, rfl⟩
  | linking | comparing | comparingLock =>
      simp only [rank_of_stage stage, AcquisitionStage.rank] at none
      split at none <;> omega
  | releasing | creating | writing | discarding | judging | readingOwner | askingOwner
  | rechecking | breaking | resting | clearing =>
      simp only [rank_of_stage stage, AcquisitionStage.rank] at none
      omega

theorem Proceeds.iterate (count : Nat) (proceeds : Proceeds start begun state)
    (enough : state.1.rank state.2 ≤ count) :
    Proceeds start begun (Acquisition.round^[count] state) ∧
      ∃ status, (Acquisition.round^[count] state).1.stage = .finished status := by
  induction count generalizing state with
  | zero => exact ⟨proceeds, exists_finished_of_rank (Nat.le_zero.mp enough)⟩
  | succ count ih =>
      rw [Function.iterate_succ_apply]
      by_cases ended : ∃ status, state.1.stage = .finished status
      · rcases ended with ⟨status, stage⟩
        rw [round_of_finished stage]
        refine ih proceeds ?_
        rw [rank_of_stage stage]
        exact Nat.zero_le count
      · have going : ∀ status, state.1.stage ≠ .finished status := by
          intro status stage
          exact ended ⟨status, stage⟩
        rcases proceeds.round going with ⟨proceedsNext, less⟩
        exact ih proceedsNext (by omega)

theorem proceeds_begin {locker : Locker} {user lock : String} (retries : UInt32)
    (sound : host.files.Sound) (found : locker.lockPath host user = .ok lock) :
    Proceeds host (begin locker host user lock retries).1
      (begin locker host user lock retries) where
  continues := .refl _
  stems := stems_begin retries sound found
  sees := by
    rcases held : locker.held with _ | holding
    · simp [begin, held, Sees]
    · simp [begin, held, Sees]
  rightly := by
    rcases held : locker.held with _ | holding
    · simp [begin, held, HoldsRightly]
    · simp [begin, held, HoldsRightly]
  wears := .of_sameWorld (host.sameWorld_draw UInt32.size)

theorem rank_begin_le (locker : Locker) (host : Host) (user lock : String) (retries : UInt32) :
    (begin locker host user lock retries).1.rank (begin locker host user lock retries).2 ≤
      (begin locker host user lock retries).1.stepLimit host := by
  have bound : (begin locker host user lock retries).1.rank
      (begin locker host user lock retries).2 ≤ 7 * retries.toNat + 15 := by
    rcases held : locker.held with _ | holding
    · simp only [begin, held, rank, left, AcquisitionStage.rank, Option.isSome_none,
        Bool.false_eq_true, if_false]
      omega
    · simp only [begin, held, rank, left, AcquisitionStage.rank, Option.isSome_some, if_true]
      omega
  have limit : (begin locker host user lock retries).1.stepLimit host =
      10 * (retries.toNat + host.agenda.length + 4) := rfl
  omega

end Acquisition

namespace Locker

variable {locker next : Locker} {host after : Host} {user lock : String} {retries : UInt32}
  {status : MailLockStatus}

/-- An acquisition that was asked for with an acceptable name comes to an end. -/
theorem exists_finished_of_acquire (sound : host.files.Sound)
    (found : locker.lockPath host user = .ok lock)
    (acquired : locker.acquire host user retries = (status, next, after)) :
    ∃ count done,
      done = Acquisition.round^[count] (Acquisition.begin locker host user lock retries) ∧
      done.1.stage = .finished status ∧ done.1.locker = next ∧ done.2 = after ∧
      Acquisition.Proceeds host (Acquisition.begin locker host user lock retries).1 done := by
  rcases locker.acquire_eq found with ⟨count, isLimit, result⟩
  have enough := Acquisition.rank_begin_le locker host user lock retries
  rw [← isLimit] at enough
  rcases (Acquisition.proceeds_begin retries sound found).iterate count enough with
    ⟨proceeds, reached, ended⟩
  rw [result] at acquired
  simp only [Acquisition.status?, ended, Option.getD_some, Prod.mk.injEq] at acquired
  rcases acquired with ⟨rfl, isNext, isAfter⟩
  exact ⟨count, _, rfl, ended, isNext, isAfter, proceeds⟩

end Locker

end MailSpool

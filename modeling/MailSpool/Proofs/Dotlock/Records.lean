import MailSpool.Proofs.Dotlock.Freshness
import MailSpool.Proofs.Dotlock.Outcome
import MailSpool.Proofs.Spool.Peace

/-!
# The record in a lock

A lock that was just taken is the file that was made for it, and holds the whole record of the owner
that its locker records, by `recorded_of_acquire`.
-/

namespace MailSpool

open FileSystem

namespace Acquisition

variable {work : Acquisition} {host : Host} {own : Option FileId} {start : Instant}
  {lock : String} {owner : UInt32}

theorem clearing_of_finished (going : ∀ status, work.stage ≠ .finished status)
    (ended : (work.step host).1.stage = .finished .success) :
    work.stage = .clearing .success ∧
      (work.step host).1.locker.held = some { user := work.user, path := work.lock } ∧
      (work.step host).2.files = host.remaining work.temporary := by
  have effect := effect_step work host
  generalize work.step host = result at effect ended
  cases effect with
  | clears status stage next held files =>
      cases next.symm.trans ended
      exact ⟨stage, held, files⟩
  | refuses refused written unseen other linked =>
      have stillRefused := refused.refused
      simp [ended, AcquisitionStage.IsRefused] at stillRefused
  | rests status stage same => exact absurd stage (going status)
  | releases stage next | creates _ stage next | stops stage next | fills _ stage next
  | spoils _ stage next | discards stage next | links stage next | misses _ stage next
  | compares _ _ _ stage next | confirms _ _ _ stage next | breaks _ _ stage next =>
      simp [next] at ended

/-- The lock that is taken in the last step is the file that was written. -/
theorem Timed.recorded_of_finished (timed : work.Timed host own start)
    (going : ∀ status, work.stage ≠ .finished status)
    (ended : (work.step host).1.stage = .finished .success) :
    ∃ file, (work.step host).2.named? work.lock = some file ∧
      (work.step host).2.files.node? file =
        some (.regular (ownerRecord work.locker.recordedOwner)) := by
  rcases clearing_of_finished going ended with ⟨cleared, held, files⟩
  rcases timed.named?_remaining cleared files with ⟨file, isOwn, named⟩
  rcases Participant.recorded_step timed.orderly timed.sound (Or.inl (by simp [held])) with
    ⟨other, isOther, regular⟩
  have same : file = other := by simpa [ended, AcquisitionStage.made?, isOwn] using isOther
  rw [(continues_step work host).owner, ← same] at regular
  exact ⟨file, named, regular⟩

/-- What holds of an acquisition that has begun at a time, and of the content of the lock that it
has taken. -/
structure Records (start : Instant) (lock : String) (owner : UInt32) (state : Acquisition × Host) :
    Prop where
  fresh : Fresh start lock state
  recorded : state.1.locker.recordedOwner = owner
  ended : state.1.stage = .finished .success → ∃ file, state.2.named? lock = some file ∧
    state.2.files.node? file = some (.regular (ownerRecord owner))

theorem Records.step (records : Records start lock owner (work, host))
    (going : ∀ status, work.stage ≠ .finished status) :
    Records start lock owner (work.step host) where
  fresh := records.fresh.step going
  recorded := by
    rw [(continues_step work host).owner]
    exact records.recorded
  ended ended := by
    rcases records.fresh.going going with ⟨own, timed⟩
    rw [← records.fresh.isLock, ← records.recorded]
    exact timed.recorded_of_finished going ended

theorem records_iterate {state : Acquisition × Host} (records : Records start lock owner state)
    (count : Nat) : Records start lock owner (round^[count] state) :=
  iterate_round_induction (Records start lock owner)
    (fun _ _ _ stage records =>
      ⟨records.fresh.elapse stage, records.recorded, fun ended => by simp [stage] at ended⟩)
    (fun _ _ going _ records => records.step going) records count

theorem records_begin {locker : Locker} {user : String} (sound : host.files.Sound)
    (quiet : host.IsQuiet) (retries : UInt32) (found : locker.lockPath host user = .ok lock) :
    Records host.now lock locker.recordedOwner
      (round (begin locker host user lock retries)) := by
  have first : (begin locker host user lock retries).1.stage = .releasing ∨
      (begin locker host user lock retries).1.stage = .creating := by
    rw [begin_eq]
    by_cases held : locker.held.isSome <;> simp [held]
  have fresh := fresh_begin sound quiet retries found
  rcases round_eq_step (begin locker host user lock retries) with ⟨later, same, _⟩
  rw [same] at fresh ⊢
  refine ⟨fresh, (continues_step _ later).owner, fun ended => ?_⟩
  have going : ∀ status, (begin locker host user lock retries).1.stage ≠ .finished status := by
    intro status
    rcases first with stage | stage <;> simp [stage]
  have cleared := (clearing_of_finished going ended).1
  rcases first with stage | stage <;> simp [stage] at cleared

end Acquisition

/-- A lock that was just taken is a file that was made for it, and its content is the `ownerRecord`
of the `recordedOwner`. -/
theorem Locker.recorded_of_acquire {locker next : Locker} {host after : Host} {user lock : String}
    {retries : UInt32} (sound : host.files.Sound) (quiet : host.IsQuiet)
    (found : locker.lockPath host user = .ok lock)
    (taken : locker.acquire host user retries = (.success, next, after)) :
    ∃ file, after.named? lock = some file ∧
      after.files.node? file = some (.regular (ownerRecord locker.recordedOwner)) := by
  rcases Locker.exists_finished_of_acquire sound found taken with
    ⟨count, done, isDone, ended, _, isAfter, _⟩
  rcases count with _ | count
  · rw [isDone, Function.iterate_zero_apply, Acquisition.begin_eq] at ended
    by_cases held : locker.held.isSome <;> simp [held] at ended
  · rw [Function.iterate_succ_apply] at isDone
    have records := Acquisition.records_iterate
      (Acquisition.records_begin sound quiet retries found) count
    rw [← isDone] at records
    rw [← isAfter]
    exact records.ended ended

end MailSpool

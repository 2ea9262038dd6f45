import Mathlib.Logic.Function.Iterate
import MailSpool.Dotlock.Acquisition
import MailSpool.Proofs.Host.Time

/-!
# Rounds

Taking a lock is a number of times `round`: one step each, after the rest if the locker rests. An
acquisition that has ended stays as it is, so what a step and the passing of time preserve holds
after any number of rounds.
-/

namespace MailSpool

namespace Acquisition

/-- One step, after the time for which the locker rests. -/
def round (state : Acquisition × Host) : Acquisition × Host :=
  match state.1.stage with
  | .resting wake => state.1.step (state.2.elapseUntil wake)
  | _ => state.1.step state.2

theorem round_of_finished {state : Acquisition × Host} {status : MailLockStatus}
    (ended : state.1.stage = .finished status) : round state = state := by
  unfold round
  rw [ended]
  exact step_of_finished state.2 ended

theorem run_eq_iterate (count : Nat) (work : Acquisition) (host : Host) :
    run count work host = round^[count] (work, host) := by
  induction count generalizing work host with
  | zero => rfl
  | succ count ih =>
      rw [Function.iterate_succ_apply]
      cases stage : work.stage with
      | finished status =>
          rw [round_of_finished stage, ← ih]
          cases count with
          | zero => simp [run, stage]
          | succ count => simp [run, stage]
      | resting wake =>
          rw [run, stage, ← ih]
          simp only [round, stage]
      | releasing | creating | writing | discarding | linking | comparing | comparingLock
      | judging | readingOwner | askingOwner | rechecking | breaking | clearing =>
          rw [run, stage, ← ih]
          simp only [round, stage]

/-- A `round` is a `step` that is made when the rest is over. -/
theorem round_eq_step (state : Acquisition × Host) :
    ∃ later, round state = state.1.step later ∧
      (∀ wake, state.1.stage = .resting wake → wake ≤ later.now) ∧
      (later = state.2 ∨ ∃ wake, state.1.stage = .resting wake ∧
        later = state.2.elapseUntil wake) := by
  unfold round
  split
  case h_1 wake stage =>
    refine ⟨state.2.elapseUntil wake, rfl, ?_, Or.inr ⟨wake, stage, rfl⟩⟩
    intro other sameStage
    cases stage.symm.trans sameStage
    exact state.2.le_now_elapseUntil wake
  case h_2 awake => exact ⟨state.2, rfl, fun wake stage => absurd stage (awake wake), Or.inl rfl⟩

section Induction

variable (Invariant : Acquisition × Host → Prop)
  (elapse : ∀ work host wake, work.stage = .resting wake → Invariant (work, host) →
    Invariant (work, host.elapseUntil wake))
  (step : ∀ work host, (∀ status, work.stage ≠ .finished status) →
    (∀ wake, work.stage = .resting wake → wake ≤ host.now) → Invariant (work, host) →
    Invariant (work.step host))
include elapse step

/-- A `round` preserves what a `step` preserves, and the passing of time before it. -/
theorem round_induction {state : Acquisition × Host} (holds : Invariant state) :
    Invariant (round state) := by
  by_cases ended : ∃ status, state.1.stage = .finished status
  · rcases ended with ⟨status, stage⟩
    rw [round_of_finished stage]
    exact holds
  · have going : ∀ status, state.1.stage ≠ .finished status := by
      intro status stage
      exact ended ⟨status, stage⟩
    rcases round_eq_step state with ⟨later, same, rested, rfl | ⟨wake, stage, rfl⟩⟩
    · rw [same]
      exact step _ _ going rested holds
    · rw [same]
      exact step _ _ going rested (elapse state.1 state.2 wake stage holds)

theorem iterate_round_induction {state : Acquisition × Host} (holds : Invariant state)
    (count : Nat) : Invariant (round^[count] state) := by
  induction count generalizing state with
  | zero => exact holds
  | succ count ih =>
      rw [Function.iterate_succ_apply]
      exact ih (round_induction Invariant elapse step holds)

end Induction

theorem finished_of_status? {work : Acquisition} {status : MailLockStatus}
    (ended : work.status? = some status) : work.stage = .finished status := by
  unfold status? at ended
  split at ended
  case h_1 found stage =>
    cases ended
    exact stage
  case h_2 => simp at ended

theorem stage_of_status? {work : Acquisition} (success : work.status?.getD .error = .success) :
    work.stage = .finished .success := by
  apply finished_of_status?
  rcases found : work.status? with _ | status
  · simp [found] at success
  · simpa [found] using success

end Acquisition

namespace Locker

variable {locker : Locker} {host : Host} {user : String} {retries : UInt32}

/-- To `acquire` a lock is to make rounds, up to `stepLimit` of them. -/
theorem acquire_eq {lock : String} (found : locker.lockPath host user = .ok lock) :
    ∃ count, count = (Acquisition.begin locker host user lock retries).1.stepLimit host ∧
      locker.acquire host user retries =
        ((Acquisition.round^[count]
          (Acquisition.begin locker host user lock retries)).1.status?.getD
            .error,
          (Acquisition.round^[count] (Acquisition.begin locker host user lock retries)).1.locker,
          (Acquisition.round^[count] (Acquisition.begin locker host user lock retries)).2) := by
  refine ⟨_, rfl, ?_⟩
  unfold acquire
  simp only [found, Acquisition.run_eq_iterate]

theorem acquire_of_rejected {status : MailLockStatus}
    (rejected : locker.lockPath host user = .error status) :
    locker.acquire host user retries = locker.reject host user status := by
  simp only [acquire, rejected]

end Locker

theorem Acquisition.acquire_eq_of_iterate {locker : Locker} {host : Host} {user : String}
    {retries : UInt32} {status : MailLockStatus} (lock : String) (count : Nat)
    (found : locker.lockPath host user = .ok lock)
    (limit : count ≤ (Acquisition.begin locker host user lock retries).1.stepLimit host)
    (ended : (round^[count] (Acquisition.begin locker host user lock retries)).1.stage =
      .finished status) :
    locker.acquire host user retries =
      (status, (round^[count] (Acquisition.begin locker host user lock retries)).1.locker,
        (round^[count] (Acquisition.begin locker host user lock retries)).2) := by
  rcases Nat.exists_eq_add_of_le' limit with ⟨more, total⟩
  rcases locker.acquire_eq found with ⟨steps, isLimit, acquired⟩
  rw [acquired, isLimit, total, Function.iterate_add_apply,
    Function.iterate_fixed (round_of_finished ended)]
  simp [status?, ended]

end MailSpool

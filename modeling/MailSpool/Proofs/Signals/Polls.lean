import Mathlib.Logic.Function.Iterate
import MailSpool.Host.Signals
import MailSpool.Proofs.Host.Stillness

/-!
# What a poll reports

A poll asks whether its time is up before it looks at the flag, and when its time is up it ends
without another look. Handlers may set the flag between any two of its steps. So what a poll reports
is not whether the flag is set when it ends, but whether it was set when the poll looked,
`LooksInTime`: a signal that comes after the last look, or before a poll that has no time at all, is
told as a timeout.

On a host no time passes but in the rests of a poll. There the looks are a tenth of a second apart,
from the start on, as many as there is time for.
-/

namespace MailSpool

namespace Poll

/-- What a step of a poll does. -/
inductive Turn (poll : Poll) (cells : SignalCells) (now : Instant) (next : Poll) : Prop where
  | goesOn (stage : poll.stage = .askingTime) (early : now - poll.start < poll.timeout)
      (result : next = { poll with stage := .askingFlag })
  | runsOut (stage : poll.stage = .askingTime) (late : poll.timeout ≤ now - poll.start)
      (result : next = { poll with stage := .finished false })
  | sees (stage : poll.stage = .askingFlag) (set : cells.shutdown = true)
      (result : next = { poll with stage := .finished true })
  | rests (stage : poll.stage = .askingFlag) (unset : cells.shutdown = false)
      (result : next = { poll with stage := .resting (now + pause) })
  | wakes (wake : Instant) (stage : poll.stage = .resting wake) (awake : wake ≤ now)
      (result : next = { poll with stage := .askingTime })
  | sleeps (wake : Instant) (stage : poll.stage = .resting wake) (early : now < wake)
      (result : next = poll)
  | stays (signalled : Bool) (stage : poll.stage = .finished signalled) (result : next = poll)

theorem turn_step (poll : Poll) (cells : SignalCells) (now : Instant) :
    Turn poll cells now (poll.step cells now) := by
  cases stage : poll.stage with
  | askingTime =>
      by_cases early : now - poll.start < poll.timeout
      · exact .goesOn stage early (by simp [step, stage, early])
      · exact .runsOut stage (Int.not_lt.mp early) (by simp [step, stage, early])
  | askingFlag =>
      cases set : cells.shutdown with
      | true => exact .sees stage set (by simp [step, stage, set])
      | false => exact .rests stage set (by simp [step, stage, set])
  | resting wake =>
      by_cases awake : wake ≤ now
      · exact .wakes wake stage awake (by simp [step, stage, awake])
      · exact .sleeps wake stage (Int.not_le.mp awake) (by simp [step, stage, awake])
  | finished signalled => exact .stays signalled stage (by simp [step, stage])

end Poll

theorem SignalCells.shutdown_store {cells : SignalCells} (set : cells.shutdown = true)
    (store : Store) : (cells.store store).shutdown = true := by
  cases store with
  | number signal => exact set
  | shutdown => rfl

/-- A poll and the cells that it looks at, with an account of its steps. -/
structure Polling where
  poll : Poll
  cells : SignalCells
  now : Instant
  /-- How often the poll has looked at the flag. -/
  looks : Nat := 0
  /-- Steps of the poll, apart from those in which it goes on to rest. -/
  steps : Nat := 0

/-- What happens in the course of a poll. -/
inductive PollingEvent where
  | step
  /-- A handler makes a store. -/
  | store (store : SignalCells.Store)
  | pass (duration : Nat)

namespace Polling

def begin (cells : SignalCells) (now : Instant) (timeout : Nat) : Polling where
  poll := { start := now, timeout := timeout }
  cells := cells
  now := now

def isAsleep (polling : Polling) : Bool :=
  match polling.poll.stage with
  | .resting wake => polling.now < wake
  | _ => false

def move (polling : Polling) : PollingEvent → Polling
  | .step =>
    { polling with
      poll := polling.poll.step polling.cells polling.now
      looks := polling.looks + if polling.poll.stage = .askingFlag then 1 else 0
      steps := polling.steps + if polling.isAsleep then 0 else 1 }
  | .store store => { polling with cells := polling.cells.store store }
  | .pass duration => { polling with now := polling.now + duration }

def run (polling : Polling) (events : List PollingEvent) : Polling :=
  events.foldl move polling

/-- The poll looks at the flag after it has been set. -/
def LooksInTime (polling : Polling) (events : List PollingEvent) : Prop :=
  ∃ early late, events = early ++ late ∧ (polling.run early).cells.shutdown = true ∧
    (polling.run early).looks < (polling.run events).looks

variable {polling : Polling}

theorem run_append (polling : Polling) (early late : List PollingEvent) :
    polling.run (early ++ late) = (polling.run early).run late :=
  List.foldl_append

/-! ## The pace of a poll -/

/-- Between two looks a poll makes three steps, and a tenth of a second passes at least. It looks
only while there is time, and it runs out of time only when there is none left. -/
def Paced (polling : Polling) : Prop :=
  match polling.poll.stage with
  | .askingTime =>
    polling.poll.start + (polling.looks * Poll.pause : Nat) ≤ polling.now ∧
      polling.looks * Poll.pause < polling.poll.timeout + Poll.pause ∧
      polling.steps = 3 * polling.looks
  | .askingFlag =>
    polling.poll.start + (polling.looks * Poll.pause : Nat) ≤ polling.now ∧
      polling.looks * Poll.pause < polling.poll.timeout ∧ polling.steps = 3 * polling.looks + 1
  | .resting wake =>
    polling.poll.start + (polling.looks * Poll.pause : Nat) ≤ wake ∧
      polling.looks * Poll.pause < polling.poll.timeout + Poll.pause ∧
      polling.steps + 1 = 3 * polling.looks
  | .finished true => True
  | .finished false => polling.poll.start + polling.poll.timeout ≤ polling.now

theorem paced_begin (cells : SignalCells) (now : Instant) (timeout : Nat) :
    (begin cells now timeout).Paced := by
  simp [Paced, begin, Poll.pause, milliseconds]

theorem spent_lt_of_early {start now : Int} {spent timeout : Nat} (passed : start + spent ≤ now)
    (early : now - start < timeout) : spent < timeout := by
  omega

theorem start_le_of_late {start now : Int} {timeout : Nat} (late : timeout ≤ now - start) :
    start + timeout ≤ now := by
  omega

theorem Paced.step (paced : polling.Paced) : (polling.move .step).Paced := by
  have turn := polling.poll.turn_step polling.cells polling.now
  unfold move
  generalize polling.poll.step polling.cells polling.now = next at turn
  cases turn with
  | goesOn stage early result =>
      simp only [Paced, stage] at paced
      obtain ⟨passed, few, steps⟩ := paced
      simp only [Paced, result, stage, isAsleep, reduceCtorEq, if_false, Nat.add_zero,
        Bool.false_eq_true, steps]
      exact ⟨passed, spent_lt_of_early passed early, trivial⟩
  | runsOut stage late result =>
      simp only [Paced, result]
      exact start_le_of_late late
  | sees stage set result => simp only [Paced, result]
  | rests stage unset result =>
      simp only [Paced, stage] at paced
      obtain ⟨passed, few, steps⟩ := paced
      simp only [Paced, result, stage, isAsleep, if_true, Bool.false_eq_true, if_false,
        Nat.succ_mul, Int.natCast_add, ← Int.add_assoc, steps]
      exact ⟨Int.add_le_add_right passed _, by omega, by omega⟩
  | wakes wake stage awake result =>
      simp only [Paced, stage] at paced
      obtain ⟨passed, few, steps⟩ := paced
      simp only [Paced, result, stage, isAsleep, reduceCtorEq, if_false, Nat.add_zero,
        decide_eq_true_eq, Int.not_lt.mpr awake, steps]
      exact ⟨Int.le_trans passed awake, few, trivial⟩
  | sleeps wake stage early result =>
      simp only [Paced, stage] at paced
      simpa only [Paced, result, stage, isAsleep, reduceCtorEq, if_false, Nat.add_zero,
        decide_eq_true_eq, early, if_true] using paced
  | stays signalled stage result =>
      cases signalled with
      | true => simp only [Paced, result, stage]
      | false =>
          simp only [Paced, stage] at paced
          simpa only [Paced, result, stage] using paced

theorem Paced.pass (paced : polling.Paced) (duration : Nat) :
    (polling.move (.pass duration)).Paced := by
  have later : polling.now ≤ polling.now + duration :=
    Int.le_add_of_nonneg_right (Int.natCast_nonneg duration)
  cases stage : polling.poll.stage with
  | askingTime | askingFlag =>
      simp only [Paced, stage] at paced
      simp only [Paced, move, stage]
      exact ⟨Int.le_trans paced.1 later, paced.2⟩
  | resting wake => simpa only [Paced, move, stage] using paced
  | finished signalled =>
      cases signalled with
      | true => simp only [Paced, move, stage]
      | false =>
          simp only [Paced, stage] at paced
          simp only [Paced, move, stage]
          exact Int.le_trans paced later

theorem Paced.run (paced : polling.Paced) (events : List PollingEvent) :
    (polling.run events).Paced := by
  induction events generalizing polling with
  | nil => exact paced
  | cons event later ih =>
      cases event with
      | step => exact ih paced.step
      | store store =>
          change ((polling.move (.store store)).run later).Paced
          refine ih ?_
          exact paced
      | pass duration => exact ih (paced.pass duration)

theorem poll_move (polling : Polling) (event : PollingEvent) :
    (polling.move event).poll.start = polling.poll.start ∧
      (polling.move event).poll.timeout = polling.poll.timeout := by
  cases event with
  | store store | pass duration => exact ⟨rfl, rfl⟩
  | step =>
      have turn := polling.poll.turn_step polling.cells polling.now
      unfold move
      generalize polling.poll.step polling.cells polling.now = next at turn
      cases turn with
      | goesOn _ _ result | runsOut _ _ result | sees _ _ result | rests _ _ result
      | wakes _ _ _ result | sleeps _ _ _ result | stays _ _ result =>
          rw [result]
          exact ⟨rfl, rfl⟩

theorem poll_run (polling : Polling) (events : List PollingEvent) :
    (polling.run events).poll.start = polling.poll.start ∧
      (polling.run events).poll.timeout = polling.poll.timeout := by
  induction events generalizing polling with
  | nil => exact ⟨rfl, rfl⟩
  | cons event later ih =>
      rcases polling.poll_move event with ⟨sameStart, sameTimeout⟩
      rw [← sameStart, ← sameTimeout]
      exact ih (polling.move event)

theorem Paced.exists_finished (paced : polling.Paced)
    (many : Host.pollLimit polling.poll.timeout ≤ polling.steps) :
    ∃ signalled, polling.poll.stage = .finished signalled := by
  have positive : 0 < Poll.pause := by decide
  have fewLooks : polling.looks * Poll.pause < polling.poll.timeout + Poll.pause →
      polling.looks ≤ polling.poll.timeout / Poll.pause + 1 := by
    intro few
    rw [← Nat.add_div_right _ positive, Nat.le_div_iff_mul_le positive]
    exact Nat.le_of_lt few
  unfold Host.pollLimit at many
  cases stage : polling.poll.stage with
  | finished signalled => exact ⟨signalled, rfl⟩
  | askingTime =>
      simp only [Paced, stage] at paced
      have looks := fewLooks paced.2.1
      omega
  | askingFlag =>
      simp only [Paced, stage] at paced
      have looks := fewLooks (Nat.lt_add_right _ paced.2.1)
      omega
  | resting wake =>
      simp only [Paced, stage] at paced
      have looks := fewLooks paced.2.1
      omega

/-! ## What was seen -/

theorem shutdown_move (set : polling.cells.shutdown = true) (event : PollingEvent) :
    (polling.move event).cells.shutdown = true := by
  cases event with
  | step | pass duration => exact set
  | store store => exact SignalCells.shutdown_store set store

theorem shutdown_run (set : polling.cells.shutdown = true) (events : List PollingEvent) :
    (polling.run events).cells.shutdown = true := by
  induction events generalizing polling with
  | nil => exact set
  | cons event later ih => exact ih (shutdown_move set event)

theorem looks_le_run (polling : Polling) (events : List PollingEvent) :
    polling.looks ≤ (polling.run events).looks := by
  induction events generalizing polling with
  | nil => exact Nat.le_refl _
  | cons event later ih =>
      refine Nat.le_trans ?_ (ih (polling.move event))
      cases event with
      | step => exact Nat.le_add_right ..
      | store store | pass duration => exact Nat.le_refl _

/-- Once the flag is set, a step does not look at it, or sees it. -/
theorem seen_or_unlooked_move {looks : Nat} (set : polling.cells.shutdown = true)
    (event : PollingEvent)
    (holds : polling.looks = looks ∨ polling.poll.stage = .finished true) :
    (polling.move event).looks = looks ∨ (polling.move event).poll.stage = .finished true := by
  cases event with
  | store store | pass duration => exact holds
  | step =>
      have turn := polling.poll.turn_step polling.cells polling.now
      unfold move
      generalize polling.poll.step polling.cells polling.now = next at turn
      cases turn with
      | sees stage seen result => exact Or.inr (by rw [result])
      | rests stage unset result => simp [set] at unset
      | stays signalled stage result => simpa [result, stage] using holds
      | goesOn stage early result | runsOut stage late result | wakes wake stage awake result
      | sleeps wake stage early result =>
          have unlooked : polling.looks = looks := holds.resolve_right (by simp [stage])
          exact Or.inl (by simp [stage, unlooked])

theorem seen_or_unlooked {looks : Nat} (set : polling.cells.shutdown = true)
    (events : List PollingEvent)
    (holds : polling.looks = looks ∨ polling.poll.stage = .finished true) :
    (polling.run events).looks = looks ∨ (polling.run events).poll.stage = .finished true := by
  induction events generalizing polling with
  | nil => exact holds
  | cons event later ih =>
      exact ih (shutdown_move set event) (seen_or_unlooked_move set event holds)

theorem set_of_seen {event : PollingEvent} (unseen : polling.poll.stage ≠ .finished true)
    (seen : (polling.move event).poll.stage = .finished true) :
    polling.cells.shutdown = true ∧ (polling.move event).looks = polling.looks + 1 := by
  cases event with
  | store store | pass duration => exact absurd seen unseen
  | step =>
      have turn := polling.poll.turn_step polling.cells polling.now
      unfold move at seen ⊢
      generalize polling.poll.step polling.cells polling.now = next at turn seen
      cases turn with
      | sees stage set result => exact ⟨set, by simp [stage]⟩
      | stays signalled stage result =>
          rw [result] at seen
          exact absurd seen unseen
      | goesOn _ _ result | runsOut _ _ result | rests _ _ result | wakes _ _ _ result =>
          simp [result] at seen
      | sleeps wake stage early result => simp [result, stage] at seen

theorem looksInTime_of_seen {events : List PollingEvent}
    (unseen : polling.poll.stage ≠ .finished true)
    (seen : (polling.run events).poll.stage = .finished true) : polling.LooksInTime events := by
  induction events generalizing polling with
  | nil => exact absurd seen unseen
  | cons event later ih =>
      by_cases now : (polling.move event).poll.stage = .finished true
      · rcases set_of_seen unseen now with ⟨set, looked⟩
        refine ⟨[], event :: later, rfl, set, ?_⟩
        have more := (polling.move event).looks_le_run later
        change polling.looks < ((polling.move event).run later).looks
        omega
      · rcases ih now seen with ⟨early, late, split, set, looked⟩
        exact ⟨event :: early, late, by rw [split]; rfl, set, looked⟩

/-- A poll reports a signal exactly if it `LooksInTime`: at the flag, after the signal has set it.
-/
theorem seen_iff_looksInTime {events : List PollingEvent}
    (unseen : polling.poll.stage ≠ .finished true) :
    (polling.run events).poll.stage = .finished true ↔ polling.LooksInTime events := by
  refine ⟨looksInTime_of_seen unseen, ?_⟩
  rintro ⟨early, late, rfl, set, looked⟩
  rw [run_append] at looked ⊢
  exact (seen_or_unlooked set late (Or.inl rfl)).resolve_left (Nat.ne_of_gt looked)

theorem LooksInTime.shutdown {events : List PollingEvent} (inTime : polling.LooksInTime events) :
    (polling.run events).cells.shutdown = true := by
  rcases inTime with ⟨early, late, rfl, set, _⟩
  rw [run_append]
  exact shutdown_run set late

end Polling

namespace Host

/-! ## Polls on a host -/

theorem now_elapse (host : Host) (duration : Nat) :
    (host.elapse duration).now = host.now + duration := by
  rw [elapse, now_elapseUntil]
  exact Int.max_eq_right (Int.le_add_of_nonneg_right (Int.natCast_nonneg duration))

/-- A host after a number of rests of a poll. -/
def rested (host : Host) (count : Nat) : Host :=
  (fun earlier => earlier.elapse Poll.pause)^[count] host

section Rounds

variable {host : Host} {process : ProcessId} {start : Instant} {timeout steps : Nat}

theorem pollSteps_of_late (late : timeout ≤ host.now - start) :
    pollSteps process (steps + 2) { start := start, timeout := timeout } host = (false, host) := by
  simp [pollSteps, Poll.step, Int.not_lt.mpr late]

theorem pollSteps_of_set (early : host.now - start < timeout)
    (set : (host.signals process).shutdown = true) :
    pollSteps process (steps + 3) { start := start, timeout := timeout } host = (true, host) := by
  simp [pollSteps, Poll.step, early, set]

theorem pollSteps_of_unset (early : host.now - start < timeout)
    (unset : (host.signals process).shutdown = false) :
    pollSteps process (steps + 3) { start := start, timeout := timeout } host =
      pollSteps process steps { start := start, timeout := timeout }
        (host.elapse Poll.pause) := by
  have awake : host.now + Poll.pause ≤ (host.elapse Poll.pause).now :=
    Int.le_of_eq (host.now_elapse Poll.pause).symm
  unfold elapse at awake ⊢
  simp [pollSteps, Poll.step, early, unset, awake]

theorem late_iff_of_spent {start now : Int} {spent timeout : Nat} (reached : now = start + spent) :
    timeout ≤ now - start ↔ timeout ≤ spent := by
  omega

theorem rested_succ (host : Host) (count : Nat) :
    host.rested (count + 1) = (host.elapse Poll.pause).rested count :=
  Function.iterate_succ_apply ..

/-- A poll on a host rests until it sees the flag or its time is up. -/
theorem exists_rested_of_pollSteps (process : ProcessId) (rounds : Nat) {looked : Nat}
    (reached : host.now = start + (looked * Poll.pause : Nat))
    (enough : timeout ≤ (looked + rounds) * Poll.pause) (fuel : 3 * rounds + 2 ≤ steps) :
    ∃ count signalled, pollSteps process steps { start := start, timeout := timeout } host =
        (signalled, host.rested count) ∧
      (∀ earlier < count, ((host.rested earlier).signals process).shutdown = false) ∧
      (signalled = true → (looked + count) * Poll.pause < timeout ∧
        ((host.rested count).signals process).shutdown = true) ∧
      (signalled = false → timeout ≤ (looked + count) * Poll.pause) := by
  induction rounds generalizing looked host steps with
  | zero =>
      obtain ⟨more, rfl⟩ := Nat.exists_eq_add_of_le' fuel
      have late := (late_iff_of_spent reached).mpr enough
      exact ⟨0, false, pollSteps_of_late late, by simp, by simp, fun _ => enough⟩
  | succ rounds ih =>
      obtain ⟨more, rfl⟩ : ∃ more, steps = more + (3 * rounds + 2) + 3 :=
        ⟨steps - (3 * rounds + 5), by omega⟩
      by_cases late : timeout ≤ looked * Poll.pause
      · have isLate := (late_iff_of_spent reached).mpr late
        exact ⟨0, false, pollSteps_of_late isLate, by simp, by simp, fun _ => late⟩
      have early : host.now - start < timeout :=
        Int.not_le.mp (mt (late_iff_of_spent reached).mp late)
      cases set : (host.signals process).shutdown with
      | true =>
          exact ⟨0, true, pollSteps_of_set early set, by simp,
            fun _ => ⟨Nat.not_le.mp late, set⟩, by simp⟩
      | false =>
          have later :
              (host.elapse Poll.pause).now = start + ((looked + 1) * Poll.pause : Nat) := by
            rw [now_elapse, reached, Nat.succ_mul, Int.natCast_add, Int.add_assoc]
          have shift : ∀ count, looked + 1 + count = looked + (count + 1) :=
            Nat.add_right_comm looked 1
          rw [← shift rounds] at enough
          rcases ih later enough (Nat.le_add_left ..) with
            ⟨count, signalled, result, unset, seen, missed⟩
          rw [shift count] at seen missed
          refine ⟨count + 1, signalled, ?_, ?_, ?_, missed⟩
          · rw [pollSteps_of_unset early set, result, rested_succ]
          · intro earlier less
            cases earlier with
            | zero => exact set
            | succ earlier =>
                rw [rested_succ]
                exact unset earlier (Nat.lt_of_succ_lt_succ less)
          · rw [rested_succ]
            exact seen

end Rounds

/-- `waitForSignal` reports a signal on a host exactly if the flag is set at one of the looks, which
are a `Poll.pause` apart. -/
theorem waitForSignal_iff (host : Host) (process : ProcessId) (timeout : Nat) :
    (host.waitForSignal process timeout).1 = true ↔
      ∃ count, count * Poll.pause < timeout ∧
        ((host.rested count).signals process).shutdown = true := by
  have start : host.now = host.now + (0 * Poll.pause : Nat) := by simp
  have enough : timeout ≤ (0 + (timeout / Poll.pause + 1)) * Poll.pause := by
    rw [Nat.zero_add, Nat.mul_comm]
    exact Nat.le_of_lt (Nat.lt_mul_div_succ timeout (by decide))
  have fuel : 3 * (timeout / Poll.pause + 1) + 2 ≤ pollLimit timeout := by
    unfold pollLimit
    omega
  rcases exists_rested_of_pollSteps process _ start enough fuel with
    ⟨count, signalled, result, unset, seen, missed⟩
  rw [waitForSignal, result]
  rw [Nat.zero_add] at seen missed
  constructor
  · intro isSeen
    exact ⟨count, seen isSeen⟩
  · rintro ⟨other, inTime, set⟩
    cases signalled with
    | true => rfl
    | false =>
        have before : other < count :=
          Nat.lt_of_mul_lt_mul_right (Nat.lt_of_lt_of_le inTime (missed rfl))
        simp [unset other before] at set

end Host

namespace Polling

/-- Whenever handlers make their stores: a poll comes to its end within `pollLimit` steps, and it
reports a signal exactly if it `LooksInTime`, at the flag and after that was set. So it never
reports a signal that has not come, nor a timeout before its time is up; it is wrong exactly if the
flag is set at the end and the poll has not looked since. On a host the looks of `waitForSignal` are
a `Poll.pause` apart. -/
theorem signalled_iff_looksInTime (cells : SignalCells) (now : Instant) (timeout : Nat)
    (events : List PollingEvent) {polling : Polling}
    (course : (begin cells now timeout).run events = polling) :
    (Host.pollLimit timeout ≤ polling.steps →
        ∃ signalled, polling.poll.stage = .finished signalled) ∧
      (∀ signalled, polling.poll.stage = .finished signalled →
        (signalled = true ↔ (begin cells now timeout).LooksInTime events) ∧
        (signalled = true → polling.cells.shutdown = true) ∧
        ((signalled = true ↔ polling.cells.shutdown = true) ↔
          (polling.cells.shutdown = true → (begin cells now timeout).LooksInTime events)) ∧
        (signalled = false → now + timeout ≤ polling.now)) ∧
      ∀ (host : Host) (process : ProcessId),
        (host.waitForSignal process timeout).1 = true ↔
          ∃ count, count * Poll.pause < timeout ∧
            ((host.rested count).signals process).shutdown = true := by
  have paced := (paced_begin cells now timeout).run events
  have sameStart : polling.poll.start = now :=
    course ▸ ((begin cells now timeout).poll_run events).1
  have sameTimeout : polling.poll.timeout = timeout :=
    course ▸ ((begin cells now timeout).poll_run events).2
  have seen : ((begin cells now timeout).run events).poll.stage = .finished true ↔
      (begin cells now timeout).LooksInTime events := seen_iff_looksInTime (by simp [begin])
  have set : (begin cells now timeout).LooksInTime events → polling.cells.shutdown = true :=
    fun inTime => course ▸ inTime.shutdown
  rw [course] at paced seen
  refine ⟨?_, ?_, fun host process => host.waitForSignal_iff process timeout⟩
  · intro many
    rw [← sameTimeout] at many
    exact paced.exists_finished many
  · intro signalled ended
    have looked : signalled = true ↔ (begin cells now timeout).LooksInTime events := by
      rw [← seen, ended]
      simp
    refine ⟨looked, fun isSeen => set (looked.mp isSeen), ?_, ?_⟩
    · rw [looked]
      exact ⟨Iff.mpr, fun inTime => ⟨set, inTime⟩⟩
    · rintro rfl
      rw [Paced, ended, sameStart, sameTimeout] at paced
      exact paced

/-- A poll of fifty milliseconds. A signal comes while it rests after its only look. -/
def lateSignal : List PollingEvent :=
  [.step, .step, .pass (milliseconds 20), .store (.number 15), .store .shutdown,
    .pass (milliseconds 80), .step, .step]

theorem signalled_iff_looksInTime_lateSignal :
    ((begin .clear 0 (milliseconds 50)).run lateSignal).poll.stage = .finished false ∧
      ((begin .clear 0 (milliseconds 50)).run lateSignal).cells.shutdown = true ∧
      ¬(begin .clear 0 (milliseconds 50)).LooksInTime lateSignal ∧
      0 + (milliseconds 50 : Nat) ≤ ((begin .clear 0 (milliseconds 50)).run lateSignal).now := by
  have ended : ((begin .clear 0 (milliseconds 50)).run lateSignal).poll.stage = .finished false :=
    by decide
  rcases (signalled_iff_looksInTime .clear 0 (milliseconds 50) lateSignal rfl).2.1 false ended with
    ⟨looked, _, _, late⟩
  exact ⟨ended, by decide, fun inTime => Bool.false_ne_true (looked.mpr inTime), late rfl⟩

end Polling

namespace Host

/-- A process that handles signals. -/
def alertHost : Host :=
  (boot 0 fun number => number).handleSignals 1

/-- A signal is told as a timeout when the poll has no time at all, although the signal came before,
and when the signal comes after the last look. -/
theorem signal_told_as_timeout :
    (((alertHost.signal 1 15).waitForSignal 1 0).1 = false ∧
        (((alertHost.signal 1 15).waitForSignal 1 0).2.signals 1).shutdown = true) ∧
      ∃ late, late = alertHost.appoint
          { due := milliseconds 20, period := none, deed := .signal 1 15 } ∧
        (late.waitForSignal 1 (milliseconds 50)).1 = false ∧
        ((late.waitForSignal 1 (milliseconds 50)).2.signals 1).shutdown = true := by
  refine ⟨by decide +kernel, _, rfl, by decide +kernel⟩

end Host

end MailSpool

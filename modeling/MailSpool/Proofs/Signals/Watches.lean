import MailSpool.Proofs.Signals.Polls

/-!
# What a watch ends with

A watch is a loop around polls, and a poll may miss a signal: it may end for want of time when the
flag has just been set. The flag is not cleared, though. So the next poll sees it at its first look,
provided that it has any time, and a signal costs the watch one more tick at most.

Handlers store the number before the flag. However they interrupt one another and the watch, they
stay `Honest`: the number that stands beside a flag that is set is therefore that of a signal that
was delivered, and so is the number of every handler that has only the flag left to set.
-/

namespace MailSpool

/-- The signals that a process handles. -/
inductive HandledSignal where
  | hangUp
  | interrupt
  | terminate
  deriving DecidableEq, Repr

namespace HandledSignal

def number : HandledSignal → Nat
  | hangUp => 1
  | interrupt => 2
  | terminate => 15

theorem number_ne_zero (signal : HandledSignal) : signal.number ≠ 0 := by
  cases signal <;> decide

end HandledSignal

/-- What happens to the cells of a process by signals. -/
inductive SignalEvent where
  /-- A signal is delivered, and its handler begins. -/
  | deliver (signal : HandledSignal)
  /-- One of the handlers makes its next store. -/
  | store (handler : Nat)
  deriving DecidableEq, Repr

/-- The cells of a process since they were cleared, and the handlers of its signals. -/
structure SignalTraffic where
  cells : SignalCells := .clear
  /-- For each handler, the stores that it has still to make. -/
  handlers : List (List SignalCells.Store) := []
  delivered : List HandledSignal := []

namespace SignalTraffic

def move (traffic : SignalTraffic) : SignalEvent → SignalTraffic
  | .deliver signal =>
    { traffic with
      handlers := traffic.handlers ++ [SignalCells.handling signal.number]
      delivered := traffic.delivered ++ [signal] }
  | .store handler =>
    match traffic.handlers[handler]? with
    | some (store :: left) =>
      { traffic with
        cells := traffic.cells.store store
        handlers := traffic.handlers.set handler left }
    | _ => traffic

def run (traffic : SignalTraffic) (events : List SignalEvent) : SignalTraffic :=
  events.foldl move traffic

/-- Every handler is that of a delivered signal. If the flag is set, or a handler has only the flag
left to set, then the number is that of a delivered signal. -/
structure Honest (traffic : SignalTraffic) : Prop where
  handlers : ∀ left ∈ traffic.handlers, ∃ signal ∈ traffic.delivered,
    left <:+ SignalCells.handling signal.number
  number : traffic.cells.shutdown = true ∨ [.shutdown] ∈ traffic.handlers →
    ∃ signal ∈ traffic.delivered, traffic.cells.number = signal.number

variable {traffic : SignalTraffic}

theorem honest_clear : Honest {} where
  handlers := by simp
  number := by simp [SignalCells.clear]

theorem Honest.deliver (honest : traffic.Honest) (signal : HandledSignal) :
    (traffic.move (.deliver signal)).Honest where
  handlers := by
    intro left member
    rcases List.mem_append.mp member with old | new
    · rcases honest.handlers left old with ⟨other, delivered, isSuffix⟩
      exact ⟨other, List.mem_append_left _ delivered, isSuffix⟩
    · rw [List.mem_singleton.mp new]
      exact ⟨signal, by simp [move], List.suffix_refl _⟩
  number := by
    intro told
    have old : traffic.cells.shutdown = true ∨ [.shutdown] ∈ traffic.handlers := by
      simpa [move, SignalCells.handling] using told
    rcases honest.number old with ⟨other, delivered, isNumber⟩
    exact ⟨other, List.mem_append_left _ delivered, isNumber⟩

theorem handling_cases {signal : Nat} {store : SignalCells.Store} {left : List SignalCells.Store}
    (rest : store :: left <:+ SignalCells.handling signal) :
    (store = .number signal ∧ left = [.shutdown]) ∨ (store = .shutdown ∧ left = []) := by
  rw [SignalCells.handling, List.suffix_cons_iff, List.suffix_cons_iff] at rest
  simpa using rest

/-- A handler that has come to its end makes no store. -/
theorem store_cases (traffic : SignalTraffic) (handler : Nat) :
    traffic.move (.store handler) = traffic ∨
      ∃ store left, store :: left ∈ traffic.handlers ∧
        traffic.move (.store handler) =
          { traffic with
            cells := traffic.cells.store store
            handlers := traffic.handlers.set handler left } := by
  simp only [move]
  split
  case h_1 store left found =>
    exact Or.inr ⟨store, left, List.mem_of_getElem? found, rfl⟩
  case h_2 => exact Or.inl rfl

theorem Honest.store (honest : traffic.Honest) (handler : Nat) :
    (traffic.move (.store handler)).Honest := by
  rcases traffic.store_cases handler with same | ⟨store, left, member, result⟩
  · rw [same]
    exact honest
  rw [result]
  rcases honest.handlers _ member with ⟨signal, delivered, rest⟩
  refine ⟨?_, ?_⟩
  · intro other isOther
    rcases List.mem_or_eq_of_mem_set isOther with old | rfl
    · exact honest.handlers other old
    · exact ⟨signal, delivered, (List.suffix_cons store other).trans rest⟩
  · intro told
    rcases handling_cases rest with ⟨rfl, rfl⟩ | ⟨rfl, rfl⟩
    · exact ⟨signal, delivered, rfl⟩
    · exact honest.number (Or.inr member)

theorem Honest.move (honest : traffic.Honest) (event : SignalEvent) :
    (traffic.move event).Honest := by
  cases event with
  | deliver signal => exact honest.deliver signal
  | store handler => exact honest.store handler

theorem Honest.run (honest : traffic.Honest) (events : List SignalEvent) :
    (traffic.run events).Honest := by
  induction events generalizing traffic with
  | nil => exact honest
  | cons event later ih => exact ih (honest.move event)

theorem shutdown_move (set : traffic.cells.shutdown = true) (event : SignalEvent) :
    (traffic.move event).cells.shutdown = true := by
  cases event with
  | deliver signal => exact set
  | store handler =>
      rcases traffic.store_cases handler with same | ⟨store, left, _, result⟩
      · rw [same]
        exact set
      · rw [result]
        exact SignalCells.shutdown_store set store

theorem delivered_move {signal : HandledSignal} (delivered : signal ∈ traffic.delivered)
    (event : SignalEvent) : signal ∈ (traffic.move event).delivered := by
  cases event with
  | deliver other => exact List.mem_append_left _ delivered
  | store handler =>
      rcases traffic.store_cases handler with same | ⟨store, left, _, result⟩
      · rw [same]
        exact delivered
      · rw [result]
        exact delivered

end SignalTraffic

namespace Watch

/-- What a step of a watch does. -/
inductive Turn (watch : Watch) (cells : SignalCells) (now : Instant) (next : Watch) : Prop where
  | goesOn (poll : Poll) (stage : watch.stage = .polling poll) (asking : poll.stage = .askingTime)
      (early : now - poll.start < poll.timeout)
      (result : next = { watch with stage := .polling { poll with stage := .askingFlag } })
  | runsOut (poll : Poll) (stage : watch.stage = .polling poll) (asking : poll.stage = .askingTime)
      (late : poll.timeout ≤ now - poll.start) (result : next = { watch with stage := .ticking })
  | sees (poll : Poll) (stage : watch.stage = .polling poll) (looking : poll.stage = .askingFlag)
      (set : cells.shutdown = true) (result : next = { watch with stage := .reading })
  | rests (poll : Poll) (stage : watch.stage = .polling poll) (looking : poll.stage = .askingFlag)
      (unset : cells.shutdown = false)
      (result : next =
        { watch with stage := .polling { poll with stage := .resting (now + Poll.pause) } })
  | wakes (poll : Poll) (wake : Instant) (stage : watch.stage = .polling poll)
      (resting : poll.stage = .resting wake) (awake : wake ≤ now)
      (result : next = { watch with stage := .polling { poll with stage := .askingTime } })
  | sleeps (poll : Poll) (wake : Instant) (stage : watch.stage = .polling poll)
      (resting : poll.stage = .resting wake) (early : now < wake) (result : next = watch)
  | ticks (stage : watch.stage = .ticking)
      (result : next =
        { watch with
          ticks := watch.ticks + 1
          stage := .polling { start := now, timeout := watch.period } })
  | reads (stage : watch.stage = .reading)
      (result : next = { watch with stage := .finished cells.number })
  | stays (signal : Nat) (stage : watch.stage = .finished signal) (result : next = watch)

/-- The watch is not at a poll that has ended: it leaves a poll with its last step. -/
def IsOngoing (watch : Watch) : Prop :=
  ∀ poll, watch.stage = .polling poll → ∀ signalled, poll.stage ≠ .finished signalled

theorem turn_step {watch : Watch} (ongoing : watch.IsOngoing) (cells : SignalCells)
    (now : Instant) : Turn watch cells now (watch.step cells now) := by
  cases stage : watch.stage with
  | polling poll =>
      have turn := poll.turn_step cells now
      simp only [step, stage]
      generalize poll.step cells now = next at turn
      cases turn with
      | goesOn asking early result => exact .goesOn poll stage asking early (by simp [result])
      | runsOut asking late result => exact .runsOut poll stage asking late (by simp [result])
      | sees looking set result => exact .sees poll stage looking set (by simp [result])
      | rests looking unset result => exact .rests poll stage looking unset (by simp [result])
      | wakes wake resting awake result =>
          exact .wakes poll wake stage resting awake (by simp [result])
      | sleeps wake resting early result =>
          refine .sleeps poll wake stage resting early ?_
          rcases poll with ⟨start, timeout, _⟩
          obtain rfl : _ = PollStage.resting wake := resting
          rcases watch with ⟨period, ticks, _⟩
          obtain rfl : _ = WatchStage.polling _ := stage
          rw [result]
      | stays signalled ended result => exact absurd ended (ongoing poll stage signalled)
  | ticking => exact .ticks stage (by simp [step, stage])
  | reading => exact .reads stage (by simp [step, stage])
  | finished signal => exact .stays signal stage (by simp [step, stage])

theorem counts_step (watch : Watch) (unticking : watch.stage ≠ .ticking) (cells : SignalCells)
    (now : Instant) :
    (watch.step cells now).period = watch.period ∧ (watch.step cells now).ticks = watch.ticks := by
  unfold step
  split
  case h_1 => split <;> exact ⟨rfl, rfl⟩
  case h_2 ticking => exact absurd ticking unticking
  case h_3 | h_4 => exact ⟨rfl, rfl⟩

/-- The watch reads the number when the flag is set, and what it has read is as it should be. -/
structure Reads (watch : Watch) (cells : SignalCells) (Read : Nat → Prop) : Prop where
  ongoing : watch.IsOngoing
  set : watch.stage = .reading → cells.shutdown = true
  read : ∀ number, watch.stage = .finished number → Read number

section Reads

variable {watch : Watch} {cells next : SignalCells} {Read Next : Nat → Prop}

theorem reads_begin (period : Nat) (now : Instant) (cells : SignalCells) (Read : Nat → Prop) :
    (begin period now).Reads cells Read where
  ongoing := by
    rintro _ ⟨⟩ signalled
    simp
  set := by simp [begin]
  read := by simp [begin]

theorem Reads.mono (reads : watch.Reads cells Read)
    (set : watch.stage = .reading → cells.shutdown = true → next.shutdown = true)
    (read : ∀ number, watch.stage = .finished number → Read number → Next number) :
    watch.Reads next Next where
  ongoing := reads.ongoing
  set := fun stage => set stage (reads.set stage)
  read := fun number stage => read number stage (reads.read number stage)

theorem Reads.step (reads : watch.Reads cells Read)
    (told : cells.shutdown = true → Read cells.number) (now : Instant) :
    (watch.step cells now).Reads cells Read := by
  have turn := turn_step reads.ongoing cells now
  generalize watch.step cells now = after at turn
  cases turn with
  | sleeps _ _ _ _ _ result | stays _ _ result =>
      subst result
      exact reads
  | goesOn _ _ _ _ result | rests _ _ _ _ result | wakes _ _ _ _ _ result | ticks _ result =>
      subst result
      refine ⟨?_, by simp, by simp⟩
      rintro _ ⟨⟩ signalled
      simp
  | runsOut _ _ _ _ result =>
      subst result
      exact ⟨by rintro _ ⟨⟩, by simp, by simp⟩
  | sees _ _ _ seen result =>
      subst result
      exact ⟨by rintro _ ⟨⟩, fun _ => seen, by simp⟩
  | reads stage result =>
      subst result
      refine ⟨by rintro _ ⟨⟩, by simp, ?_⟩
      rintro _ ⟨⟩
      exact told (reads.set stage)

end Reads

end Watch

/-- A watch in a process that signals reach. -/
structure Watching where
  watch : Watch
  traffic : SignalTraffic
  now : Instant
  /-- Whether the present poll has not made a step yet. -/
  fresh : Bool := true
  /-- Steps of the watch, apart from those in which it goes on to rest. -/
  steps : Nat := 0

/-- What happens in the course of a watch. While it is about to tick, all that happens until its
next step can be the work of the tick. -/
inductive WatchingEvent where
  | step
  | signal (event : SignalEvent)
  | pass (duration : Nat)
  deriving DecidableEq, Repr

namespace Watching

def begin (period : Nat) (traffic : SignalTraffic) (now : Instant) : Watching where
  watch := .begin period now
  traffic := traffic
  now := now

def isAsleep (watching : Watching) : Bool :=
  match watching.watch.stage with
  | .polling poll =>
    match poll.stage with
    | .resting wake => watching.now < wake
    | _ => false
  | _ => false

def move (watching : Watching) : WatchingEvent → Watching
  | .step =>
    { watching with
      watch := watching.watch.step watching.traffic.cells watching.now
      fresh := watching.watch.stage = .ticking
      steps := watching.steps + if watching.isAsleep then 0 else 1 }
  | .signal event => { watching with traffic := watching.traffic.move event }
  | .pass duration => { watching with now := watching.now + duration }

def run (watching : Watching) (events : List WatchingEvent) : Watching :=
  events.foldl move watching

/-- Whether the time of a poll is up before its first step. -/
def isLate (watching : Watching) : Bool :=
  match watching.watch.stage with
  | .polling poll =>
    watching.fresh && poll.stage = .askingTime && poll.timeout ≤ watching.now - poll.start
  | _ => false

/-- No poll makes its first step when it `isLate`. -/
def IsPrompt : Watching → List WatchingEvent → Prop
  | _, [] => True
  | watching, event :: later =>
    (event = .step → watching.isLate = false) ∧ IsPrompt (watching.move event) later

instance decidableIsPrompt :
    ∀ (watching : Watching) (events : List WatchingEvent), Decidable (watching.IsPrompt events)
  | _, [] => isTrue trivial
  | watching, event :: later =>
    haveI := decidableIsPrompt (watching.move event) later
    inferInstanceAs (Decidable ((event = .step → watching.isLate = false) ∧ _))

variable {watching : Watching}

theorem run_append (watching : Watching) (early late : List WatchingEvent) :
    watching.run (early ++ late) = (watching.run early).run late :=
  List.foldl_append

theorem IsPrompt.of_append {early late : List WatchingEvent}
    (prompt : watching.IsPrompt (early ++ late)) : (watching.run early).IsPrompt late := by
  induction early generalizing watching with
  | nil => exact prompt
  | cons event early ih => exact ih prompt.2

/-! ## The number that a watch reads -/

/-- The number of a signal that was delivered. -/
def IsDelivered (watching : Watching) (number : Nat) : Prop :=
  ∃ signal ∈ watching.traffic.delivered, number = signal.number

structure Sound (watching : Watching) : Prop where
  honest : watching.traffic.Honest
  reads : watching.watch.Reads watching.traffic.cells watching.IsDelivered

theorem sound_begin (period : Nat) {traffic : SignalTraffic} (honest : traffic.Honest)
    (now : Instant) : (begin period traffic now).Sound where
  honest := honest
  reads := Watch.reads_begin ..

theorem Sound.step (sound : watching.Sound) : (watching.move .step).Sound where
  honest := sound.honest
  reads := sound.reads.step (fun set => sound.honest.number (Or.inl set)) watching.now

theorem Sound.signal (sound : watching.Sound) (event : SignalEvent) :
    (watching.move (.signal event)).Sound where
  honest := sound.honest.move event
  reads := by
    refine sound.reads.mono (fun _ set => SignalTraffic.shutdown_move set event) ?_
    rintro number _ ⟨signal, delivered, isNumber⟩
    exact ⟨signal, SignalTraffic.delivered_move delivered event, isNumber⟩

theorem Sound.move (sound : watching.Sound) (event : WatchingEvent) :
    (watching.move event).Sound := by
  cases event with
  | step => exact sound.step
  | signal event => exact sound.signal event
  | pass duration => exact ⟨sound.honest, sound.reads⟩

theorem Sound.run (sound : watching.Sound) (events : List WatchingEvent) :
    (watching.run events).Sound := by
  induction events generalizing watching with
  | nil => exact sound
  | cons event later ih => exact ih (sound.move event)

/-! ## The end of a watch -/

/-- The steps that are left at most to a watch when the flag is set. -/
def stepsDue (watching : Watching) : Nat :=
  match watching.watch.stage with
  | .polling poll =>
    match poll.stage with
    | .resting _ => 6
    | .askingTime => if watching.fresh then 3 else 5
    | .askingFlag => 2
    | .finished _ => 0
  | .ticking => 4
  | .reading => 1
  | .finished _ => 0

/-- The ticks that are left at most to a watch when the flag is set: none after the poll that will
see it has begun. -/
def ticksDue (watching : Watching) : Nat :=
  if 4 ≤ watching.stepsDue then 1 else 0

theorem stepsDue_le (watching : Watching) : watching.stepsDue ≤ 6 := by
  unfold stepsDue
  repeat' split
  all_goals omega

theorem ticksDue_le (watching : Watching) : watching.ticksDue ≤ 1 := by
  unfold ticksDue
  split <;> omega

/-- When the flag is set, `stepsDue` and `ticksDue` pay for every step: the first look is the last.
-/
theorem due_step (sound : watching.Sound) (set : watching.traffic.cells.shutdown = true)
    (inTime : watching.isLate = false) (going : ∀ number, watching.watch.stage ≠ .finished number) :
    (watching.move .step).steps + (watching.move .step).stepsDue ≤
        watching.steps + watching.stepsDue ∧
      (watching.move .step).watch.ticks + (watching.move .step).ticksDue ≤
        watching.watch.ticks + watching.ticksDue := by
  have turn := Watch.turn_step sound.reads.ongoing watching.traffic.cells watching.now
  unfold move
  generalize watching.watch.step watching.traffic.cells watching.now = next at turn
  cases turn with
  | goesOn poll stage asking early result =>
      subst result
      cases fresh : watching.fresh <;> simp [ticksDue, stepsDue, stage, asking, fresh, isAsleep]
  | runsOut poll stage asking late result =>
      subst result
      have begun : watching.fresh = false := by simpa [isLate, stage, asking, late] using inTime
      simp [ticksDue, stepsDue, stage, asking, begun, isAsleep]
  | sees poll stage looking seen result =>
      subst result
      simp [ticksDue, stepsDue, stage, looking, isAsleep]
  | rests poll stage looking unset result => simp [set] at unset
  | wakes poll wake stage resting awake result =>
      subst result
      simp [ticksDue, stepsDue, stage, resting, isAsleep, Int.not_lt.mpr awake]
  | sleeps poll wake stage resting early result =>
      subst result
      simp [ticksDue, stepsDue, stage, resting, isAsleep, early]
  | ticks stage result =>
      subst result
      simp [ticksDue, stepsDue, stage, isAsleep]
  | reads stage result =>
      subst result
      simp [ticksDue, stepsDue, stage, isAsleep]
  | stays number stage result => exact absurd stage (going number)

/-- The watch has ended, or it stays within a bound of steps; and it stays within one of ticks. -/
structure EndsWithin (watching : Watching) (steps ticks : Nat) : Prop where
  steps : (∃ number, watching.watch.stage = .finished number) ∨
    watching.steps + watching.stepsDue ≤ steps
  ticks : watching.watch.ticks + watching.ticksDue ≤ ticks

section Bounds

variable {steps ticks : Nat}

theorem endsWithin_self (watching : Watching) :
    watching.EndsWithin (watching.steps + 6) (watching.watch.ticks + 1) where
  steps := Or.inr (Nat.add_le_add_left watching.stepsDue_le _)
  ticks := Nat.add_le_add_left watching.ticksDue_le _

theorem EndsWithin.step (within : watching.EndsWithin steps ticks) (sound : watching.Sound)
    (set : watching.traffic.cells.shutdown = true) (inTime : watching.isLate = false) :
    (watching.move .step).EndsWithin steps ticks := by
  rcases within with ⟨fewSteps, fewTicks⟩
  by_cases going : ∀ number, watching.watch.stage ≠ .finished number
  · have due := watching.due_step sound set inTime going
    have steps : watching.steps + watching.stepsDue ≤ steps :=
      fewSteps.resolve_left (by rintro ⟨number, ended⟩; exact going number ended)
    exact ⟨Or.inr (Nat.le_trans due.1 steps), Nat.le_trans due.2 fewTicks⟩
  · simp only [ne_eq, not_forall, not_not] at going
    obtain ⟨number, ended⟩ := going
    have same : watching.watch.step watching.traffic.cells watching.now = watching.watch := by
      simp only [Watch.step, ended]
    refine ⟨Or.inl ⟨number, ?_⟩, ?_⟩
    · simp only [move, same, ended]
    · simpa only [move, same, ticksDue, stepsDue, ended] using fewTicks

theorem EndsWithin.move (within : watching.EndsWithin steps ticks) (sound : watching.Sound)
    (set : watching.traffic.cells.shutdown = true) (event : WatchingEvent)
    (inTime : event = .step → watching.isLate = false) :
    (watching.move event).EndsWithin steps ticks := by
  cases event with
  | step => exact within.step sound set (inTime rfl)
  | signal event | pass duration => exact ⟨within.steps, within.ticks⟩

theorem shutdown_move (set : watching.traffic.cells.shutdown = true) (event : WatchingEvent) :
    (watching.move event).traffic.cells.shutdown = true := by
  cases event with
  | step | pass duration => exact set
  | signal event => exact SignalTraffic.shutdown_move set event

theorem EndsWithin.run (within : watching.EndsWithin steps ticks) (sound : watching.Sound)
    (set : watching.traffic.cells.shutdown = true) (events : List WatchingEvent)
    (prompt : watching.IsPrompt events) : (watching.run events).EndsWithin steps ticks := by
  induction events generalizing watching with
  | nil => exact within
  | cons event later ih =>
      exact ih (within.move sound set event prompt.1) (sound.move event) (shutdown_move set event)
        prompt.2

theorem EndsWithin.exists_finished (within : watching.EndsWithin steps ticks)
    (sound : watching.Sound) (many : steps ≤ watching.steps) :
    ∃ number, watching.watch.stage = .finished number := by
  rcases within.steps with ended | few
  · exact ended
  have none : watching.stepsDue = 0 := by omega
  cases stage : watching.watch.stage with
  | polling poll =>
      cases doing : poll.stage with
      | finished signalled => exact absurd doing (sound.reads.ongoing poll stage signalled)
      | askingTime => cases fresh : watching.fresh <;> simp [stepsDue, stage, doing, fresh] at none
      | askingFlag | resting wake => simp [stepsDue, stage, doing] at none
  | ticking | reading => simp [stepsDue, stage] at none
  | finished number => exact ⟨number, rfl⟩

end Bounds

/-! ## A tick that is counted -/

theorem ticks_le_move (sound : watching.Sound) (event : WatchingEvent) :
    watching.watch.ticks ≤ (watching.move event).watch.ticks := by
  cases event with
  | signal event | pass duration => exact Nat.le_refl _
  | step =>
      have turn := Watch.turn_step sound.reads.ongoing watching.traffic.cells watching.now
      unfold move
      generalize watching.watch.step watching.traffic.cells watching.now = next at turn
      cases turn <;> subst_vars <;> simp

theorem ticks_le_run (sound : watching.Sound) (events : List WatchingEvent) :
    watching.watch.ticks ≤ (watching.run events).watch.ticks := by
  induction events generalizing watching with
  | nil => exact Nat.le_refl _
  | cons event later ih =>
      exact Nat.le_trans (ticks_le_move sound event) (ih (sound.move event))

theorem watch_run_of_unstepped {events : List WatchingEvent} (unstepped : .step ∉ events) :
    (watching.run events).watch = watching.watch := by
  induction events generalizing watching with
  | nil => rfl
  | cons event later ih =>
      rw [List.mem_cons, not_or] at unstepped
      have same : (watching.move event).watch = watching.watch := by
        cases event with
        | step => exact absurd rfl unstepped.1
        | signal event | pass duration => rfl
      exact (ih unstepped.2).trans same

theorem ticks_lt_of_ticking (sound : watching.Sound) (ticking : watching.watch.stage = .ticking)
    (events : List WatchingEvent) {number : Nat}
    (ended : (watching.run events).watch.stage = .finished number) :
    watching.watch.ticks < (watching.run events).watch.ticks := by
  induction events generalizing watching with
  | nil => simp [run, ticking] at ended
  | cons event later ih =>
      cases event with
      | step =>
          have counted : (watching.move .step).watch.ticks = watching.watch.ticks + 1 := by
            simp [move, Watch.step, ticking]
          have kept := ticks_le_run sound.step later
          rw [counted] at kept
          exact kept
      | signal event => exact ih (sound.signal event) ticking ended
      | pass duration => exact ih (sound.move (.pass duration)) ticking ended

end Watching

namespace Host

/-! ## Watches on a host -/

/-- A process handles signals, its flag is not set, and nobody is going to send it a signal or to
end it. -/
structure IsUnsignalled (host : Host) (process : ProcessId) : Prop where
  handles : ∃ state, host.process process = some state ∧ state.handlesSignals = true ∧
    state.signals.shutdown = false
  expects : host.Expects fun deed => deed ≠ .exit process ∧ ∀ number, deed ≠ .signal process number

theorem IsUnsignalled.unset {host : Host} {process : ProcessId}
    (unsignalled : host.IsUnsignalled process) : (host.signals process).shutdown = false := by
  rcases unsignalled.handles with ⟨state, isState, _, unset⟩
  simp [signals, isState, unset]

theorem process_perform (host : Host) {process : ProcessId} {deed : Deed}
    (noExit : deed ≠ .exit process) (noSignal : ∀ number, deed ≠ .signal process number) :
    (host.perform deed).process process = host.process process := by
  cases deed with
  | unlink path => exact congrFun (host.sameWorld_remaining path).process process
  | touch path =>
      simp only [perform]
      rcases touched : host.touch path with failure | after
      · rfl
      · exact congrFun (sameWorld_touch touched).process process
  | exit other =>
      have isOther : process ≠ other := fun same => noExit (by rw [same])
      exact process_setProcess_of_ne _ none isOther
  | signal other number =>
      have isOther : process ≠ other := fun same => noSignal number (by rw [same])
      simp only [perform, signal, changeProcess]
      split
      · exact process_setProcess_of_ne _ _ isOther
      · rfl

theorem IsUnsignalled.elapseUntil {host : Host} {process : ProcessId}
    (unsignalled : host.IsUnsignalled process) (time : Instant) :
    (host.elapseUntil time).IsUnsignalled process := by
  rcases unsignalled with ⟨handles, expects⟩
  rcases elapseUntil_induction (fun later => later.process process = host.process process)
    (fun _ _ _ same => same)
    (fun later _ other same => (later.process_perform other.1 other.2).trans same) time expects rfl
    with ⟨same, expectsLater⟩
  exact ⟨same ▸ handles, expectsLater⟩

section Rounds

variable {process : ProcessId} {tick : Nat → Host → Host} {steps : Nat} {watch : Watch}
  {host : Host}

/-- On a host, nothing comes between the look that sees the flag and the reading of the number. -/
theorem signals_of_watchSteps {result : Nat × Nat × Host}
    (reads : watch.Reads (host.signals process)
      fun number => host.signals process = { number := number, shutdown := true })
    (ended : watchSteps process tick steps watch host = some result) :
    result.2.2.signals process = { number := result.1, shutdown := true } := by
  have told : ∀ cells : SignalCells, cells.shutdown = true →
      cells = { number := cells.number, shutdown := true } := by
    rintro ⟨number, _⟩ ⟨⟩
    rfl
  induction steps generalizing watch host with
  | zero => simp [watchSteps] at ended
  | succ steps ih =>
      simp only [watchSteps] at ended
      split at ended
      case h_1 number stage =>
        cases ended
        exact reads.read number stage
      case h_2 stage =>
        refine ih (Watch.Reads.step ?_ (told _) _) ended
        exact reads.mono (by simp [stage]) (by simp [stage])
      case h_3 unended unticking =>
        refine ih (Watch.Reads.step ?_ (told _) _) ended
        refine reads.mono ?_ ?_
        · intro stage set
          simpa [Watch.wake?, stage] using set
        · intro number stage
          exact absurd stage (unended number)

theorem ticks_of_set {period counted : Nat} (positive : 0 < period)
    (set : (host.signals process).shutdown = true) {result : Nat × Nat × Host}
    (ended : watchSteps process tick steps
      { period := period, ticks := counted,
        stage := .polling { start := host.now, timeout := period } } host = some result) :
    result.2.1 = counted := by
  rcases steps with _ | _ | _ | _ | steps
  case succ.succ.succ.succ =>
    simp only [watchSteps, Watch.step, Poll.step, Watch.wake?, Int.sub_self, Int.natCast_pos,
      positive, set, if_true, Option.map_none, Option.getD_none, Option.some.injEq] at ended
    rw [← ended]
  all_goals
    simp [watchSteps, Watch.step, Poll.step, Watch.wake?, positive, set] at ended

/-- If no signal comes before, a tick that sets the flag is reached, and it is the last. -/
theorem ticks_of_raising {last : Nat} (positive : 0 < watch.period)
    (unsignalled : host.IsUnsignalled process)
    (calm : ∀ count < last, ∀ earlier : Host, earlier.IsUnsignalled process →
      (tick count earlier).IsUnsignalled process)
    (raising : ∀ earlier : Host, earlier.IsUnsignalled process →
      ((tick last earlier).signals process).shutdown = true)
    (reads : watch.Reads (host.signals process) fun _ => False) (before : watch.ticks < last)
    {result : Nat × Nat × Host}
    (ended : watchSteps process tick steps watch host = some result) : result.2.1 = last := by
  induction steps generalizing watch host with
  | zero => simp [watchSteps] at ended
  | succ steps ih =>
      simp only [watchSteps] at ended
      split at ended
      case h_1 number stage => exact (reads.read number stage).elim
      case h_2 stage =>
        have reads : watch.Reads ((tick (watch.ticks + 1) host).signals process) fun _ => False :=
          reads.mono (by simp [stage]) (by simp [stage])
        rcases Nat.lt_or_eq_of_le (Nat.succ_le_of_lt before) with less | isLast
        · have later := calm (watch.ticks + 1) less host unsignalled
          have next := reads.step (by simp [later.unset]) (tick (watch.ticks + 1) host).now
          simp only [Watch.step, stage] at ended next
          exact ih (by exact positive) later next less ended
        · simp only [Watch.step, stage] at ended
          rw [← isLast] at raising
          exact (ticks_of_set positive (raising host unsignalled) ended).trans isLast
      case h_3 unended unticking =>
        have later : ((watch.wake?.map host.elapseUntil).getD host).IsUnsignalled process := by
          cases watch.wake? with
          | none => exact unsignalled
          | some wake => exact unsignalled.elapseUntil wake
        generalize (watch.wake?.map host.elapseUntil).getD host = after at ended later
        have unset : watch.stage ≠ .reading := by
          intro stage
          simpa [unsignalled.unset] using reads.set stage
        have reads : watch.Reads (after.signals process) fun _ => False :=
          reads.mono (fun stage => absurd stage unset) fun _ _ read => read
        rcases watch.counts_step unticking (after.signals process) after.now with
          ⟨samePeriod, sameTicks⟩
        exact ih (by rwa [samePeriod]) later (reads.step (by simp [later.unset]) _)
          (by rwa [sameTicks]) ended

end Rounds

end Host

namespace Watching

/-- How a watch that polls for a period has come from its start through some events. -/
structure EndsDelivered (period : Nat) (start : Watching) (events : List WatchingEvent)
    (watching : Watching) : Prop where
  /-- It ends only with the number of a signal that was delivered. -/
  delivered : ∀ number, watching.watch.stage = .finished number →
    number ≠ 0 ∧ watching.IsDelivered number
  /-- From the moment on that the flag is set, it ticks at most once more. -/
  ticks : ∀ early late, events = early ++ late →
    (start.run early).traffic.cells.shutdown = true →
      watching.watch.ticks ≤ (start.run early).watch.ticks + 1
  /-- From that moment on, it has ended after six steps. -/
  ends : ∀ early late, events = early ++ late →
    (start.run early).traffic.cells.shutdown = true →
      (start.run early).steps + 6 ≤ watching.steps →
        ∃ number, watching.watch.stage = .finished number
  /-- If the flag is set in the course of a tick, that tick is the last. -/
  counted : ∀ count early during late, events = early ++ during ++ late →
    (start.run early).watch.stage = .ticking → (start.run early).watch.ticks + 1 = count →
    .step ∉ during → (start.run (early ++ during)).traffic.cells.shutdown = true →
    (∃ number, watching.watch.stage = .finished number) → watching.watch.ticks = count
  /-- On a host, a watch gives the number beside which the flag is set. -/
  onHost : ∀ (host : Host) (process : ProcessId) (polls number ticks : Nat)
    (tick : Nat → Host → Host) (later : Host), 0 < period →
    host.watch process period polls tick = some (number, ticks, later) →
      later.signals process = { number := number, shutdown := true }
  /-- On a host where no signal comes before, a watch ticks until a tick sets the flag. -/
  ticksOnHost : ∀ (host : Host) (process : ProcessId) (polls number ticks : Nat)
    (tick : Nat → Host → Host) (later : Host), 0 < period →
    host.watch process period polls tick = some (number, ticks, later) →
    ∀ last, 0 < last → host.IsUnsignalled process →
      (∀ count < last, ∀ earlier : Host, earlier.IsUnsignalled process →
        (tick count earlier).IsUnsignalled process) →
      (∀ earlier : Host, earlier.IsUnsignalled process →
        ((tick last earlier).signals process).shutdown = true) → ticks = last

/-- Signals may come at any time since the cells were cleared, before the watch begins or between
any two of its steps, and handlers may interrupt one another between their stores. A watch whose
polls have any time, by `IsPrompt`, is as `EndsDelivered` says. -/
theorem watch_ends_with_delivered (period : Nat) (sooner : List SignalEvent) (now : Instant)
    (events : List WatchingEvent) {start watching : Watching}
    (isStart : start = begin period (SignalTraffic.run {} sooner) now)
    (course : start.run events = watching) (prompt : start.IsPrompt events) :
    EndsDelivered period start events watching := by
  subst isStart course
  have sound := sound_begin period (SignalTraffic.honest_clear.run sooner) now
  generalize begin period (SignalTraffic.run {} sooner) now = start at sound prompt ⊢
  have within : ∀ early late, events = early ++ late →
      (start.run early).traffic.cells.shutdown = true →
      (start.run events).EndsWithin ((start.run early).steps + 6)
        ((start.run early).watch.ticks + 1) := by
    rintro early late rfl set
    rw [run_append]
    exact (endsWithin_self _).run (sound.run early) set late prompt.of_append
  constructor
  case delivered =>
    intro number ended
    rcases (sound.run events).reads.read number ended with ⟨signal, delivered, rfl⟩
    exact ⟨signal.number_ne_zero, signal, delivered, rfl⟩
  case ticks =>
    intro early late split set
    exact Nat.le_trans (Nat.le_add_right ..) (within early late split set).ticks
  case ends =>
    intro early late split set
    exact (within early late split set).exists_finished (sound.run events)
  case counted =>
    rintro count early during late split ticking rfl unstepped set ⟨number, ended⟩
    have bounded := within (early ++ during) late split set
    have same : (start.run (early ++ during)).watch = (start.run early).watch := by
      rw [run_append, watch_run_of_unstepped unstepped]
    rw [same] at bounded
    refine Nat.le_antisymm (Nat.le_trans (Nat.le_add_right ..) bounded.ticks) ?_
    rw [split, List.append_assoc, run_append] at ended ⊢
    exact ticks_lt_of_ticking (sound.run early) ticking _ ended
  case onHost =>
    intro host process polls number ticks tick later positive result
    exact Host.signals_of_watchSteps (Watch.reads_begin ..) result
  case ticksOnHost =>
    intro host process polls number ticks tick later positive result last some unsignalled calm
      raising
    exact Host.ticks_of_raising positive unsignalled calm raising (Watch.reads_begin ..) some result

/-- A poll of fifty milliseconds has looked at the flag when two signals come, the second before the
handler of the first has made its second store. A third comes during the tick. -/
def nestedSignals : List WatchingEvent :=
  [.step, .step, .pass (milliseconds 20), .signal (.deliver .hangUp), .signal (.store 0),
    .signal (.deliver .interrupt), .signal (.store 1), .signal (.store 1), .signal (.store 0),
    .pass (milliseconds 80), .step, .step]

def nestedTick : List WatchingEvent :=
  [.signal (.deliver .terminate), .pass 1]

def nestedWatching : Watching :=
  (begin (milliseconds 50) {} 0).run (nestedSignals ++ nestedTick ++ [.step, .step, .step, .step])

/-- The second tick sends the process a signal. -/
def secondTick (count : Nat) (host : Host) : Host :=
  if count = 2 then host.signal 1 15 else host

theorem isUnsignalled_alertHost : Host.alertHost.IsUnsignalled 1 where
  handles := ⟨_, rfl, rfl, rfl⟩
  expects := fun _ member => absurd member List.not_mem_nil

theorem raising_secondTick {earlier : Host} (unsignalled : earlier.IsUnsignalled 1) :
    ((secondTick 2 earlier).signals 1).shutdown = true := by
  rcases unsignalled.handles with ⟨state, isState, handles, _⟩
  simp [secondTick, Host.signal, Host.changeProcess, Host.signals, isState, handles]

theorem watch_ends_with_delivered_nestedSignals :
    (begin (milliseconds 50) {} 0).IsPrompt
        (nestedSignals ++ nestedTick ++ [.step, .step, .step, .step]) ∧
      nestedWatching.watch.stage = .finished 2 ∧
      (2 ≠ 0 ∧ nestedWatching.IsDelivered 2) ∧
      nestedWatching.watch.ticks = 1 ∧
      ∃ number ticks later,
        Host.alertHost.watch 1 (milliseconds 50) 3 secondTick = some (number, ticks, later) ∧
          later.signals 1 = { number := number, shutdown := true } ∧ ticks = 2 := by
  have prompt : (begin (milliseconds 50) {} 0).IsPrompt
      (nestedSignals ++ nestedTick ++ [.step, .step, .step, .step]) := by decide
  have ended : nestedWatching.watch.stage = .finished 2 := by decide
  have watched := watch_ends_with_delivered (milliseconds 50) [] 0 _ rfl rfl prompt
  have some : (Host.alertHost.watch 1 (milliseconds 50) 3 secondTick).isSome := by decide +kernel
  obtain ⟨⟨number, ticks, later⟩, result⟩ := Option.isSome_iff_exists.mp some
  have signals := watched.onHost Host.alertHost 1 3 number ticks secondTick later (by decide) result
  have exactly := watched.ticksOnHost Host.alertHost 1 3 number ticks secondTick later (by decide)
    result
  have calm : ∀ count < 2, ∀ earlier : Host, earlier.IsUnsignalled 1 →
      (secondTick count earlier).IsUnsignalled 1 := by
    intro count less earlier unsignalled
    rwa [secondTick, if_neg (Nat.ne_of_lt less)]
  exact ⟨prompt, ended, watched.delivered 2 ended,
    watched.counted 1 nestedSignals nestedTick _ rfl (by decide) (by decide) (by decide) (by decide)
      ⟨2, ended⟩,
    number, ticks, later, result, signals,
    exactly 2 (by decide) isUnsignalled_alertHost calm fun _ => raising_secondTick⟩

end Watching

end MailSpool

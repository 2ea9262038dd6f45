import MailSpool.Refresher

/-!
# The thread of a refresher

A refresher that nobody has stopped goes on `Working` for ever. From the message of its owner on it
is `Stopping`, and its thread begins no new task: it ends the one that it is about, finds the
message and ends. Until then the owner waits, and after that the thread does nothing any more.
-/

namespace MailSpool

namespace Refresher

variable {refresher next : Refresher} {now : Instant} {event : RefresherEvent}

/-- What the thread of a refresher does at a step: it begins its task, it ends its task, or it ends
because it was told to. -/
theorem thread_cases (ofThread : event.isOfThread = true)
    (stepped : refresher.step? now event = some next) :
    (∃ wake, event = .wake ∧ refresher.thread = .resting wake ∧ refresher.message = false ∧
      refresher.connected = true ∧
      next = { refresher with thread := .running, runs := refresher.runs + 1 }) ∨
    (event = .rest ∧ refresher.thread = .running ∧
      next = { refresher with thread := .resting (now + refresher.rest) }) ∨
    ∃ wake, refresher.thread = .resting wake ∧
      (refresher.message = true ∨ refresher.connected = false) ∧
      next = { refresher with thread := .exited, message := false } := by
  cases event with
  | stop | join => simp [RefresherEvent.isOfThread] at ofThread
  | wake =>
      simp only [step?] at stepped
      split at stepped
      case h_1 wake resting =>
        split at stepped
        · rename_i due
          exact Or.inl ⟨wake, rfl, resting, due.2.1, due.2.2, (Option.some.inj stepped).symm⟩
        · simp at stepped
      case h_2 => simp at stepped
  | rest =>
      simp only [step?] at stepped
      split at stepped
      case h_1 running => exact Or.inr (Or.inl ⟨rfl, running, (Option.some.inj stepped).symm⟩)
      case h_2 => simp at stepped
  | receive =>
      simp only [step?] at stepped
      split at stepped
      case h_1 wake resting =>
        split at stepped
        · rename_i told
          exact Or.inr (Or.inr ⟨wake, resting, Or.inl told, (Option.some.inj stepped).symm⟩)
        · simp at stepped
      case h_2 => simp at stepped
  | disconnect =>
      simp only [step?] at stepped
      split at stepped
      case h_1 wake resting =>
        split at stepped
        · rename_i ended
          refine Or.inr (Or.inr ⟨wake, resting, Or.inr ended.2, ?_⟩)
          rw [← ended.1]
          exact (Option.some.inj stepped).symm
        · simp at stepped
      case h_2 => simp at stepped

/-- Nobody has stopped the refresher yet. -/
structure Working (refresher : Refresher) : Prop where
  owner : refresher.owner = .idle
  message : refresher.message = false
  connected : refresher.connected = true
  thread : refresher.thread ≠ .exited

/-- The owner waits for the end of the thread, which has ended or will find the message. -/
structure Stopping (refresher : Refresher) : Prop where
  owner : refresher.owner = .joining
  told : refresher.message = true ∨ refresher.thread = .exited

theorem working_start (rest : Nat) (now : Instant) : (start rest now).Working where
  owner := rfl
  message := rfl
  connected := rfl
  thread := by simp [start]

/-- Left alone, a refresher goes on `Working`. -/
theorem Working.step (working : refresher.Working) (ofThread : event.isOfThread = true)
    (stepped : refresher.step? now event = some next) : next.Working := by
  rcases working with ⟨owner, message, connected, _⟩
  rcases thread_cases ofThread stepped with
    ⟨_, _, _, _, _, rfl⟩ | ⟨_, _, rfl⟩ | ⟨_, _, told | ended, _⟩
  · exact ⟨owner, message, connected, by simp⟩
  · exact ⟨owner, message, connected, by simp⟩
  · simp [message] at told
  · simp [connected] at ended

theorem Working.exists_stop (working : refresher.Working) (now : Instant) :
    ∃ next, refresher.step? now .stop = some next ∧ next.Stopping ∧
      next.thread = refresher.thread := by
  simp only [step?, working.owner, working.message]
  exact ⟨_, rfl, ⟨rfl, Or.inl rfl⟩, rfl⟩

/-- The thread of a refresher that is `Stopping` begins no new task. -/
theorem Stopping.step (stopping : refresher.Stopping) (ofThread : event.isOfThread = true)
    (stepped : refresher.step? now event = some next) : next.Stopping := by
  rcases stopping with ⟨owner, told⟩
  rcases thread_cases ofThread stepped with
    ⟨_, _, resting, unread, _, rfl⟩ | ⟨_, running, rfl⟩ | ⟨_, _, _, rfl⟩
  · simp [resting, unread] at told
  · simp only [running, reduceCtorEq, or_false] at told
    exact ⟨owner, Or.inl told⟩
  · exact ⟨owner, Or.inr rfl⟩

/-- The steps that are left to the thread of a refresher that is being stopped. -/
def threadRank (refresher : Refresher) : Nat :=
  match refresher.thread with
  | .running => 2
  | .resting _ => 1
  | .exited => 0

/-- The thread of a refresher that is `Stopping` comes to its end, and then the owner goes on: a
`join` succeeds. -/
theorem Stopping.exists_step (stopping : refresher.Stopping) (now : Instant) :
    (∃ event next, event.isOfThread = true ∧ refresher.step? now event = some next ∧
      next.threadRank < refresher.threadRank) ∨
    ∃ next, refresher.step? now .join = some next ∧ refresher.thread = .exited := by
  rcases stopping with ⟨owner, told⟩
  cases doing : refresher.thread with
  | running =>
      refine Or.inl ⟨.rest, { refresher with thread := .resting (now + refresher.rest) },
        rfl, ?_, ?_⟩
      · simp [step?, doing]
      · simp [threadRank, doing]
  | resting wake =>
      have message : refresher.message = true := told.resolve_right (by simp [doing])
      refine Or.inl ⟨.receive, { refresher with thread := .exited, message := false }, rfl, ?_, ?_⟩
      · simp [step?, doing, message]
      · simp [threadRank, doing]
  | exited => exact Or.inr ⟨{ refresher with owner := .done }, by simp [step?, owner, doing], rfl⟩

theorem thread_of_join (stepped : refresher.step? now .join = some next) :
    next.thread = .exited := by
  simp only [step?] at stepped
  split at stepped
  case h_1 thread =>
    cases stepped
    exact thread
  case h_2 => simp at stepped

theorem step?_of_exited (exited : refresher.thread = .exited) (ofThread : event.isOfThread = true) :
    refresher.step? now event = none := by
  cases stepped : refresher.step? now event with
  | none => rfl
  | some next =>
      rcases thread_cases ofThread stepped with
        ⟨_, _, resting, _⟩ | ⟨_, running, _⟩ | ⟨_, resting, _⟩
      · simp [exited] at resting
      · simp [exited] at running
      · simp [exited] at resting

end Refresher

end MailSpool

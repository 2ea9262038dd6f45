import Mathlib.Data.List.Induction
import MailSpool.Proofs.Spool.Trust

/-!
# Whose lock a locker acts on

A locker knows the path of its lock and nothing else about it, so it acts on whatever the path
names. That is its own file until somebody else takes that file away from the path: the path is
looked at when the locker comes to trust in it, and from then on only the removal of the name can
turn it aside. A task that was lent acts in the same way, but its lender may have taken the lock
away, too.

The proof carries along a run that every trust is `Justified`: either the path still leads to the
file, or an event can be named that has taken the file away.
-/

namespace MailSpool

open FileSystem

/-- The locker that acts, if one does. -/
def SpoolEvent.actor? : SpoolEvent → Option Nat
  | act index _ => some index
  | _ => none

namespace SharedSpool

/-- Nobody but the lockers acts on files. -/
def KeepsFiles (spool : SharedSpool) : SpoolEvent → Prop
  | .change next => next.files = spool.host.files
  | _ => True

/-- In the course of a run an event that has a property took a file away from a path. -/
def Taken (start : SharedSpool) (events : List SpoolEvent) (path : String) (file : FileId)
    (cause : SharedSpool → SpoolEvent → Prop) : Prop :=
  ∃ early taker late, events = early ++ taker :: late ∧ cause (start.run early) taker ∧
    (start.run early).host.files.Names path file ∧
    ¬((start.run early).step taker).host.files.Names path file

/-- An event is no deed of a locker that `Trusts` in a path. -/
def ByOthers (index : Nat) (path : String) (file : FileId) (spool : SharedSpool)
    (event : SpoolEvent) : Prop :=
  event.actor? ≠ some index ∧ (spool.participant index).Trusts path file

/-- A task was lent already, or an event is one `ByOthers` than a locker that trusts in the path of
the task. -/
def WhileLent (lent : LentTask) (file : FileId) (spool : SharedSpool) (event : SpoolEvent) : Prop :=
  lent ∈ spool.tasks ∨ ∃ index, ByOthers index lent.task.path file spool event

variable {start spool : SharedSpool} {events : List SpoolEvent} {event : SpoolEvent}
  {path : String} {file : FileId} {cause : SharedSpool → SpoolEvent → Prop}

theorem Taken.later (taken : start.Taken events path file cause) (event : SpoolEvent) :
    start.Taken (events ++ [event]) path file cause := by
  rcases taken with ⟨early, taker, late, rfl, isCause, named, gone⟩
  exact ⟨early, taker, late ++ [event], by simp, isCause, named, gone⟩

theorem Taken.mono {other : SharedSpool → SpoolEvent → Prop}
    (taken : start.Taken events path file cause)
    (weaker : ∀ state taker, cause state taker → other state taker) :
    start.Taken events path file other := by
  rcases taken with ⟨early, taker, late, split, isCause, named, gone⟩
  exact ⟨early, taker, late, split, weaker _ _ isCause, named, gone⟩

theorem taken_now (isCause : cause (start.run events) event)
    (taken : (start.run events).host.files.Names path file ∧
      ¬((start.run events).step event).host.files.Names path file) :
    start.Taken (events ++ [event]) path file cause :=
  ⟨events, event, [], rfl, isCause, taken.1, taken.2⟩

theorem Tidy.step_of_keepsFiles (tidy : spool.Tidy) (keeps : spool.KeepsFiles event) :
    (spool.step event).Tidy := by
  refine tidy.step event ?_
  rintro next rfl
  rw [show next.files = spool.host.files from keeps]
  exact ⟨tidy.sound, tidy.orderly⟩

theorem Tidy.narrows_step (tidy : spool.Tidy) (keeps : spool.KeepsFiles event) :
    Narrows spool.host.files (spool.step event).host.files := by
  cases event with
  | act index deed => exact (tidy.spares_act index deed).narrows
  | lend index => exact .refl _
  | run number => exact (spool.spares_run number fun _ => False).narrows
  | change next =>
      have same : next.files = spool.host.files := keeps
      change Narrows spool.host.files next.files
      rw [same]
      exact .refl _

theorem participant_step_of_ne (spool : SharedSpool) {index : Nat}
    (other : event.actor? ≠ some index) :
    (spool.step event).participant index = spool.participant index := by
  cases event with
  | act actor deed =>
      apply participant_step_act_of_ne
      rintro rfl
      exact other rfl
  | lend | run | change => rfl

end SharedSpool

/-! ## A locker that holds something has a file of its own -/

theorem Participant.Orderly.isSome_own_perform {participant : Participant} {host : Host}
    {deed : LockerDeed} (orderly : participant.Orderly host.files)
    (before : participant.heldPath?.isSome → participant.own.isSome)
    (holds : (participant.perform host deed).1.heldPath?.isSome) :
    (participant.perform host deed).1.own.isSome := by
  rcases participant with ⟨locker | work | _, own⟩
  · cases deed with
    | acquire user retries =>
        unfold Participant.perform at holds ⊢
        dsimp only at holds ⊢
        split at holds
        · exact before holds
        · exact before holds
    | adopt user =>
        rcases perform_adopt locker own host user with ⟨_, _, _, _, adopted⟩ | same
        · rw [adopted]
          rfl
        · rw [same] at holds ⊢
          exact before holds
    | release =>
        rw [perform_release] at holds
        simp [heldPath?, LockerActivity.locker?, Locker.heldPath?] at holds
    | persist =>
        simp [Participant.perform, Locker.persist, heldPath?, LockerActivity.locker?,
          Locker.heldPath?] at holds
    | drop => simp [Participant.perform, heldPath?, LockerActivity.locker?] at holds
    | refresh | step => exact before holds
  · cases deed with
    | step =>
        have stillOwn : own.isSome → ((work.step host).1.stage.made?.or own).isSome := by
          intro isOwn
          simp [isOwn]
        have held : (work.step host).1.locker.held.isSome := by
          simpa [Participant.perform, heldPath?, LockerActivity.locker?_ofAcquisition,
            Locker.heldPath?] using holds
        rcases work.held_step host with same | nothing | cleared
        · rw [same] at held
          apply stillOwn
          apply before
          simpa [heldPath?, LockerActivity.locker?, Locker.heldPath?] using held
        · simp [nothing] at held
        · rcases Acquisition.Orderly.file orderly (by simp [cleared,
              AcquisitionStage.UsesTemporary]) with ⟨file, _, isOwn, _⟩
          apply stillOwn
          rw [show own = some file from isOwn]
          rfl
    | acquire | adopt | release | persist | refresh | drop => exact before holds
  · cases deed <;> exact before holds

namespace SharedSpool

variable {start spool : SharedSpool} {events : List SpoolEvent} {event : SpoolEvent}

/-! ## Every trust is justified -/

/-- What holds in the course of a run: whoever holds something has a file of its own, and a path
leads to the file that is trusted in unless it was taken away. -/
structure Justified (start : SharedSpool) (events : List SpoolEvent) : Prop where
  tidy : (start.run events).Tidy
  owns : ∀ index, ((start.run events).participant index).heldPath?.isSome →
    ((start.run events).participant index).own.isSome
  trusted : ∀ index path file, ((start.run events).participant index).Trusts path file →
    (start.run events).host.files.Leads path file ∨
      start.Taken events path file (ByOthers index path file)
  lent : ∀ lent ∈ (start.run events).tasks, ∃ file, lent.own = some file ∧
    ((start.run events).host.files.Leads lent.task.path file ∨
      start.Taken events lent.task.path file (WhileLent lent file))

theorem IsOpened.justified (opens : start.IsOpened) : Justified start [] := by
  have tidy := opens.tidy
  rcases opens with ⟨_, lockers, isOpened⟩
  refine ⟨tidy, ?_, ?_, ?_⟩
  · intro index holds
    rw [isOpened] at holds
    simp [run, opened, Participant.heldPath?, LockerActivity.locker?, Locker.heldPath?] at holds
  · intro index path file trusts
    rw [isOpened] at trusts
    simp [run, opened, Participant.Trusts, Locker.heldPath?] at trusts
  · intro lent member
    rw [isOpened] at member
    simp [run, opened] at member

/-- A path that leads to a file either goes on to do so or loses the file in this event. -/
theorem Justified.leads_step {path : String} {file : FileId}
    {cause : SharedSpool → SpoolEvent → Prop} (justified : Justified start events)
    (keeps : (start.run events).KeepsFiles event) (isCause : cause (start.run events) event)
    (leads : (start.run events).host.files.Leads path file) :
    ((start.run events).step event).host.files.Leads path file ∨
      start.Taken (events ++ [event]) path file cause := by
  rcases leads.kept_or_taken (justified.tidy.narrows_step keeps) with kept | taken
  · exact Or.inl kept
  · exact Or.inr (taken_now isCause taken)

theorem Justified.trusted_step (justified : Justified start events)
    (keeps : (start.run events).KeepsFiles event) {index : Nat} {path : String} {file : FileId}
    (trusts : (((start.run events).step event).participant index).Trusts path file) :
    ((start.run events).step event).host.files.Leads path file ∨
      start.Taken (events ++ [event]) path file (ByOthers index path file) := by
  by_cases acts : event.actor? = some index
  · cases event with
    | act actor deed =>
        cases acts
        rw [participant_step_act_self] at trusts
        rcases (justified.tidy.orderly index).trusts_perform trusts with seen | ⟨before, keep⟩
        · exact Or.inl seen
        · rcases justified.trusted index path file before with leads | taken
          · exact Or.inl (keep leads)
          · exact Or.inr (taken.later _)
    | lend | run | change => simp [SpoolEvent.actor?] at acts
  · rw [participant_step_of_ne _ acts] at trusts
    rcases justified.trusted index path file trusts with leads | taken
    · exact justified.leads_step keeps ⟨acts, trusts⟩ leads
    · exact Or.inr (taken.later event)

theorem Justified.owns_step (justified : Justified start events) {index : Nat}
    (holds : (((start.run events).step event).participant index).heldPath?.isSome) :
    (((start.run events).step event).participant index).own.isSome := by
  by_cases acts : event.actor? = some index
  · cases event with
    | act actor deed =>
        cases acts
        rw [participant_step_act_self] at holds ⊢
        exact (justified.tidy.orderly index).isSome_own_perform (justified.owns index) holds
    | lend | run | change => simp [SpoolEvent.actor?] at acts
  · rw [participant_step_of_ne _ acts] at holds ⊢
    exact justified.owns index holds

theorem trusts_of_lend {participant : Participant} {lent : LentTask} {file : FileId}
    (lends : participant.lend? = some lent) (isOwn : lent.own = some file) :
    participant.Trusts lent.task.path file := by
  rcases participant with ⟨locker | work | _, own⟩
  · simp only [Participant.lend?, Locker.refreshTask?, Option.map_map, Option.map_eq_some_iff]
      at lends
    rcases lends with ⟨held, isHeld, rfl⟩
    exact ⟨by simp [Locker.heldPath?, isHeld], isOwn⟩
  · simp [Participant.lend?] at lends
  · simp [Participant.lend?] at lends

theorem heldPath?_of_lend {participant : Participant} {lent : LentTask}
    (lends : participant.lend? = some lent) :
    participant.heldPath?.isSome ∧ lent.own = participant.own := by
  rcases participant with ⟨locker | work | _, own⟩
  · simp only [Participant.lend?, Locker.refreshTask?, Option.map_map, Option.map_eq_some_iff]
      at lends
    rcases lends with ⟨held, isHeld, rfl⟩
    exact ⟨by simp [Participant.heldPath?, LockerActivity.locker?, Locker.heldPath?, isHeld], rfl⟩
  · simp [Participant.lend?] at lends
  · simp [Participant.lend?] at lends

theorem Justified.lent_step (justified : Justified start events)
    (keeps : (start.run events).KeepsFiles event) {lent : LentTask}
    (member : lent ∈ ((start.run events).step event).tasks) :
    ∃ file, lent.own = some file ∧
      (((start.run events).step event).host.files.Leads lent.task.path file ∨
        start.Taken (events ++ [event]) lent.task.path file (WhileLent lent file)) := by
  have old : lent ∈ (start.run events).tasks → ∃ file, lent.own = some file ∧
      (((start.run events).step event).host.files.Leads lent.task.path file ∨
        start.Taken (events ++ [event]) lent.task.path file (WhileLent lent file)) := by
    intro lentBefore
    rcases justified.lent lent lentBefore with ⟨file, isOwn, leads | taken⟩
    · exact ⟨file, isOwn, justified.leads_step keeps (Or.inl lentBefore) leads⟩
    · exact ⟨file, isOwn, Or.inr (taken.later event)⟩
  cases event with
  | lend index =>
      rcases List.mem_append.mp member with lentBefore | lentNow
      · exact old lentBefore
      · have lends : ((start.run events).participant index).lend? = some lent := by
          simpa using lentNow
        rcases heldPath?_of_lend lends with ⟨holds, isOwn⟩
        rcases Option.isSome_iff_exists.mp (justified.owns index holds) with ⟨file, ownFile⟩
        have lentOwn := isOwn.trans ownFile
        rcases justified.trusted index _ file (trusts_of_lend lends lentOwn) with leads | taken
        · exact ⟨file, lentOwn, Or.inl leads⟩
        · refine ⟨file, lentOwn, Or.inr ((taken.later _).mono ?_)⟩
          exact fun _ _ others => Or.inr ⟨index, others⟩
  | act | run | change => exact old member

theorem IsOpened.justified_run {events : List SpoolEvent} (opens : start.IsOpened)
    (permits : start.Permits KeepsFiles events) : Justified start events := by
  induction events using List.reverseRecOn with
  | nil => exact opens.justified
  | append_singleton events event ih =>
      rcases permits_append_singleton_iff.mp permits with ⟨before, keeps⟩
      have justified := ih before
      refine ⟨?_, ?_, ?_, ?_⟩
      · rw [run_append_singleton]
        exact justified.tidy.step_of_keepsFiles keeps
      · intro index
        rw [run_append_singleton]
        exact justified.owns_step
      · intro index path file
        rw [run_append_singleton]
        exact justified.trusted_step keeps
      · intro lent
        rw [run_append_singleton]
        exact justified.lent_step keeps

/-! ## Whom a locker harms -/

/-- A locker `Trusts` in the path of the lock that it holds. -/
theorem trusts_of_held {participant : Participant} {files : FileSystem} {path : String}
    {file : FileId} (orderly : participant.Orderly files)
    (held : participant.heldPath? = some path) (isOwn : participant.own = some file) :
    participant.Trusts path file := by
  rcases participant with ⟨locker | work | _, own⟩
  · exact ⟨held, isOwn⟩
  · rcases Option.map_eq_some_iff.mp held with ⟨holding, isHeld, _⟩
    have stage := (Acquisition.Orderly.held orderly holding isHeld).1
    simp only [Participant.Trusts, Acquisition.Trusts, stage]
    exact ⟨held, isOwn⟩
  · simp [Participant.heldPath?, LockerActivity.locker?] at held

/-- Whatever a locker does that holds a lock, the file that it `Harms` is its `own`, which it has
linked or found there, unless that one was `Taken` away from the path `ByOthers` while the locker
relied on it. The same holds of a task that was lent, except that the lender may have taken the file
away `WhileLent`. Only the touching of a lock that is a symbolic link reaches another file. -/
theorem harms_own_lock (opens : start.IsOpened) (permits : start.Permits KeepsFiles events) :
    (∀ index path deed other, ((start.run events).participant index).heldPath? = some path →
      (start.run events).host.files.Harms
        ((start.run events).step (.act index deed)).host.files other →
      ∃ own, ((start.run events).participant index).own = some own ∧
        (other = own ∨ deed = .refresh ∧ ((start.run events).host.files.target? own).isSome ∨
          start.Taken events path own (ByOthers index path own))) ∧
    ∀ number lent other, (start.run events).tasks[number]? = some lent →
      (start.run events).host.files.Harms
        ((start.run events).step (.run number)).host.files other →
      ∃ own, lent.own = some own ∧
        (other = own ∨ ((start.run events).host.files.target? own).isSome ∨
          start.Taken events lent.task.path own (WhileLent lent own)) := by
  have justified := opens.justified_run permits
  refine ⟨?_, ?_⟩
  · intro index path deed other held harms
    rcases Option.isSome_iff_exists.mp (justified.owns index (by simp [held])) with ⟨own, isOwn⟩
    have trusts := trusts_of_held (justified.tidy.orderly index) held isOwn
    refine ⟨own, isOwn, ?_⟩
    rcases justified.trusted index path own trusts with leads | taken
    · rcases (justified.tidy.orderly index).harms_perform trusts leads harms with same | link
      · exact Or.inl same
      · exact Or.inr (Or.inl link)
    · exact Or.inr (Or.inr taken)
  · intro number lent other isLent harms
    rcases justified.lent lent (List.mem_of_getElem? isLent) with ⟨own, isOwn, leads | taken⟩
    · simp only [step, isLent, Option.map_some, Option.getD_some] at harms
      rcases RefreshTask.stat_of_harms_run harms with ⟨found, looked⟩
      rcases target : (start.run events).host.files.target? own with _ | text
      · exact ⟨own, isOwn, Or.inl (leads.find target looked)⟩
      · exact ⟨own, isOwn, Or.inr (Or.inl (by simp [target]))⟩
    · exact ⟨own, isOwn, Or.inr (Or.inr taken)⟩

/-! ## A lock that changes hands -/

/-- The first locker takes the lock, and when it has not touched it for long, the second one breaks
it as stale and takes it. -/
def takeover : List SpoolEvent :=
  taking 0 7 ++
    .change { (bareSpool.run (taking 0 7)).host with now := seconds 1000 } :: taking 1 12

theorem permits_taking (spool : SharedSpool) (index steps : Nat) :
    spool.Permits KeepsFiles (taking index steps) := by
  apply permits_of_forall
  intro event member _
  rcases List.mem_cons.mp member with rfl | stepping
  · trivial
  · rw [List.eq_of_mem_replicate stepping]
    trivial

theorem permits_takeover : bareSpool.Permits KeepsFiles takeover :=
  permits_append_iff.mpr ⟨permits_taking .., rfl, permits_taking ..⟩

theorem harms_takeover :
    (bareSpool.run takeover).host.files.Harms
      ((bareSpool.run takeover).step (.act 0 .release)).host.files ⟨2⟩ := by
  refine ⟨by decide +kernel, by decide +kernel, Or.inl ⟨FileSystem.root, "u.lock", ?_, ?_⟩⟩
  · decide +kernel
  · decide +kernel

theorem taken_of_harms_takeover :
    bareSpool.IsOpened ∧ bareSpool.Permits KeepsFiles takeover ∧
      bareSpool.Taken takeover "/u.lock" ⟨1⟩ (ByOthers 0 "/u.lock" ⟨1⟩) := by
  refine ⟨isOpened_bareSpool, permits_takeover, ?_⟩
  have held : ((bareSpool.run takeover).participant 0).heldPath? = some "/u.lock" := by
    decide +kernel
  have first : ((bareSpool.run takeover).participant 0).own = some ⟨1⟩ := by decide +kernel
  rcases (harms_own_lock isOpened_bareSpool permits_takeover).1 0 "/u.lock" .release ⟨2⟩ held
      harms_takeover with ⟨own, isOwn, same | ⟨refreshes, _⟩ | taken⟩
  · rw [first, ← same] at isOwn
    simp at isOwn
  · simp at refreshes
  · cases first.symm.trans isOwn
    exact taken

/-- Giving back a lock that was taken over removes the lock of the locker that has it now. -/
theorem release_removes_lock_of_another :
    bareSpool.IsOpened ∧ bareSpool.Permits KeepsFiles takeover ∧
      ((bareSpool.run takeover).participant 0).heldPath? = some "/u.lock" ∧
      ((bareSpool.run takeover).participant 0).own = some ⟨1⟩ ∧
      ((bareSpool.run takeover).participant 1).heldPath? = some "/u.lock" ∧
      ((bareSpool.run takeover).participant 1).own = some ⟨2⟩ ∧
      (bareSpool.run takeover).host.files.Harms
        ((bareSpool.run takeover).step (.act 0 .release)).host.files ⟨2⟩ := by
  refine ⟨isOpened_bareSpool, permits_takeover, ?_, ?_, ?_, ?_, harms_takeover⟩
  · decide +kernel
  · decide +kernel
  · decide +kernel
  · decide +kernel

end SharedSpool

end MailSpool

import MailSpool.LockTable

/-!
# What happens to the locks that are held

Whoever gives up a lock, or changes its mode, may wake others, and these may be granted what they
wait for and wake others again. However long this goes on, a lock comes to be held only if it was
asked for, a process that asks for nothing keeps what it holds, and no two locks of different
processes stand against each other.

A state is a table together with the requests that were woken and are still to be met. The invariant
`Serves` is a relation between two states, so that meeting one request after another is one
transitive chain.
-/

namespace MailSpool

namespace RecordLock

theorem mem_insert_of_mem {locks : List RecordLock} {lock request : RecordLock}
    (member : lock ∈ locks) (other : lock.isOf request.file request.owner = false) :
    lock ∈ insert locks request := by
  induction locks with
  | nil => simp at member
  | cons first others ih =>
      simp only [insert]
      split
      case isTrue replaced =>
        rcases List.mem_cons.mp member with rfl | inOthers
        · rw [replaced] at other
          simp at other
        · exact List.mem_cons_of_mem _ inOthers
      case isFalse =>
        rcases List.mem_cons.mp member with rfl | inOthers
        · exact List.mem_cons_self
        · exact List.mem_cons_of_mem _ (ih inOthers)

theorem isOf_eq_true_iff {lock : RecordLock} {file : FileId} {owner : ProcessId} :
    lock.isOf file owner = true ↔ lock.file = file ∧ lock.owner = owner := by
  simp [isOf]

theorem isOf_eq_false_of_owner_ne {lock : RecordLock} {owner : ProcessId} (file : FileId)
    (different : lock.owner ≠ owner) : lock.isOf file owner = false := by
  simp [isOf, different]

end RecordLock

namespace LockTable

/-- No two locks that are held stand against each other. -/
def Compatible (table : LockTable) : Prop :=
  ∀ one ∈ table.held, ∀ other ∈ table.held, one.standsAgainst other = false

/-- Requests that are to be met again, and a table. -/
abbrev Pending := List RecordLock × LockTable

/-- A request waits in the table, or is to be met again. -/
def Asks (state : Pending) (request : RecordLock) : Prop :=
  request ∈ state.1 ∨ ∃ waiter ∈ state.2.waiting, waiter.request = request

/-- What becomes of the locks that are held, apart from those that are lost: only what was asked
for comes to be held, and only what asks is replaced. -/
structure Serves (lost : RecordLock → Prop) (before after : Pending) : Prop where
  held : ∀ lock ∈ after.2.held, lock ∈ before.2.held ∨ Asks before lock
  kept : ∀ lock ∈ before.2.held, ¬lost lock →
    (∀ request, Asks before request → lock.isOf request.file request.owner = false) →
    lock ∈ after.2.held
  asks : ∀ request, Asks after request → Asks before request
  compatible : before.2.Compatible → after.2.Compatible

/-- What becomes of a table between two times at which nothing is to be met. -/
def Alters (lost : RecordLock → Prop) (before after : LockTable) : Prop :=
  Serves lost ([], before) ([], after)

theorem conflict?_eq_none_iff {table : LockTable} {request : RecordLock} :
    table.conflict? request = none ↔ ∀ lock ∈ table.held, lock.standsAgainst request = false := by
  simp [conflict?]

theorem isWaiting_eq_false_iff {table : LockTable} {owner : ProcessId} :
    table.isWaiting owner = false ↔ ∀ waiter ∈ table.waiting, waiter.request.owner ≠ owner := by
  simp [isWaiting, waiter?]

namespace Serves

variable {lost : RecordLock → Prop} {before between after : Pending}

theorem refl (lost : RecordLock → Prop) (state : Pending) : Serves lost state state where
  held _ member := Or.inl member
  kept _ member _ _ := member
  asks _ asked := asked
  compatible compatible := compatible

theorem trans (first : Serves lost before between) (second : Serves lost between after) :
    Serves lost before after where
  held lock member := by
    rcases second.held lock member with old | asked
    · exact first.held lock old
    · exact Or.inr (first.asks lock asked)
  kept lock member stays other := by
    refine second.kept lock (first.kept lock member stays other) stays ?_
    intro request asked
    exact other request (first.asks request asked)
  asks request asked := first.asks request (second.asks request asked)
  compatible compatible := second.compatible (first.compatible compatible)

theorem mono {less : RecordLock → Prop} (serves : Serves less before after)
    (implies : ∀ lock, less lock → lost lock) : Serves lost before after where
  held := serves.held
  kept lock member stays := serves.kept lock member fun gone => stays (implies lock gone)
  asks := serves.asks
  compatible := serves.compatible

end Serves

section Alters

variable {lost : RecordLock → Prop} {before after : LockTable} {lock : RecordLock}

/-- A lock that has come to be held by what `Alters` the table was waited for. -/
theorem Alters.held (alters : Alters lost before after) (member : lock ∈ after.held) :
    lock ∈ before.held ∨ ∃ waiter ∈ before.waiting, waiter.request = lock := by
  rcases Serves.held alters lock member with old | asked | waits
  · exact Or.inl old
  · simp at asked
  · exact Or.inr waits

/-- A process that waits for nothing keeps its locks when something `Alters` the table. -/
theorem Alters.kept (alters : Alters lost before after) (member : lock ∈ before.held)
    (stays : ¬lost lock) (idle : before.isWaiting lock.owner = false) : lock ∈ after.held := by
  refine Serves.kept alters lock member stays ?_
  rintro request (asked | ⟨waiter, waits, rfl⟩)
  · simp at asked
  · exact RecordLock.isOf_eq_false_of_owner_ne _
      (Ne.symm (isWaiting_eq_false_iff.mp idle waiter waits))

theorem Alters.isWaiting (alters : Alters lost before after) {owner : ProcessId}
    (idle : before.isWaiting owner = false) : after.isWaiting owner = false := by
  rw [isWaiting_eq_false_iff] at idle ⊢
  intro waiter waits
  rcases Serves.asks alters waiter.request (Or.inr ⟨waiter, waits, rfl⟩) with
    asked | ⟨old, waited, same⟩
  · simp at asked
  · rw [← same]
    exact idle old waited

end Alters

/-! ## Waking and granting -/

theorem wake_eq (table : LockTable) (isWoken : Waiter → Bool) :
    table.wake isWoken = ((table.waiting.filter isWoken).map Waiter.request,
      { table with waiting := table.waiting.filter (not ∘ isWoken) }) := by
  simp only [wake, List.partition_eq_filter_filter]

theorem serves_wake (table : LockTable) (requests : List RecordLock) (isWoken : Waiter → Bool) :
    Serves (fun _ => False) (requests, table)
      (requests ++ (table.wake isWoken).1, (table.wake isWoken).2) := by
  refine ⟨fun _ => Or.inl, fun _ member _ _ => member, ?_, fun compatible => compatible⟩
  rw [wake_eq]
  rintro request (asked | ⟨waiter, waits, rfl⟩)
  · rcases List.mem_append.mp asked with old | woken
    · exact Or.inl old
    · rcases List.mem_map.mp woken with ⟨waiter, waits, rfl⟩
      exact Or.inr ⟨waiter, (List.mem_filter.mp waits).1, rfl⟩
  · exact Or.inr ⟨waiter, (List.mem_filter.mp waits).1, rfl⟩

theorem request_follow (granted : ProcessId) (waiter : Waiter) :
    (waiter.follow granted).request = waiter.request := by
  unfold Waiter.follow
  split <;> rfl

theorem serves_insert {table : LockTable} {wanted : RecordLock} (rest : List RecordLock)
    (free : table.conflict? wanted = none) :
    Serves (fun _ => False) (wanted :: rest, table)
      (rest, { table with
        held := RecordLock.insert table.held wanted
        waiting := table.waiting.map (Waiter.follow wanted.owner) }) := by
  have agrees := conflict?_eq_none_iff.mp free
  refine ⟨?_, ?_, ?_, ?_⟩
  · intro lock member
    rcases RecordLock.eq_or_mem_of_mem_insert member with rfl | old
    · exact Or.inr (Or.inl List.mem_cons_self)
    · exact Or.inl old
  · intro lock member _ other
    exact RecordLock.mem_insert_of_mem member (other wanted (Or.inl List.mem_cons_self))
  · rintro request (asked | ⟨waiter, waits, rfl⟩)
    · exact Or.inl (List.mem_cons_of_mem wanted asked)
    · rcases List.mem_map.mp waits with ⟨old, waited, rfl⟩
      exact Or.inr ⟨old, waited, (request_follow wanted.owner old).symm⟩
  · intro compatible one oneHeld other otherHeld
    rcases RecordLock.eq_or_mem_of_mem_insert oneHeld with rfl | oneOld
    · rcases RecordLock.eq_or_mem_of_mem_insert otherHeld with rfl | otherOld
      · exact RecordLock.standsAgainst_of_owner_eq rfl
      · rw [RecordLock.standsAgainst_comm]
        exact agrees other otherOld
    · rcases RecordLock.eq_or_mem_of_mem_insert otherHeld with rfl | otherOld
      · exact agrees one oneOld
      · exact compatible one oneOld other otherOld

/-- `grant` wakes what may be waiting behind an older lock, and inserts the lock. -/
theorem exists_awake_grant (table : LockTable) (wanted : RecordLock) :
    ∃ awake : Pending, awake.2.held = table.held ∧
      (∀ requests, Serves (fun _ => False) (requests, table) (requests ++ awake.1, awake.2)) ∧
      table.grant wanted = (awake.1, { awake.2 with
        held := RecordLock.insert awake.2.held wanted
        waiting := awake.2.waiting.map (Waiter.follow wanted.owner) }) := by
  by_cases same : wanted ∈ table.held
  · refine ⟨([], table), rfl, ?_, ?_⟩
    · intro requests
      rw [List.append_nil]
      exact .refl _ _
    · simp only [grant, same, if_true]
  · refine ⟨table.wakeBehindLock wanted.file wanted.owner, rfl, ?_, ?_⟩
    · intro requests
      exact table.serves_wake requests _
    · simp only [grant, same, if_false]

theorem serves_grant {table : LockTable} {wanted : RecordLock} (rest : List RecordLock)
    (free : table.conflict? wanted = none) :
    Serves (fun _ => False) (wanted :: rest, table)
      (rest ++ (table.grant wanted).1, (table.grant wanted).2) := by
  rcases table.exists_awake_grant wanted with ⟨awake, held, woken, granted⟩
  rw [granted]
  refine (woken (wanted :: rest)).trans (serves_insert _ ?_)
  unfold conflict? at free ⊢
  rw [held]
  exact free

/-- Nobody asks after a grant who has not waited before. -/
theorem waits_of_asks_grant {table : LockTable} {wanted request : RecordLock}
    (asked : Asks (table.grant wanted) request) :
    ∃ waiter ∈ table.waiting, waiter.request = request := by
  rcases table.exists_awake_grant wanted with ⟨awake, _, woken, granted⟩
  rw [granted] at asked
  have before : Asks ([], table) request := by
    apply (woken []).asks
    rcases asked with awoken | ⟨waiter, waits, rfl⟩
    · exact Or.inl awoken
    · rcases List.mem_map.mp waits with ⟨old, waited, rfl⟩
      exact Or.inr ⟨old, waited, (request_follow _ old).symm⟩
  rcases before with nothing | waited
  · simp at nothing
  · exact waited

theorem mem_held_grant (table : LockTable) (wanted : RecordLock) :
    wanted ∈ (table.grant wanted).2.held :=
  RecordLock.mem_insert_self _ wanted

/-! ## Meeting requests -/

@[simp]
theorem held_note (table : LockTable) (owner : ProcessId) (reply : Reply) :
    (table.note owner reply).held = table.held := by
  cases reply <;> rfl

@[simp]
theorem waiting_note (table : LockTable) (owner : ProcessId) (reply : Reply) :
    (table.note owner reply).waiting = table.waiting := by
  cases reply <;> rfl

theorem serves_note (table : LockTable) (requests : List RecordLock) (owner : ProcessId)
    (reply : Reply) : Serves (fun _ => False) (requests, table)
      (requests, table.note owner reply) where
  held lock member := by
    rw [held_note] at member
    exact Or.inl member
  kept lock member _ _ := by
    rw [held_note]
    exact member
  asks request asked := by
    simpa only [Asks, waiting_note] using asked
  compatible compatible := by
    simpa only [Compatible, held_note] using compatible

theorem serves_meet (table : LockTable) (wanted : RecordLock) (rest : List RecordLock) :
    Serves (fun _ => False) (wanted :: rest, table)
      (rest ++ (table.meet wanted).2.1, (table.meet wanted).2.2) := by
  unfold meet
  split
  case h_1 free => exact serves_grant rest free
  case h_2 blocker _ =>
    have woken := table.serves_wake (wanted :: rest) fun waiter =>
      waiter.behind = .request wanted.owner
    dsimp only [wakeBehindRequest]
    generalize table.wake _ = awake at woken ⊢
    refine woken.trans ?_
    split
    · refine ⟨fun _ => Or.inl, fun _ member _ _ => member, ?_, fun compatible => compatible⟩
      rintro request (asked | waits)
      · exact Or.inl (List.mem_cons_of_mem wanted asked)
      · exact Or.inr waits
    · refine ⟨fun _ => Or.inl, fun _ member _ _ => member, ?_, fun compatible => compatible⟩
      rintro request (asked | ⟨waiter, waits, rfl⟩)
      · exact Or.inl (List.mem_cons_of_mem wanted asked)
      · rcases List.mem_append.mp waits with old | anew
        · exact Or.inr ⟨waiter, old, rfl⟩
        · rw [List.mem_singleton.mp anew]
          exact Or.inl List.mem_cons_self

theorem serves_meetAll (steps : Nat) (requests : List RecordLock) (table : LockTable) :
    Serves (fun _ => False) (requests, table) ([], meetAll steps requests table) := by
  have given : ∀ (requests : List RecordLock) (table : LockTable),
      Serves (fun _ => False) (requests, table) ([], table) := by
    intro requests table
    refine ⟨fun _ => Or.inl, fun _ member _ _ => member, ?_, fun compatible => compatible⟩
    rintro request (asked | waits)
    · simp at asked
    · exact Or.inr waits
  induction steps generalizing requests table with
  | zero => exact given requests table
  | succ steps ih =>
      cases requests with
      | nil => exact given [] table
      | cons wanted others =>
          have met := table.serves_meet wanted others
          simp only [meetAll]
          generalize table.meet wanted = reply at met ⊢
          exact (met.trans (serves_note _ _ wanted.owner reply.1)).trans (ih _ _)

theorem serves_settle (woken : List RecordLock) (table : LockTable) :
    Serves (fun _ => False) (woken, table) ([], table.settle woken) :=
  serves_meetAll _ woken table

/-! ## The operations of processes -/

theorem serves_filter (lost : RecordLock → Prop) (requests : List RecordLock) (table : LockTable)
    (stays : RecordLock → Bool) (gone : ∀ lock, stays lock = false → lost lock) :
    Serves lost (requests, table) (requests, { table with held := table.held.filter stays }) where
  held lock member := Or.inl (List.mem_filter.mp member).1
  kept lock member keeps _ := by
    refine List.mem_filter.mpr ⟨member, ?_⟩
    cases decided : stays lock with
    | false => exact absurd (gone lock decided) keeps
    | true => rfl
  asks _ asked := asked
  compatible compatible one oneHeld other otherHeld :=
    compatible one (List.mem_filter.mp oneHeld).1 other (List.mem_filter.mp otherHeld).1

/-- `release` loses that one lock only. -/
theorem alters_release (table : LockTable) (file : FileId) (owner : ProcessId) :
    Alters (fun lock => lock.isOf file owner) table (table.release file owner) := by
  have woken := table.serves_wake [] fun waiter =>
    waiter.request.file = file && waiter.behind = .lock owner
  unfold release wakeBehindLock
  dsimp only
  generalize table.wake _ = awake at woken ⊢
  have filtered := serves_filter (fun lock => lock.isOf file owner) awake.1 awake.2
    (fun lock => !lock.isOf file owner) (by simp)
  exact ((woken.mono (by simp)).trans filtered).trans ((serves_settle _ _).mono (by simp))

/-- `releaseAll` loses the locks of the process only. -/
theorem alters_releaseAll (table : LockTable) (owner : ProcessId) :
    Alters (fun lock => lock.owner = owner) table (table.releaseAll owner) := by
  have woken := table.serves_wake [] fun waiter =>
    waiter.behind = .lock owner || waiter.behind = .request owner
  unfold releaseAll
  dsimp only
  generalize table.wake _ = awake at woken ⊢
  have filtered := serves_filter (fun lock => lock.owner = owner) awake.1 awake.2
    (fun lock => lock.owner ≠ owner) (by simp)
  refine ((woken.mono (by simp)).trans filtered).trans ?_
  refine Serves.trans ?_ ((serves_settle _ _).mono (by simp))
  refine ⟨fun _ => Or.inl, fun _ member _ _ => member, ?_, fun compatible => compatible⟩
  rintro request (asked | ⟨waiter, waits, rfl⟩)
  · exact Or.inl (List.mem_filter.mp asked).1
  · exact Or.inr ⟨waiter, (List.mem_filter.mp waits).1, rfl⟩

/-- What `request` grants is a lock that nothing stood against, as `Serves` says. -/
theorem serves_request {table after : LockTable} {wanted : RecordLock}
    (granted : table.request wanted = some after) :
    Serves (fun _ => False) ([wanted], table) ([], after) := by
  unfold request at granted
  split at granted
  · simp at granted
  case isFalse free =>
    cases granted
    have served : Serves (fun _ => False) ([wanted], table)
        ((table.grant wanted).1, (table.grant wanted).2) := serves_grant [] (by simpa using free)
    exact served.trans (serves_settle _ _)

/-- A process that waits for nothing holds the lock that `request` has granted it. -/
theorem mem_held_of_request {table after : LockTable} {wanted : RecordLock}
    (granted : table.request wanted = some after)
    (idle : table.isWaiting wanted.owner = false) : wanted ∈ after.held := by
  unfold request at granted
  split at granted
  · simp at granted
  case isFalse free =>
    cases granted
    refine (serves_settle _ _).kept wanted (table.mem_held_grant wanted) (by simp) ?_
    intro request asked
    rcases waits_of_asks_grant asked with ⟨waiter, waits, rfl⟩
    exact RecordLock.isOf_eq_false_of_owner_ne _
      (Ne.symm (isWaiting_eq_false_iff.mp idle waiter waits))

theorem isWaiting_of_request {table after : LockTable} {wanted : RecordLock} {owner : ProcessId}
    (granted : table.request wanted = some after) (idle : table.isWaiting owner = false) :
    after.isWaiting owner = false := by
  unfold request at granted
  split at granted
  · simp at granted
  case isFalse free =>
    cases granted
    rw [isWaiting_eq_false_iff] at idle ⊢
    intro waiter waits
    have asked := (serves_settle (table.grant wanted).1 (table.grant wanted).2).asks waiter.request
      (Or.inr ⟨waiter, waits, rfl⟩)
    rcases waits_of_asks_grant asked with ⟨old, waited, same⟩
    rw [← same]
    exact idle old waited

theorem mem_held_of_request_of_ne {table after : LockTable} {wanted lock : RecordLock}
    (granted : table.request wanted = some after) (member : lock ∈ table.held)
    (other : lock.owner ≠ wanted.owner) (idle : table.isWaiting lock.owner = false) :
    lock ∈ after.held := by
  refine (serves_request granted).kept lock member (by simp) ?_
  rintro request (same | ⟨waiter, waits, rfl⟩)
  · rw [List.mem_singleton.mp same]
    exact RecordLock.isOf_eq_false_of_owner_ne _ other
  · exact RecordLock.isOf_eq_false_of_owner_ne _
      (Ne.symm (isWaiting_eq_false_iff.mp idle waiter waits))

end LockTable

end MailSpool

import MailSpool.Proofs.Locks.Table

/-!
# Queues for one file

A request is queued behind what stands against it, and so behind a lock or a request for the same
file. When a process gives up its lock on a file, only requests for this file are woken, and those
that wake others in their turn wake requests for this file again. So the locks on all other files
stay as they are, whoever holds them.

That each process asks for one file at a time and that a request is queued behind one for the same
file is an invariant of meeting requests, `Queued`; it is what the argument rests on.
-/

namespace MailSpool

theorem RecordLock.mem_insert_iff_of_file_ne {locks : List RecordLock} {lock request : RecordLock}
    (different : lock.file ≠ request.file) : lock ∈ insert locks request ↔ lock ∈ locks := by
  constructor
  · intro member
    rcases eq_or_mem_of_mem_insert member with rfl | old
    · exact absurd rfl different
    · exact old
  · intro member
    exact mem_insert_of_mem member (by simp [isOf, different])

theorem RecordLock.file_eq_of_standsAgainst {lock request : RecordLock}
    (stands : lock.standsAgainst request = true) : lock.file = request.file := by
  simp only [standsAgainst, Bool.and_eq_true, decide_eq_true_eq] at stands
  exact stands.1.1

namespace LockTable

variable {before after : Pending} {table : LockTable} {wanted : RecordLock}
  {rest : List RecordLock} {file : FileId}

/-- A process asks for one file at a time, and a request that waits behind another one is for the
same file. -/
structure Queued (state : Pending) : Prop where
  single : ∀ one other, Asks state one → Asks state other → one.owner = other.owner →
    one.file = other.file
  behind : ∀ waiter ∈ state.2.waiting, ∀ request, Asks state request →
    waiter.behind = .request request.owner → waiter.request.file = request.file

theorem queued_of_waiting_eq_nil (nobody : table.waiting = []) : Queued ([], table) where
  single one _ asked := by simp [Asks, nobody] at asked
  behind waiter waits := by simp [nobody] at waits

/-- Nobody comes to ask, and those that wait stay where they are or come to wait behind a lock. -/
structure Thins (before after : Pending) : Prop where
  asks : ∀ request, Asks after request → Asks before request
  waiting : ∀ waiter ∈ after.2.waiting, ∃ old ∈ before.2.waiting,
    old.request = waiter.request ∧
      (waiter.behind = old.behind ∨ ∃ owner, waiter.behind = .lock owner)

theorem Queued.of_thins (queued : Queued before) (thins : Thins before after) : Queued after where
  single one other oneAsks otherAsks :=
    queued.single one other (thins.asks one oneAsks) (thins.asks other otherAsks)
  behind waiter waits request asked isBehind := by
    rcases thins.waiting waiter waits with ⟨old, waited, same, kept | ⟨owner, locked⟩⟩
    · rw [← same]
      rw [kept] at isBehind
      exact queued.behind old waited request (thins.asks request asked) isBehind
    · rw [locked] at isBehind
      simp at isBehind

theorem thins_wake (table : LockTable) (requests : List RecordLock) (isWoken : Waiter → Bool) :
    Thins (requests, table) (requests ++ (table.wake isWoken).1, (table.wake isWoken).2) where
  asks := (table.serves_wake requests isWoken).asks
  waiting waiter waits := by
    rw [wake_eq] at waits
    exact ⟨waiter, (List.mem_filter.mp waits).1, rfl, Or.inl rfl⟩

theorem mem_wake_iff (isWoken : Waiter → Bool) {request : RecordLock} :
    request ∈ (table.wake isWoken).1 ↔
      ∃ waiter ∈ table.waiting, isWoken waiter = true ∧ waiter.request = request := by
  rw [wake_eq]
  simp [and_assoc]

/-! ## Granting -/

theorem thins_grant (rest : List RecordLock) (free : table.conflict? wanted = none) :
    Thins (wanted :: rest, table) (rest ++ (table.grant wanted).1, (table.grant wanted).2) where
  asks := (serves_grant rest free).asks
  waiting waiter waits := by
    have waited : ∃ old ∈ table.waiting, old.follow wanted.owner = waiter := by
      by_cases same : wanted ∈ table.held
      · simp only [grant, same, if_true] at waits
        exact List.mem_map.mp waits
      · simp only [grant, same, if_false, wakeBehindLock, wake_eq] at waits
        rcases List.mem_map.mp waits with ⟨old, kept, followed⟩
        exact ⟨old, (List.mem_filter.mp kept).1, followed⟩
    rcases waited with ⟨old, isOld, rfl⟩
    refine ⟨old, isOld, (request_follow wanted.owner old).symm, ?_⟩
    unfold Waiter.follow
    split
    · exact Or.inr ⟨wanted.owner, rfl⟩
    · exact Or.inl rfl

theorem file_of_mem_grant {request : RecordLock} (woken : request ∈ (table.grant wanted).1) :
    request.file = wanted.file := by
  by_cases same : wanted ∈ table.held
  · simp [grant, same] at woken
  · simp only [grant, same, if_false, wakeBehindLock] at woken
    rcases (mem_wake_iff _).mp woken with ⟨waiter, _, isWoken, rfl⟩
    simp only [Bool.and_eq_true, decide_eq_true_eq] at isWoken
    exact isWoken.1

theorem mem_held_grant_iff {lock : RecordLock} (different : lock.file ≠ wanted.file) :
    lock ∈ (table.grant wanted).2.held ↔ lock ∈ table.held := by
  rcases table.exists_awake_grant wanted with ⟨awake, held, _, granted⟩
  rw [granted, ← held]
  exact RecordLock.mem_insert_iff_of_file_ne different

/-! ## Waiting -/

/-- A `place` in a queue is behind what it starts from, or behind a request that waits for the same
file. -/
theorem place_cases (table : LockTable) (request : RecordLock) (steps : Nat) (blocker : Blocker) :
    table.place request steps blocker = blocker ∨
      ∃ waiter ∈ table.waiting, waiter.request.file = request.file ∧
        table.place request steps blocker = .request waiter.request.owner := by
  induction steps generalizing blocker with
  | zero => exact Or.inl rfl
  | succ steps ih =>
      unfold place
      split
      case h_1 => exact Or.inl rfl
      case h_2 found isFound =>
        rcases ih (.request found.request.owner) with same | ⟨waiter, waits, sameFile, behind⟩
        · have stands := List.find?_some isFound
          simp only [Bool.and_eq_true] at stands
          rw [same]
          exact Or.inr ⟨found, List.mem_of_find?_eq_some isFound,
            RecordLock.file_eq_of_standsAgainst stands.2, rfl⟩
        · exact Or.inr ⟨waiter, waits, sameFile, behind⟩

/-- A request that is met and comes to wait is queued behind a lock or a request for its file. -/
theorem Queued.enqueue (queued : Queued (wanted :: rest, table)) (steps : Nat)
    (owner : ProcessId) :
    Queued (rest, { table with
      waiting := table.waiting ++
        [{ request := wanted, behind := table.place wanted steps (.lock owner) }] }) := by
  have asks : ∀ request, Asks (rest, { table with
      waiting := table.waiting ++
        [{ request := wanted, behind := table.place wanted steps (.lock owner) }] }) request →
      Asks (wanted :: rest, table) request := by
    rintro request (asked | ⟨waiter, waits, rfl⟩)
    · exact Or.inl (List.mem_cons_of_mem wanted asked)
    · rcases List.mem_append.mp waits with old | anew
      · exact Or.inr ⟨waiter, old, rfl⟩
      · rw [List.mem_singleton.mp anew]
        exact Or.inl List.mem_cons_self
  refine ⟨fun one other oneAsks otherAsks => queued.single one other (asks one oneAsks)
    (asks other otherAsks), ?_⟩
  intro waiter waits request asked isBehind
  rcases List.mem_append.mp waits with old | anew
  · exact queued.behind waiter old request (asks request asked) isBehind
  · rw [List.mem_singleton.mp anew] at isBehind ⊢
    rcases table.place_cases wanted steps (.lock owner) with same | ⟨other, waited, same, placed⟩
    · rw [same] at isBehind
      simp at isBehind
    · rw [placed, Blocker.request.injEq] at isBehind
      rw [← same]
      exact queued.single other.request request (Or.inr ⟨other, waited, rfl⟩)
        (asks request asked) isBehind

/-! ## Meeting requests -/

theorem queued_meet (queued : Queued (wanted :: rest, table)) :
    Queued (rest ++ (table.meet wanted).2.1, (table.meet wanted).2.2) := by
  unfold meet
  split
  case h_1 free => exact queued.of_thins (thins_grant rest free)
  case h_2 blocker _ =>
    have woken := queued.of_thins
      (table.thins_wake (wanted :: rest) fun waiter => waiter.behind = .request wanted.owner)
    dsimp only [wakeBehindRequest]
    generalize table.wake _ = awake at woken ⊢
    split
    · refine woken.of_thins ⟨?_, fun waiter waits => ⟨waiter, waits, rfl, Or.inl rfl⟩⟩
      rintro request (asked | waits)
      · exact Or.inl (List.mem_cons_of_mem wanted asked)
      · exact Or.inr waits
    · exact woken.enqueue _ blocker.owner

/-- `meet` leaves the locks on all other files, and wakes requests for this file. -/
theorem elsewhere_meet (queued : Queued (wanted :: rest, table)) :
    (∀ request ∈ (table.meet wanted).2.1, request.file = wanted.file) ∧
      ∀ lock, lock.file ≠ wanted.file →
        (lock ∈ (table.meet wanted).2.2.held ↔ lock ∈ table.held) := by
  unfold meet
  split
  case h_1 free => exact ⟨fun _ woken => file_of_mem_grant woken, fun _ => mem_held_grant_iff⟩
  case h_2 blocker _ =>
    have woken : ∀ request ∈ (table.wakeBehindRequest wanted.owner).1,
        request.file = wanted.file := by
      intro request isWoken
      rcases (mem_wake_iff _).mp isWoken with ⟨waiter, waits, behind, rfl⟩
      exact queued.behind waiter waits wanted (Or.inl List.mem_cons_self) (by simpa using behind)
    dsimp only
    split
    · exact ⟨woken, fun lock _ => Iff.rfl⟩
    · exact ⟨woken, fun lock _ => Iff.rfl⟩

theorem elsewhere_meetAll (steps : Nat) {requests : List RecordLock} {table : LockTable}
    (queued : Queued (requests, table)) (same : ∀ request ∈ requests, request.file = file) :
    Queued ([], meetAll steps requests table) ∧ ∀ lock, lock.file ≠ file →
      (lock ∈ (meetAll steps requests table).held ↔ lock ∈ table.held) := by
  have given : ∀ {requests : List RecordLock} {table : LockTable}, Queued (requests, table) →
      Queued ([], table) := by
    intro requests table queued
    refine queued.of_thins ⟨?_, fun waiter waits => ⟨waiter, waits, rfl, Or.inl rfl⟩⟩
    rintro request (asked | waits)
    · simp at asked
    · exact Or.inr waits
  induction steps generalizing requests table with
  | zero => exact ⟨given queued, fun _ _ => Iff.rfl⟩
  | succ steps ih =>
      cases requests with
      | nil => exact ⟨queued, fun _ _ => Iff.rfl⟩
      | cons wanted others =>
          have wantedFile := same wanted List.mem_cons_self
          have met := queued_meet queued
          rcases elsewhere_meet queued with ⟨woken, held⟩
          simp only [meetAll]
          generalize table.meet wanted = reply at met woken held ⊢
          have noted : Queued (others ++ reply.2.1, reply.2.2.note wanted.owner reply.1) :=
            met.of_thins ⟨(serves_note _ _ wanted.owner reply.1).asks, fun waiter waits =>
              ⟨waiter, by simpa using waits, rfl, Or.inl rfl⟩⟩
          have sameFile : ∀ request ∈ others ++ reply.2.1, request.file = file := by
            intro request member
            rcases List.mem_append.mp member with other | isWoken
            · exact same request (List.mem_cons_of_mem wanted other)
            · exact (woken request isWoken).trans wantedFile
          rcases ih noted sameFile with ⟨stillQueued, later⟩
          refine ⟨stillQueued, ?_⟩
          intro lock different
          rw [later lock different, held_note]
          exact held lock (wantedFile ▸ different)

/-- `release` leaves the locks on all other files as they are. -/
theorem elsewhere_release (queued : Queued ([], table)) (file : FileId) (owner : ProcessId) :
    Queued ([], table.release file owner) ∧ ∀ lock, lock.file ≠ file →
      (lock ∈ (table.release file owner).held ↔ lock ∈ table.held) := by
  have woken := queued.of_thins (table.thins_wake [] fun waiter =>
    waiter.request.file = file && waiter.behind = .lock owner)
  have same : ∀ request ∈ (table.wakeBehindLock file owner).1, request.file = file := by
    intro request isWoken
    rcases (mem_wake_iff _).mp isWoken with ⟨waiter, _, behind, rfl⟩
    simp only [Bool.and_eq_true, decide_eq_true_eq] at behind
    exact behind.1
  have freed : Queued ((table.wakeBehindLock file owner).1,
      { (table.wakeBehindLock file owner).2 with
        held := (table.wakeBehindLock file owner).2.held.filter
          fun lock => !lock.isOf file owner }) :=
    woken.of_thins ⟨fun _ asked => asked, fun waiter waits => ⟨waiter, waits, rfl, Or.inl rfl⟩⟩
  rcases elsewhere_meetAll _ freed same with ⟨stillQueued, held⟩
  refine ⟨stillQueued, ?_⟩
  intro lock different
  have other : lock.isOf file owner = false := by simp [RecordLock.isOf, different]
  refine (held lock different).trans ?_
  rw [List.mem_filter, other]
  exact and_iff_left rfl

/-- A process that waits for nothing has no lock on a file after it has given it up. -/
theorem isOf_eq_false_of_mem_release {owner : ProcessId} (file : FileId)
    (idle : table.isWaiting owner = false) {lock : RecordLock}
    (member : lock ∈ (table.release file owner).held) : lock.isOf file owner = false := by
  have woken := table.serves_wake [] fun waiter =>
    waiter.request.file = file && waiter.behind = .lock owner
  rcases (serves_settle _ _).held lock member with kept | asked
  · simpa using (List.mem_filter.mp kept).2
  · rcases woken.asks lock asked with nothing | ⟨waiter, waits, rfl⟩
    · simp at nothing
    · exact RecordLock.isOf_eq_false_of_owner_ne file
        (isWaiting_eq_false_iff.mp idle waiter waits)

end LockTable

end MailSpool

import Mathlib.Data.List.Nodup
import MailSpool.Proofs.Locks.Table

/-!
# Who holds the locks

However locks are asked for and given up, a process has at most one lock on each file, `Single`, and
only one that asked for a lock has locks or waits for one.

The first is a fact about the list of the locks that are held, into which locks are inserted and
from which some are left out. The second follows from what is known of meeting requests: it brings
nobody new.
-/

namespace MailSpool

namespace RecordLock

/-- What a process has at most one lock for. -/
def key (lock : RecordLock) : FileId × ProcessId :=
  (lock.file, lock.owner)

theorem isOf_iff_key {lock : RecordLock} {file : FileId} {owner : ProcessId} :
    lock.isOf file owner = true ↔ lock.key = (file, owner) := by
  rw [isOf_eq_true_iff, key, Prod.mk.injEq]

theorem keys_insert (locks : List RecordLock) (request : RecordLock) :
    (insert locks request).map key = locks.map key ∨
      request.key ∉ locks.map key ∧
        (insert locks request).map key = locks.map key ++ [request.key] := by
  induction locks with
  | nil => exact Or.inr ⟨List.not_mem_nil, rfl⟩
  | cons first others ih =>
      simp only [insert]
      split
      case isTrue replaced =>
        left
        rw [List.map_cons, List.map_cons, isOf_iff_key.mp replaced]
        rfl
      case isFalse kept =>
        have different : request.key ≠ first.key := by
          intro same
          exact kept (isOf_iff_key.mpr same.symm)
        rcases ih with same | ⟨isNew, appended⟩
        · left
          rw [List.map_cons, List.map_cons, same]
        · right
          rw [List.map_cons, List.map_cons, appended]
          exact ⟨List.not_mem_cons_of_ne_of_not_mem different isNew, rfl⟩

end RecordLock

namespace LockTable

/-- No process has two locks on one file. -/
def Single (table : LockTable) : Prop :=
  (table.held.map RecordLock.key).Nodup

section Single

variable {table after : LockTable} {wanted lock : RecordLock}

theorem Single.of_held (single : table.Single) (held : after.held = table.held) : after.Single := by
  unfold Single
  rw [held]
  exact single

theorem Single.filter (single : table.Single) (stays : RecordLock → Bool)
    (held : after.held = table.held.filter stays) : after.Single := by
  unfold Single
  rw [held]
  exact List.Nodup.sublist (List.filter_sublist.map _) single

theorem Single.grant (single : table.Single) (wanted : RecordLock) :
    (table.grant wanted).2.Single := by
  rcases table.exists_awake_grant wanted with ⟨awake, held, _, granted⟩
  unfold Single
  rw [granted]
  dsimp only
  rw [held]
  rcases RecordLock.keys_insert table.held wanted with same | ⟨isNew, appended⟩
  · rw [same]
    exact single
  · rw [appended, List.nodup_append]
    refine ⟨single, List.nodup_singleton _, ?_⟩
    intro old isOld new isWanted same
    rw [List.mem_singleton.mp isWanted] at same
    exact isNew (same ▸ isOld)

theorem Single.meet (single : table.Single) (wanted : RecordLock) :
    (table.meet wanted).2.2.Single := by
  unfold LockTable.meet
  split
  · exact single.grant wanted
  · dsimp only
    split
    · exact single.of_held rfl
    · exact single.of_held rfl

theorem Single.meetAll (single : table.Single) (steps : Nat) (requests : List RecordLock) :
    (meetAll steps requests table).Single := by
  induction steps generalizing requests table with
  | zero => exact single
  | succ steps ih =>
      cases requests with
      | nil => exact single
      | cons wanted others => exact ih ((single.meet wanted).of_held (held_note _ _ _)) _

theorem Single.settle (single : table.Single) (woken : List RecordLock) :
    (table.settle woken).Single :=
  single.meetAll _ woken

theorem Single.request (single : table.Single) (granted : table.request wanted = some after) :
    after.Single := by
  unfold LockTable.request at granted
  split at granted
  · simp at granted
  · cases granted
    exact (single.grant wanted).settle _

theorem Single.await (single : table.Single) (wanted : RecordLock) :
    (table.await wanted).2.Single := by
  have asking : Single { table with
      refused := table.refused.filter fun owner => owner ≠ wanted.owner } := single.of_held rfl
  exact (asking.meet wanted).settle _

theorem Single.release (single : table.Single) (file : FileId) (owner : ProcessId) :
    (table.release file owner).Single :=
  Single.settle (single.filter _ rfl) _

theorem Single.withdraw (single : table.Single) (owner : ProcessId) :
    (table.withdraw owner).Single := by
  have withdrawn : Single { (table.wakeBehindRequest owner).2 with
      waiting := (table.wakeBehindRequest owner).2.waiting.filter fun waiter =>
        waiter.request.owner ≠ owner } := single.of_held rfl
  exact withdrawn.settle _

theorem Single.releaseAll (single : table.Single) (owner : ProcessId) :
    (table.releaseAll owner).Single :=
  Single.settle (single.filter _ rfl) _

/-- The lock of a process on a file is the one that `lock?` finds. -/
theorem Single.lock? (single : table.Single) (member : lock ∈ table.held) :
    table.lock? lock.file lock.owner = some lock := by
  rcases found : table.lock? lock.file lock.owner with _ | other
  · have none := List.find?_eq_none.mp found lock member
    exact absurd (RecordLock.isOf_eq_true_iff.mpr ⟨rfl, rfl⟩) none
  · have isOther := List.mem_of_find?_eq_some found
    have isOf := List.find?_some found
    have same : other.key = lock.key := RecordLock.isOf_iff_key.mp isOf
    rw [List.inj_on_of_nodup_map single isOther member same]

end Single

/-! ## Who has to do with locks -/

/-- A process holds a lock, waits for one, or asks for one that is to be granted or refused. -/
def Concerns (state : Pending) (owner : ProcessId) : Prop :=
  ∃ lock : RecordLock, (lock ∈ state.2.held ∨ Asks state lock) ∧ lock.owner = owner

theorem Serves.concerns {lost : RecordLock → Prop} {before after : Pending} {owner : ProcessId}
    (serves : Serves lost before after) (concerned : Concerns after owner) :
    Concerns before owner := by
  rcases concerned with ⟨lock, holds | asks, rfl⟩
  · exact ⟨lock, serves.held lock holds, rfl⟩
  · exact ⟨lock, Or.inr (serves.asks lock asks), rfl⟩

section Concerns

variable {table : LockTable} {wanted : RecordLock} {owner other : ProcessId}

/-- A new request brings at most the process that makes it. -/
theorem concerns_request (concerned : Concerns ([wanted], table) owner) :
    owner = wanted.owner ∨ Concerns ([], table) owner := by
  rcases concerned with ⟨lock, holds | asked | waits, rfl⟩
  · exact Or.inr ⟨lock, Or.inl holds, rfl⟩
  · rw [List.mem_singleton.mp asked]
    exact Or.inl rfl
  · exact Or.inr ⟨lock, Or.inr (Or.inr waits), rfl⟩

theorem serves_await (table : LockTable) (wanted : RecordLock) :
    Serves (fun _ => False) ([wanted], table) ([], (table.await wanted).2) := by
  unfold await
  dsimp only
  have asking : Serves (fun _ => False) ([wanted], table)
      ([wanted], { table with
        refused := table.refused.filter fun owner => owner ≠ wanted.owner }) :=
    ⟨fun _ => Or.inl, fun _ member _ _ => member, fun _ asked => asked,
      fun compatible => compatible⟩
  exact (asking.trans (serves_meet _ wanted [])).trans (serves_settle _ _)

theorem alters_withdraw (table : LockTable) (owner : ProcessId) :
    Alters (fun _ => False) table (table.withdraw owner) := by
  have woken := table.serves_wake [] fun waiter => waiter.behind = .request owner
  unfold withdraw wakeBehindRequest
  dsimp only
  generalize table.wake _ = awake at woken ⊢
  refine (woken.trans ?_).trans (serves_settle _ _)
  refine ⟨fun _ => Or.inl, fun _ member _ _ => member, ?_, fun compatible => compatible⟩
  rintro request (asked | ⟨waiter, waits, rfl⟩)
  · exact Or.inl asked
  · exact Or.inr ⟨waiter, (List.mem_filter.mp waits).1, rfl⟩

theorem ne_of_concerns_releaseAll (concerned : Concerns ([], table.releaseAll owner) other) :
    other ≠ owner := by
  unfold releaseAll at concerned
  dsimp only at concerned
  rcases (serves_settle _ _).concerns concerned with
    ⟨lock, holds | asked | ⟨waiter, waits, rfl⟩, rfl⟩
  · simpa using (List.mem_filter.mp holds).2
  · simpa using (List.mem_filter.mp asked).2
  · simpa using (List.mem_filter.mp waits).2

end Concerns

end LockTable

end MailSpool

import MailSpool.FileSystem
import MailSpool.LockMode

/-!
# Record locks

An advisory lock on a whole file belongs to a process, which holds at most one on each file: a
second one takes the place of the first. Locks are listed in the order in which their processes
first obtained them.
-/

namespace MailSpool

abbrev ProcessId := Nat

/-- A lock of a process on a file, held or asked for. -/
structure RecordLock where
  file : FileId
  owner : ProcessId
  mode : LockMode
  deriving DecidableEq, Repr

namespace RecordLock

/-- Whether a lock stands against a request: it is on the same file, belongs to another process,
and at least one of the two is exclusive. -/
def standsAgainst (lock request : RecordLock) : Bool :=
  lock.file = request.file && lock.owner ≠ request.owner && lock.mode.conflicts request.mode

def isOf (lock : RecordLock) (file : FileId) (owner : ProcessId) : Bool :=
  lock.file = file && lock.owner = owner

/-- A list of locks in which a process has one more lock, in the place of its older one if it had
one on the same file. -/
def insert : List RecordLock → RecordLock → List RecordLock
  | [], request => [request]
  | lock :: others, request =>
    if lock.isOf request.file request.owner then request :: others
    else lock :: insert others request

theorem standsAgainst_comm (first second : RecordLock) :
    first.standsAgainst second = second.standsAgainst first := by
  simp only [standsAgainst, LockMode.conflicts_comm first.mode second.mode, eq_comm, ne_eq]

theorem standsAgainst_of_owner_eq {lock request : RecordLock} (same : lock.owner = request.owner) :
    lock.standsAgainst request = false := by
  simp [standsAgainst, same]

theorem mem_insert_self (locks : List RecordLock) (request : RecordLock) :
    request ∈ insert locks request := by
  induction locks with
  | nil => simp [insert]
  | cons lock others inOthers =>
    unfold insert
    split <;> simp [inOthers]

/-- `insert` brings no other lock into a list. -/
theorem eq_or_mem_of_mem_insert {locks : List RecordLock} {lock request : RecordLock}
    (member : lock ∈ insert locks request) : lock = request ∨ lock ∈ locks := by
  induction locks with
  | nil => exact Or.inl (List.mem_singleton.1 member)
  | cons first others fromOthers =>
    unfold insert at member
    split at member
    case isTrue =>
      rcases List.mem_cons.1 member with same | inOthers
      · exact Or.inl same
      · exact Or.inr (List.mem_cons_of_mem first inOthers)
    case isFalse =>
      rcases List.mem_cons.1 member with rfl | inserted
      · exact Or.inr List.mem_cons_self
      · exact (fromOthers inserted).imp_right (List.mem_cons_of_mem first)

end RecordLock

end MailSpool

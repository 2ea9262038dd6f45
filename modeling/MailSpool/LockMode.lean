/-!
# Lock modes

An advisory lock is shared by readers or exclusive to one writer. Callers ask for a mode by the
tag they would open a file with, such as `r`, `rw` or `rws`.
-/

namespace MailSpool

/-- What an advisory lock lets its holder do. -/
inductive LockMode where
  /-- Shared with other readers. -/
  | read
  /-- Exclusive. -/
  | write
  deriving DecidableEq, Repr

namespace LockMode

/-- The mode that a tag asks for: exclusive when the second byte of the tag is a `w`, and shared
otherwise. A byte is looked at, so after a character of several bytes no `w` is found. -/
def ofTag (tag : String) : LockMode :=
  if tag.toUTF8.data[1]? = some 'w'.toUInt8 then write else read

def tag : LockMode → String
  | read => "r"
  | write => "rw"

def name : LockMode → String
  | read => "read"
  | write => "write"

def lockType : LockMode → Nat
  | read => 0
  | write => 1

/-- Two locks of different processes conflict unless both are shared. -/
def conflicts : LockMode → LockMode → Bool
  | read, read => false
  | _, _ => true

@[simp]
theorem ofTag_tag (mode : LockMode) : ofTag mode.tag = mode := by
  cases mode <;> decide

theorem conflicts_comm (first second : LockMode) :
    first.conflicts second = second.conflicts first := by
  cases first <;> cases second <;> rfl

end LockMode

end MailSpool

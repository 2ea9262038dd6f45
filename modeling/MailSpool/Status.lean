/-!
# Status enumerations

Two closed enumerations tell how an operation went: a coarse one for every operation, and the
numbered one of the mailbox locking convention.
-/

namespace MailSpool

/-- How an operation went, coarsely. -/
inductive OperationStatus where
  | success
  | wouldBlock
  | permissionDenied
  | notFound
  | unknown
  deriving DecidableEq, Repr

namespace OperationStatus

def all : List OperationStatus :=
  [success, wouldBlock, permissionDenied, notFound, unknown]

def name : OperationStatus → String
  | success => "success"
  | wouldBlock => "would_block"
  | permissionDenied => "permission_denied"
  | notFound => "not_found"
  | unknown => "unknown"

def succeeded (status : OperationStatus) : Bool :=
  status = success

end OperationStatus

/-- How taking a mailbox lock went, in the numbering of the locking convention. -/
inductive MailLockStatus where
  | success
  /-- The user name would make a lock name that is too long. -/
  | nameLength
  /-- The temporary lock file could not be created. -/
  | temporaryLock
  /-- The temporary lock file could not be written. -/
  | temporaryWrite
  /-- Another holder kept the lock through every retry. -/
  | maxTries
  /-- Any other failure. -/
  | error
  deriving DecidableEq, Repr

namespace MailLockStatus

def all : List MailLockStatus :=
  [success, nameLength, temporaryLock, temporaryWrite, maxTries, error]

def code : MailLockStatus → Int32
  | success => 0
  | nameLength => 1
  | temporaryLock => 2
  | temporaryWrite => 3
  | maxTries => 4
  | error => 5

def ofCode (code : Int32) : MailLockStatus :=
  (all.find? fun status => status.code = code).getD error

def name : MailLockStatus → String
  | success => "success"
  | nameLength => "name_length"
  | temporaryLock => "tmp_lock"
  | temporaryWrite => "tmp_write"
  | maxTries => "max_tries"
  | error => "error"

def description : MailLockStatus → String
  | success => "success"
  | nameLength => "lock name too long"
  | temporaryLock => "cannot create temporary lock file"
  | temporaryWrite => "cannot write temporary lock file"
  | maxTries => "maximum retries exceeded"
  | error => "lock error"

def message (status : MailLockStatus) : String :=
  status.description ++ " (" ++ toString status.code.toInt ++ ")"

def isSuccess (status : MailLockStatus) : Bool :=
  status = success

@[simp]
theorem ofCode_code (status : MailLockStatus) : ofCode status.code = status := by
  cases status <;> decide

end MailLockStatus

end MailSpool

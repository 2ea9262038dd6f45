import MailSpool.RecordLock

/-!
# The table of record locks

The locks that are held on a host, and the requests that wait. A request that a lock stands
against is refused or waits. One that waits is queued behind the first such lock, and there behind
the first queued request that stands against it, so that requests which exclude each other are met
in the order in which they came. When what a request is queued behind goes or changes, it is woken
and met like a new one.

A request does not wait for a process that waits, perhaps through others, for the one that asks.
This is decided when a request is queued, so one that was woken can be refused though it had
waited before.
-/

namespace MailSpool

/-- What a request is queued behind. -/
inductive Blocker where
  /-- The lock of a process on the file. -/
  | lock (owner : ProcessId)
  /-- The request with which a process waits. -/
  | request (owner : ProcessId)
  deriving DecidableEq, Repr

/-- A request that waits. -/
structure Waiter where
  request : RecordLock
  behind : Blocker
  deriving DecidableEq, Repr

namespace Waiter

/-- A waiter that was queued behind the request of a process is queued behind the lock that it
became. -/
def follow (granted : ProcessId) (waiter : Waiter) : Waiter :=
  if waiter.behind = .request granted then { waiter with behind := .lock granted } else waiter

end Waiter

/-- The locks that are held, and the requests that wait in the order in which they were queued. -/
structure LockTable where
  held : List RecordLock := []
  waiting : List Waiter := []
  /-- The processes that were woken and could not go on waiting. -/
  refused : List ProcessId := []
  deriving DecidableEq, Repr

namespace LockTable

def conflict? (table : LockTable) (request : RecordLock) : Option RecordLock :=
  table.held.find? fun lock => lock.standsAgainst request

def lock? (table : LockTable) (file : FileId) (owner : ProcessId) : Option RecordLock :=
  table.held.find? fun lock => lock.isOf file owner

def waiter? (table : LockTable) (owner : ProcessId) : Option Waiter :=
  table.waiting.find? fun waiter => waiter.request.owner = owner

def isWaiting (table : LockTable) (owner : ProcessId) : Bool :=
  (table.waiter? owner).isSome

/-- The process that a request waits for in the end, given what it is queued behind; a number of
requests is followed. -/
def awaited (table : LockTable) : Nat → Blocker → ProcessId
  | _, .lock owner => owner
  | 0, .request owner => owner
  | steps + 1, .request owner =>
    match table.waiter? owner with
    | some waiter => table.awaited steps waiter.behind
    | none => owner

/-- Whether a process waits for `target`, perhaps through others; a number of processes is
followed. -/
def waitsFor (table : LockTable) (target : ProcessId) : Nat → ProcessId → Bool
  | 0, _ => false
  | steps + 1, owner =>
    match table.waiter? owner with
    | none => false
    | some waiter =>
      let next := table.awaited table.waiting.length waiter.behind
      next = target || table.waitsFor target steps next

/-- How many processes are followed to see whether one waits for another. Longer chains are not
seen through. -/
def chainLimit : Nat := 11

/-- What a request is queued behind, given a lock or a request that it has to wait for; a number
of requests is passed. -/
def place (table : LockTable) (request : RecordLock) : Nat → Blocker → Blocker
  | 0, blocker => blocker
  | steps + 1, blocker =>
    match table.waiting.find? fun waiter =>
        waiter.behind = blocker && waiter.request.standsAgainst request with
    | none => blocker
    | some waiter => table.place request steps (.request waiter.request.owner)

def wake (table : LockTable) (isWoken : Waiter → Bool) : List RecordLock × LockTable :=
  let (woken, others) := table.waiting.partition isWoken
  (woken.map Waiter.request, { table with waiting := others })

/-- Wakes what is queued right behind the lock of a process on a file. -/
def wakeBehindLock (table : LockTable) (file : FileId) (owner : ProcessId) :
    List RecordLock × LockTable :=
  table.wake fun waiter => waiter.request.file = file && waiter.behind = .lock owner

def wakeBehindRequest (table : LockTable) (owner : ProcessId) : List RecordLock × LockTable :=
  table.wake fun waiter => waiter.behind = .request owner

/-- Grants a request, whatever stands against it, and gives what that wakes: if the process had a
lock of another mode on the file, what is queued behind it. -/
def grant (table : LockTable) (wanted : RecordLock) : List RecordLock × LockTable :=
  let (woken, others) :=
    if wanted ∈ table.held then ([], table) else table.wakeBehindLock wanted.file wanted.owner
  (woken,
    { others with
      held := RecordLock.insert others.held wanted
      waiting := others.waiting.map (Waiter.follow wanted.owner) })

/-- How a request that may wait is met. -/
inductive Reply where
  | granted
  | waits
  /-- The one that holds the lock waits for the one that asks. -/
  | deadlock
  deriving DecidableEq, Repr

def meet (table : LockTable) (wanted : RecordLock) : Reply × List RecordLock × LockTable :=
  match table.conflict? wanted with
  | none => (.granted, table.grant wanted)
  | some blocker =>
    let (woken, others) := table.wakeBehindRequest wanted.owner
    if others.waitsFor wanted.owner chainLimit blocker.owner then (.deadlock, woken, others)
    else
      let behind := others.place wanted others.waiting.length (.lock blocker.owner)
      let waiter : Waiter := { request := wanted, behind := behind }
      (.waits, woken, { others with waiting := others.waiting ++ [waiter] })

def note (table : LockTable) (owner : ProcessId) : Reply → LockTable
  | .deadlock => { table with refused := owner :: table.refused }
  | _ => table

/-- Meets requests that were woken one after the other, and then those that this wakes; a number
of requests is met. -/
def meetAll : Nat → List RecordLock → LockTable → LockTable
  | 0, _, table => table
  | _, [], table => table
  | steps + 1, wanted :: others, table =>
    let (reply, woken, after) := table.meet wanted
    meetAll steps (others ++ woken) (after.note wanted.owner reply)

/-- Meets requests that were woken and all that this wakes. Between two requests that are granted
or refused each one is met at most once, which bounds how many are met. -/
def settle (woken : List RecordLock) (table : LockTable) : LockTable :=
  let bound := woken.length + table.waiting.length + 1
  meetAll (bound * bound) woken table

/-- Asks for a lock without waiting. A granted request may weaken a lock that others wait for. -/
def request (table : LockTable) (wanted : RecordLock) : Option LockTable :=
  if (table.conflict? wanted).isSome then none
  else
    let (woken, after) := table.grant wanted
    some (after.settle woken)

/-- Asks for a lock and waits for it, if waiting can end. -/
def await (table : LockTable) (wanted : RecordLock) : Reply × LockTable :=
  let asking := { table with refused := table.refused.filter fun owner => owner ≠ wanted.owner }
  let (reply, woken, after) := asking.meet wanted
  (reply, after.settle woken)

def release (table : LockTable) (file : FileId) (owner : ProcessId) : LockTable :=
  let (woken, others) := table.wakeBehindLock file owner
  settle woken { others with held := others.held.filter fun lock => !lock.isOf file owner }

def withdraw (table : LockTable) (owner : ProcessId) : LockTable :=
  let (woken, others) := table.wakeBehindRequest owner
  settle woken
    { others with waiting := others.waiting.filter fun waiter => waiter.request.owner ≠ owner }

def releaseAll (table : LockTable) (owner : ProcessId) : LockTable :=
  let (woken, others) :=
    table.wake fun waiter => waiter.behind = .lock owner || waiter.behind = .request owner
  settle (woken.filter fun request => request.owner ≠ owner)
    { held := others.held.filter fun lock => lock.owner ≠ owner
      waiting := others.waiting.filter fun waiter => waiter.request.owner ≠ owner
      refused := others.refused.filter fun process => process ≠ owner }

theorem request_eq_none_iff (table : LockTable) (wanted : RecordLock) :
    table.request wanted = none ↔ (table.conflict? wanted).isSome := by
  unfold request
  split <;> simp_all

theorem mem_held_of_conflict? {table : LockTable} {request lock : RecordLock}
    (conflict : table.conflict? request = some lock) : lock ∈ table.held :=
  List.mem_of_find?_eq_some conflict

theorem standsAgainst_of_conflict? {table : LockTable} {request lock : RecordLock}
    (conflict : table.conflict? request = some lock) : lock.standsAgainst request = true := by
  have found := List.find?_some conflict
  exact found

end LockTable

end MailSpool

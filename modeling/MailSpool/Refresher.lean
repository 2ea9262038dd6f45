import MailSpool.Host.Time

/-!
# Refreshers

A refresher is a thread that does a task again and again, after a rest each time, until its owner
stops it. Owner and thread share a channel with room for one message. Stopping sends a message,
gives up the channel and waits until the thread has ended; a refresher that is dropped is stopped,
and one that was stopped is not stopped again. The thread does its task when its rest is over and
neither a message nor the end of the channel has come.

Owner and thread act by single steps in any order that `step?` allows.
-/

namespace MailSpool

/-- What the thread of a refresher does. -/
inductive RefresherThread where
  | resting (wake : Instant)
  | running
  | exited
  deriving DecidableEq, Repr

/-- What the owner of a refresher does. -/
inductive RefresherOwner where
  /-- It lets the refresher work. -/
  | idle
  /-- It waits for the end of the thread. -/
  | joining
  /-- The refresher is stopped. -/
  | done
  deriving DecidableEq, Repr

/-- A refresher with a rest in nanoseconds. -/
structure Refresher where
  rest : Nat
  thread : RefresherThread
  owner : RefresherOwner := .idle
  /-- Whether a message is in the channel. -/
  message : Bool := false
  /-- Whether the owner still has its end of the channel. -/
  connected : Bool := true
  /-- How many messages were ever sent. -/
  sent : Nat := 0
  /-- How often the task was begun. -/
  runs : Nat := 0
  deriving DecidableEq, Repr

/-- What can happen to a refresher. -/
inductive RefresherEvent where
  /-- The rest of the thread is over, and it begins its task. -/
  | wake
  /-- The task ends, and the thread rests. -/
  | rest
  /-- The thread takes the message and ends. -/
  | receive
  /-- The thread sees that the channel has ended, and ends. -/
  | disconnect
  /-- The owner stops the refresher: it sends a message and gives up the channel. -/
  | stop
  /-- The owner sees that the thread has ended. -/
  | join
  deriving DecidableEq, Repr

/-- Whether an event is a step of the thread, and not one of the owner. -/
def RefresherEvent.isOfThread : RefresherEvent → Bool
  | stop => false
  | join => false
  | _ => true

namespace Refresher

def start (rest : Nat) (now : Instant) : Refresher where
  rest := rest
  thread := .resting (now + rest)

/-- The refresher after an event, if the event can happen. Stopping a refresher that is stopped
already changes nothing. -/
def step? (refresher : Refresher) (now : Instant) : RefresherEvent → Option Refresher
  | .wake =>
    match refresher.thread with
    | .resting wake =>
      if wake ≤ now ∧ refresher.message = false ∧ refresher.connected = true then
        some { refresher with thread := .running, runs := refresher.runs + 1 }
      else none
    | _ => none
  | .rest =>
    match refresher.thread with
    | .running => some { refresher with thread := .resting (now + refresher.rest) }
    | _ => none
  | .receive =>
    match refresher.thread with
    | .resting _ =>
      if refresher.message then some { refresher with thread := .exited, message := false }
      else none
    | _ => none
  | .disconnect =>
    match refresher.thread with
    | .resting _ =>
      if refresher.message = false ∧ refresher.connected = false then
        some { refresher with thread := .exited }
      else none
    | _ => none
  | .stop =>
    match refresher.owner with
    | .idle =>
      if refresher.message then none
      else
        some { refresher with
          owner := .joining, message := true, connected := false, sent := refresher.sent + 1 }
    | .joining => none
    | .done => some refresher
  | .join =>
    match refresher.owner, refresher.thread with
    | .joining, .exited => some { refresher with owner := .done }
    | _, _ => none

/-- The refresher after an event, or as it is if the event cannot happen. -/
def step (refresher : Refresher) (now : Instant) (event : RefresherEvent) : Refresher :=
  (refresher.step? now event).getD refresher

def wakeTime (refresher : Refresher) (now : Instant) : Instant :=
  match refresher.thread with
  | .resting wake => wake
  | _ => now

/-- Lets a refresher work on a host for a number of rounds: time passes until the rest is over, and
the task is done. -/
def rounds (task : Host → Host) : Nat → Refresher → Host → Refresher × Host
  | 0, refresher, host => (refresher, host)
  | count + 1, refresher, host =>
    let later := host.elapseUntil (refresher.wakeTime host.now)
    let running := refresher.step later.now .wake
    let done := task later
    rounds task count (running.step done.now .rest) done

def stop (refresher : Refresher) (now : Instant) : Refresher :=
  [.stop, .receive, .join].foldl (fun state event => state.step now event) refresher

end Refresher

end MailSpool

import MailSpool.Clock

/-!
# Signals

A process that holds a lock until it is told to stop keeps two cells: the number of the signal
that came last, and a flag that one came. Handling a signal makes two stores, the number before
the flag, and another signal may be handled between them. A poll looks at the flag every tenth of
a second until its time is up; a watch polls again and again, does something between two polls,
and ends with the number of the signal that the flag has announced.

A poll and a watch are told as machines of single steps, so that a signal may come between any two
of them.
-/

namespace MailSpool

/-- The two cells that handling a signal writes. -/
structure SignalCells where
  /-- The number of the last signal, or zero. -/
  number : Nat := 0
  /-- Whether a signal has asked to stop. -/
  shutdown : Bool := false
  deriving DecidableEq, Repr

namespace SignalCells

/-- A single store into one of the cells. -/
inductive Store where
  | number (signal : Nat)
  | shutdown
  deriving DecidableEq, Repr

/-- The stores by which a signal is handled, in order. -/
def handling (signal : Nat) : List Store :=
  [.number signal, .shutdown]

def store (cells : SignalCells) : Store → SignalCells
  | .number signal => { cells with number := signal }
  | .shutdown => { cells with shutdown := true }

def deliver (cells : SignalCells) (signal : Nat) : SignalCells :=
  (handling signal).foldl store cells

/-- The cells of a process that no signal has reached. -/
def clear : SignalCells := {}

@[simp]
theorem deliver_eq (cells : SignalCells) (signal : Nat) :
    cells.deliver signal = { number := signal, shutdown := true } :=
  rfl

end SignalCells

/-- What a poll does next. -/
inductive PollStage where
  /-- It asks whether its time is up. -/
  | askingTime
  /-- It looks at the flag. -/
  | askingFlag
  | resting (wake : Instant)
  | finished (signalled : Bool)
  deriving DecidableEq, Repr

/-- A poll of the flag, from a start on and for a time in nanoseconds. -/
structure Poll where
  start : Instant
  timeout : Nat
  stage : PollStage := .askingTime
  deriving DecidableEq, Repr

namespace Poll

/-- How long a poll rests between two looks at the flag: a tenth of a second. -/
def pause : Nat := milliseconds 100

def step (cells : SignalCells) (now : Instant) (poll : Poll) : Poll :=
  match poll.stage with
  | .askingTime =>
    { poll with stage := if now - poll.start < poll.timeout then .askingFlag else .finished false }
  | .askingFlag =>
    { poll with stage := if cells.shutdown then .finished true else .resting (now + pause) }
  | .resting wake => if wake ≤ now then { poll with stage := .askingTime } else poll
  | .finished _ => poll

end Poll

/-- What a watch does next. -/
inductive WatchStage where
  | polling (poll : Poll)
  /-- It does what it does between two polls. -/
  | ticking
  /-- It reads the number of the signal. -/
  | reading
  | finished (signal : Nat)
  deriving DecidableEq, Repr

/-- A watch with polls of a period in nanoseconds, and how often it has ticked. -/
structure Watch where
  period : Nat
  ticks : Nat := 0
  stage : WatchStage
  deriving DecidableEq, Repr

namespace Watch

def begin (period : Nat) (now : Instant) : Watch where
  period := period
  stage := .polling { start := now, timeout := period }

/-- One step of a watch. What a tick does to the cells is not part of the watch: the cells given
are those after it. -/
def step (cells : SignalCells) (now : Instant) (watch : Watch) : Watch :=
  match watch.stage with
  | .polling poll =>
    match poll.step cells now with
    | ⟨_, _, .finished true⟩ => { watch with stage := .reading }
    | ⟨_, _, .finished false⟩ => { watch with stage := .ticking }
    | next => { watch with stage := .polling next }
  | .ticking =>
    { watch with
      ticks := watch.ticks + 1
      stage := .polling { start := now, timeout := watch.period } }
  | .reading => { watch with stage := .finished cells.number }
  | .finished _ => watch

def signal? (watch : Watch) : Option Nat :=
  match watch.stage with
  | .finished signal => some signal
  | _ => none

def wake? (watch : Watch) : Option Instant :=
  match watch.stage with
  | .polling ⟨_, _, .resting wake⟩ => some wake
  | _ => none

end Watch

end MailSpool

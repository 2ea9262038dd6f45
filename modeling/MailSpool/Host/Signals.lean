import MailSpool.Host.Time

/-!
# Waiting for signals on a host

A process that handles signals waits for one by a watch. Time passes while the watch rests, and
signals come when their appointments fall due.
-/

namespace MailSpool.Host

def handleSignals (host : Host) (process : ProcessId) : Host :=
  (host.changeProcess process fun state => { state with handlesSignals := true }).tell process
    .signalsHandled

def signals (host : Host) (process : ProcessId) : SignalCells :=
  ((host.process process).map Process.signals).getD .clear

def forgetSignals (host : Host) (process : ProcessId) : Host :=
  host.changeProcess process fun state => { state with signals := .clear }

def pollSteps (process : ProcessId) : Nat → Poll → Host → Bool × Host
  | 0, _, host => ((host.signals process).shutdown, host)
  | steps + 1, poll, host =>
    match poll.stage with
    | .finished signalled => (signalled, host)
    | .resting wake =>
      let later := host.elapseUntil wake
      pollSteps process steps (poll.step (later.signals process) later.now) later
    | _ => pollSteps process steps (poll.step (host.signals process) host.now) host

def pollLimit (timeout : Nat) : Nat :=
  3 * (timeout / Poll.pause + 2)

def waitForSignal (host : Host) (process : ProcessId) (timeout : Nat) : Bool × Host :=
  pollSteps process (pollLimit timeout) { start := host.now, timeout := timeout } host

/-- The steps of a watch, with `tick` done between two polls. -/
def watchSteps (process : ProcessId) (tick : Nat → Host → Host) :
    Nat → Watch → Host → Option (Nat × Nat × Host)
  | 0, _, _ => none
  | steps + 1, watch, host =>
    match watch.stage with
    | .finished signal => some (signal, watch.ticks, host)
    | .ticking =>
      let ticked := tick (watch.ticks + 1) host
      watchSteps process tick steps (watch.step (ticked.signals process) ticked.now) ticked
    | _ =>
      let later := (watch.wake?.map host.elapseUntil).getD host
      watchSteps process tick steps (watch.step (later.signals process) later.now) later

/-- Watches for a signal, ticking after each poll that saw none, and gives the signal and how often
it ticked. Nothing is given when no signal comes within a number of polls. -/
def watch (host : Host) (process : ProcessId) (period polls : Nat) (tick : Nat → Host → Host) :
    Option (Nat × Nat × Host) :=
  watchSteps process tick ((pollLimit period + 1) * (polls + 1)) (.begin period host.now) host

end MailSpool.Host

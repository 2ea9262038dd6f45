import MailSpool.Host.Files

/-!
# Time on a host

Time passes from one appointment to the next. The number of appointments that fall due until a
given time is known beforehand, and bounds how many are kept on the way there.
-/

namespace MailSpool

def Appointment.occurrences (appointment : Appointment) (time : Instant) : Nat :=
  if time < appointment.due then 0
  else
    match appointment.period with
    | none => 1
    | some period => (time - appointment.due).toNat / max period 1 + 1

def Appointment.earliest? : List Appointment → Option Appointment
  | [] => none
  | appointment :: others =>
    match earliest? others with
    | none => some appointment
    | some other => if other.due < appointment.due then some other else some appointment

namespace Host

def perform (host : Host) : Deed → Host
  | .unlink path => (host.unlink path).toOption.getD host
  | .touch path => (host.touch path).toOption.getD host
  | .exit process => host.exit process
  | .signal process number => host.signal process number

/-- An appointment is kept: its time comes, its deed is done, and it is made anew after its
period. -/
def keep (host : Host) (appointment : Appointment) : Host :=
  let others := host.agenda.erase appointment
  let agenda :=
    match appointment.period with
    | none => others
    | some period => others ++ [{ appointment with due := appointment.due + max period 1 }]
  { host with now := max host.now appointment.due, agenda := agenda }.perform appointment.deed

/-- Time passes until a point; at most `steps` appointments are kept on the way. -/
def elapseWithin (host : Host) (time : Instant) : Nat → Host
  | 0 => { host with now := max host.now time }
  | steps + 1 =>
    match Appointment.earliest? host.agenda with
    | some appointment =>
      if appointment.due ≤ time then (host.keep appointment).elapseWithin time steps
      else { host with now := max host.now time }
    | none => { host with now := max host.now time }

def occurrences (host : Host) (time : Instant) : Nat :=
  host.agenda.foldl (fun total appointment => total + appointment.occurrences time) 0

/-- Time passes until a point, and all appointments until then are kept. -/
def elapseUntil (host : Host) (time : Instant) : Host :=
  host.elapseWithin time (host.occurrences time)

def elapse (host : Host) (duration : Nat) : Host :=
  host.elapseUntil (host.now + duration)

/-- The time until which something other than a repetition can still happen. -/
def horizon (host : Host) : Instant :=
  host.agenda.foldl (fun time appointment => max time appointment.due) host.now

/-- How many appointments are worth waiting for, when nothing but an appointment can end the
waiting: each at least once, and all until the horizon. -/
def patience (host : Host) : Nat :=
  host.occurrences host.horizon + host.agenda.length + 1

end Host

end MailSpool

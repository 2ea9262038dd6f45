import MailSpool.Clock

/-!
# Access times

The time of the last access to a file, as a count of seconds since the epoch and of nanoseconds
within the second, and the same time in milliseconds: to the whole second, so that it compares
with other times of that grain, or with the milliseconds within the second.
-/

namespace MailSpool

/-- A point in time: seconds since the epoch, and nanoseconds behind the second. -/
structure AccessTime where
  seconds : Int64
  nanoseconds : Int64
  deriving DecidableEq, Repr

namespace AccessTime

/-- A point in time as seconds and the nanoseconds behind them. -/
def ofInstant (instant : Instant) : AccessTime where
  seconds := .ofInt (instant / MailSpool.seconds 1)
  nanoseconds := .ofInt (instant % MailSpool.seconds 1)

/-- The whole seconds in milliseconds. -/
def truncatedMilliseconds (time : AccessTime) : Int64 :=
  time.seconds * 1000

/-- The seconds in milliseconds and the whole milliseconds behind them. -/
def preciseMilliseconds (time : AccessTime) : Int64 :=
  time.seconds * 1000 + time.nanoseconds / 1000000

/-- The time in milliseconds, precise or to the whole second. -/
def milliseconds (time : AccessTime) (precise : Bool) : Int64 :=
  if precise then time.preciseMilliseconds else time.truncatedMilliseconds

end AccessTime

end MailSpool

/-!
# Clock

Times are counted in nanoseconds.
-/

namespace MailSpool

/-- A point in time, in nanoseconds since the epoch. -/
abbrev Instant := Int

/-- A number of milliseconds in nanoseconds. -/
def milliseconds (count : Nat) : Nat :=
  count * 1000000

/-- A number of seconds in nanoseconds. -/
def seconds (count : Nat) : Nat :=
  count * 1000000000

end MailSpool

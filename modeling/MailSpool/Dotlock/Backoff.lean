import MailSpool.Settings

/-!
# The waiting time between two attempts

The waiting time grows by one step with each attempt up to a limit, and has a random part of at
most a quarter of the step, so that lockers that wait for each other fall out of step.
-/

namespace MailSpool.MailSettings

/-- The product of two numbers, or the largest number if it is too large. -/
def saturatingProduct (first second : UInt64) : UInt64 :=
  UInt64.ofNat (min (first.toNat * second.toNat) (UInt64.size - 1))

/-- The waiting time before an attempt without its random part, in milliseconds. -/
def backoffBase (settings : MailSettings) (attempt : UInt32) : UInt64 :=
  min (saturatingProduct settings.retryStep attempt.toUInt64) settings.retryLimit

/-- The largest random part of a waiting time, in milliseconds. A step below four has none. -/
def jitterLimit (settings : MailSettings) : UInt64 :=
  settings.retryStep / 4

/-- The waiting time before an attempt with a random part, in milliseconds. -/
def backoff (settings : MailSettings) (attempt : UInt32) (jitter : UInt64) : UInt64 :=
  settings.backoffBase attempt + jitter

theorem backoffBase_le_retryLimit (settings : MailSettings) (attempt : UInt32) :
    settings.backoffBase attempt ≤ settings.retryLimit :=
  Std.min_le_right

end MailSpool.MailSettings

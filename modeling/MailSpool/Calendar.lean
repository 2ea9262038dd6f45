import MailSpool.Clock

/-!
# Calendar

Points in time as dates and times of day of the Gregorian calendar, which is used for all years,
and as text in the usual form for timestamps of the internet. An era is a span of 400 years, after
which the calendar repeats; years begin in March here, so that the day of a leap year comes last.
-/

namespace MailSpool

/-- A date of the Gregorian calendar. -/
structure Date where
  year : Int
  month : Nat
  day : Nat
  deriving DecidableEq, Repr

namespace Date

def daysPerEra : Nat := 146097

/-- The number of days from the start of the first era to the first of January 1970. -/
def daysBeforeEpoch : Nat := 719468

def yearOfEra (day : Nat) : Nat :=
  (day - day / 1460 + day / 36524 - day / 146096) / 365

def startOfYear (year : Nat) : Nat :=
  365 * year + year / 4 - year / 100

def ofDays (days : Int) : Date :=
  let shifted := days + daysBeforeEpoch
  let era := shifted / daysPerEra
  let dayOfEra := (shifted % daysPerEra).toNat
  let yearOfEra := yearOfEra dayOfEra
  let dayOfYear := dayOfEra - startOfYear yearOfEra
  let monthFromMarch := (5 * dayOfYear + 2) / 153
  let month := if monthFromMarch < 10 then monthFromMarch + 3 else monthFromMarch - 9
  { year := 400 * era + yearOfEra + (if month ≤ 2 then 1 else 0)
    month := month
    day := dayOfYear - (153 * monthFromMarch + 2) / 5 + 1 }

end Date

namespace Calendar

def digits (length number : Nat) : String :=
  let written := Nat.toDigits 10 number
  String.ofList (List.replicate (length - written.length) '0' ++ written)

/-- A year in at least four digits; one outside these has a sign. -/
def year (value : Int) : String :=
  if 0 ≤ value ∧ value ≤ 9999 then digits 4 value.toNat
  else (if value < 0 then "-" else "+") ++ digits 4 value.natAbs

def years : Int × Int := (-262143, 262142)

/-- The text of a point in time, given in milliseconds since the epoch. A part of a second is
written only if there is one. Nothing is given for a time outside the years that can be
written. -/
def timestamp? (milliseconds : Int) : Option String :=
  let seconds := milliseconds / 1000
  let fraction := (milliseconds % 1000).toNat
  let date := Date.ofDays (seconds / 86400)
  let second := (seconds % 86400).toNat
  if date.year < years.1 ∨ years.2 < date.year then none
  else
    some (year date.year ++ "-" ++ digits 2 date.month ++ "-" ++ digits 2 date.day ++ "T" ++
      digits 2 (second / 3600) ++ ":" ++ digits 2 (second / 60 % 60) ++ ":" ++
      digits 2 (second % 60) ++ (if fraction = 0 then "" else "." ++ digits 3 fraction) ++
      "+00:00")

end Calendar

end MailSpool

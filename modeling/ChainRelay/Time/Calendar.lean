import ChainRelay.Fault
import ChainRelay.Time.Instant

/-!
# Limits of the calendar

Instants lie in the years 1 to 9999 and spans within a thousand million days. Whatever leads out of
these limits is a fault. Stored milliseconds may be far outside: how far decides which fault it is.
-/

namespace ChainRelay

/-- The microseconds of a day. -/
def microsPerDay : Int := 86400 * 1000000

/-- The number of days that the longest span has. -/
def longestDays : Int := 999999999

/-- A number of seconds as a span in microseconds. -/
def Quantity.span (q : Quantity) : Except Fault Int :=
  let days := Int.fdiv q.micros microsPerDay
  match q with
  | .real x =>
    if x.isNaN then .error (.badValue "cannot convert float NaN to integer")
    else if x.isInf then .error (.outOfRange "cannot convert float infinity to integer")
    else if days < -longestDays ∨ longestDays < days then .error (.outOfRange "a span too long")
    else .ok q.micros
  | .whole _ =>
    if days < -longestDays ∨ longestDays < days then .error (.outOfRange "a span too long")
    else .ok q.micros

namespace Instant

/-- Whether an instant lies in the years 1 to 9999. -/
def isInCalendar (t : Instant) : Bool := calendar.1 ≤ t && t < calendar.2

/-- An instant if it lies in the calendar. -/
def checked (t : Instant) : Except Fault Instant :=
  if t.isInCalendar then .ok t else .error (.outOfRange "date value out of range")

/-- The year of an instant, counted without a gap before the year 1. A year of 365 days is made to
end with February, so that a leap day is its last one. -/
def year (t : Instant) : Int :=
  let day := Int.fdiv t microsPerDay + 719468
  let age := Int.fdiv day 146097
  let ofAge := Int.fmod day 146097
  let yearOfAge := (ofAge - ofAge / 1460 + ofAge / 36524 - ofAge / 146096) / 365
  let ofYear := ofAge - (365 * yearOfAge + yearOfAge / 4 - yearOfAge / 100)
  400 * age + yearOfAge + (if 306 ≤ ofYear then 1 else 0)

/-- The first and the last second in which a system clock with years of 32 bits can show the date. -/
def clockSeconds : Int × Int := (-67768040609740800, 67768036191676799)

/-- The instant that stored milliseconds denote. Seconds beyond 64 bits are out of range, those
whose year takes more than 32 bits cannot be shown by the clock, and a year outside the calendar is
refused, shown in 32 bits. -/
def ofStored (ms : Int) : Except Fault Instant :=
  let t := ofMillis ms
  let seconds := Int.fdiv t 1000000
  if Decimal.isTooLarge (mkRat ms 1000) then
    .error (.outOfRange "integer division result too large for a float")
  else if seconds < -(Nat.pow 2 63 : Int) ∨ (Nat.pow 2 63 : Int) ≤ seconds then
    .error (.outOfRange "timestamp out of range for platform time_t")
  else if seconds < clockSeconds.1 ∨ clockSeconds.2 < seconds then
    .error (.system "[Errno 75] Value too large for defined data type")
  else if t.isInCalendar then .ok t
  else
    let shown := Int.bmod t.year (Nat.pow 2 32)
    .error (.badValue ("year " ++ toString shown ++ " is out of range"))

end Instant

end ChainRelay

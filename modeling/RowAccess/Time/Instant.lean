/-!
Contract: instants with a UTC offset, and their calendar reading.

An instant counts nanoseconds from the unix epoch; its offset, in seconds,
only shifts what a calendar and a clock show. The calendar is the proleptic
Gregorian one, with a year zero.

Owns:
- the instant type and its order.
- the calendar date of a day number, and the day number of a date.
- the date and the time of day that are shown at an instant's offset.
-/

namespace RowAccess

structure Instant where
  nanos : Int
  offset : Int
deriving DecidableEq, Repr, Inhabited

namespace Instant

def nanosPerSecond : Int := 1000000000

def ofSeconds (seconds : Int) : Instant := ⟨seconds * nanosPerSecond, 0⟩

def ofNanosUtc (nanos : Int) : Instant := ⟨nanos, 0⟩

def advance (instant : Instant) (nanos : Int) : Instant :=
  { instant with nanos := instant.nanos + nanos }

/-- Whole seconds since the epoch, rounded toward the past. -/
def seconds (instant : Instant) : Int := instant.nanos / nanosPerSecond

/-- Nanoseconds past the whole second. -/
def subsecond (instant : Instant) : Int := instant.nanos % nanosPerSecond

/-- The seconds a clock at the instant's offset has counted. -/
def localSeconds (instant : Instant) : Int := instant.seconds + instant.offset

end Instant

/-- A date of the proleptic Gregorian calendar. -/
structure CalendarDate where
  year : Int
  month : Int
  day : Int
deriving DecidableEq, Repr

namespace CalendarDate

def secondsPerDay : Int := 86400

/-- The days of a cycle of 400 years, after which the calendar repeats. -/
def daysPerCycle : Int := 146097

/-- Days from the first of March of the year zero to the unix epoch. -/
def epochShift : Int := 719468

/-- The date of a day counted from the unix epoch. Years begin in March here,
so that a leap day ends its year, and January and February move to the next
calendar year. -/
def ofDays (days : Int) : CalendarDate :=
  let shifted := days + epochShift
  let cycle := shifted / daysPerCycle
  let dayOfCycle := shifted % daysPerCycle
  let yearOfCycle :=
    (dayOfCycle - dayOfCycle / 1460 + dayOfCycle / 36524 - dayOfCycle / 146096) / 365
  let dayOfYear := dayOfCycle - (365 * yearOfCycle + yearOfCycle / 4 - yearOfCycle / 100)
  let monthFromMarch := (5 * dayOfYear + 2) / 153
  let month := if monthFromMarch < 10 then monthFromMarch + 3 else monthFromMarch - 9
  { year := yearOfCycle + cycle * 400 + (if month ≤ 2 then 1 else 0)
    month := month
    day := dayOfYear - (153 * monthFromMarch + 2) / 5 + 1 }

/-- The day of a date, counted from the unix epoch. -/
def toDays (date : CalendarDate) : Int :=
  let year := if date.month ≤ 2 then date.year - 1 else date.year
  let cycle := year / 400
  let yearOfCycle := year % 400
  let monthFromMarch := if date.month ≤ 2 then date.month + 9 else date.month - 3
  let dayOfYear := (153 * monthFromMarch + 2) / 5 + date.day - 1
  cycle * daysPerCycle + (365 * yearOfCycle + yearOfCycle / 4 - yearOfCycle / 100) +
    dayOfYear - epochShift

end CalendarDate

namespace Instant

/-- The date at the instant's offset. -/
def localDate (instant : Instant) : CalendarDate :=
  CalendarDate.ofDays (instant.localSeconds / CalendarDate.secondsPerDay)

/-- The seconds since midnight at the instant's offset. -/
def secondOfDay (instant : Instant) : Int := instant.localSeconds % CalendarDate.secondsPerDay

end Instant

end RowAccess

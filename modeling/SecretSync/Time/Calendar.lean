/-!
# The civil calendar

Days are numbered from 0, the first of January of year 1.  `dayNumber` counts the days before
a date, `ofDayNumber` finds the date of a day by cycles of 400, 100, 4 and single years.
-/

namespace SecretSync.Time

/-- Whether a year has a 29 February. -/
def isLeapYear (year : Nat) : Bool := year % 4 == 0 && (year % 100 != 0 || year % 400 == 0)

/-- The lengths of the months of a year. -/
def monthLengths (year : Nat) : List Nat :=
  [31, if isLeapYear year then 29 else 28, 31, 30, 31, 30, 31, 31, 30, 31, 30, 31]

/-- The length of a month, counted from 1; zero for a month that does not exist. -/
def daysInMonth (year month : Nat) : Nat :=
  if month = 0 then 0 else (monthLengths year).getD (month - 1) 0

/-- The days before a year. -/
def daysBeforeYear (year : Nat) : Nat :=
  let past := year - 1
  past * 365 + past / 4 - past / 100 + past / 400

/-- The days of a year before a month, counted from 1. -/
def daysBeforeMonth (year month : Nat) : Nat :=
  ((monthLengths year).take (month - 1)).foldl (· + ·) 0

/-- A day of the civil calendar. -/
structure Date where
  /-- The year, 1 for the first. -/
  year : Nat
  /-- The month, 1 for January. -/
  month : Nat
  /-- The day of the month. -/
  day : Nat
  deriving DecidableEq, Repr

namespace Date

/-- Whether the calendar has such a day, in years 1 to 9999. -/
def Valid (d : Date) : Prop :=
  1 ≤ d.year ∧ d.year ≤ 9999 ∧ 1 ≤ d.day ∧ d.day ≤ daysInMonth d.year d.month

/-- Whether the calendar has a day can be decided. -/
instance (d : Date) : Decidable d.Valid := by unfold Valid; infer_instance

/-- The number of days before a date. -/
def dayNumber (d : Date) : Nat :=
  daysBeforeYear d.year + daysBeforeMonth d.year d.month + (d.day - 1)

/-- The month and day that lie `days` behind the start of the first of some months. -/
def inMonths (days : Nat) : List Nat → Nat × Nat
  | [] => (1, days + 1)
  | length :: rest =>
    if days < length then (1, days + 1)
    else let (month, day) := inMonths (days - length) rest; (month + 1, day)

/-- The date with a number of days before it. -/
def ofDayNumber (n : Nat) : Date :=
  let inFourCenturies := n % 146097
  let centuries := min (inFourCenturies / 36524) 3
  let inCentury := inFourCenturies - centuries * 36524
  let inFourYears := inCentury % 1461
  let years := min (inFourYears / 365) 3
  let year := n / 146097 * 400 + centuries * 100 + inCentury / 1461 * 4 + years + 1
  let (month, day) := inMonths (inFourYears - years * 365) (monthLengths year)
  ⟨year, month, day⟩

end Date

/-- The day of the week of a day number, 0 for Monday. -/
def weekday (n : Nat) : Nat := n % 7

/-- The day number of the Monday of the first week of a year: the week that holds the first
Thursday. -/
def firstMonday (year : Nat) : Nat :=
  let first := daysBeforeYear year
  if weekday first ≤ 3 then first - weekday first else first + 7 - weekday first

/-- Number of weeks of a year: 53 if it starts on a Thursday, or on a Wednesday in a leap year. -/
def weeksInYear (year : Nat) : Nat :=
  let start := weekday (daysBeforeYear year)
  if start = 3 ∨ (start = 2 ∧ isLeapYear year) then 53 else 52

end SecretSync.Time

import SecretSync.Text.Quoted
import SecretSync.Time.Instant

/-!
# Dates with a time of day

A date and a time of day, given by seven numbers and perhaps an offset from UTC, denote an
instant.  The numbers are checked in the order of their size; the first one outside its range
is reported.
-/

namespace SecretSync.Time

/-- Why a date with a time of day, or a text for one, denotes no instant. -/
inductive TimeError where
  /-- The text has no form of a date and time. -/
  | malformed (text : String)
  | yearOutOfRange (year : Int)
  | monthOutOfRange
  | dayOutOfRange
  | hourOutOfRange
  | minuteOutOfRange
  | secondOutOfRange
  | microsecondOutOfRange
  /-- The offset is a day or more. -/
  | offsetOutOfRange (offset : Duration)
  /-- Moving by the offset leaves the years 1 to 9999. -/
  | leavesCalendar
  /-- A number is above, or below, what a word of 32 bits holds. -/
  | aboveWord
  | belowWord
  /-- A number does not fit a word of 64 bits. -/
  | beyondLongWord
  deriving DecidableEq, Repr

/-- Seven numbers for a date and a time of day. -/
structure DateTime where
  year : Int
  month : Int
  day : Int
  hour : Int
  minute : Int
  second : Int
  microsecond : Int
  deriving DecidableEq, Repr

namespace DateTime

/-- The date, if the calendar has it. -/
def date (t : DateTime) : Except TimeError Date :=
  if t.year < 1 ∨ 9999 < t.year then .error (.yearOutOfRange t.year)
  else if t.month < 1 ∨ 12 < t.month then .error .monthOutOfRange
  else if t.day < 1 ∨ (daysInMonth t.year.toNat t.month.toNat : Int) < t.day then
    .error .dayOutOfRange
  else .ok ⟨t.year.toNat, t.month.toNat, t.day.toNat⟩

/-- Microseconds since the start of the day. -/
def timeOfDay (t : DateTime) : Except TimeError Nat :=
  if t.hour < 0 ∨ 23 < t.hour then .error .hourOutOfRange
  else if t.minute < 0 ∨ 59 < t.minute then .error .minuteOutOfRange
  else if t.second < 0 ∨ 59 < t.second then .error .secondOutOfRange
  else if t.microsecond < 0 ∨ 999999 < t.microsecond then .error .microsecondOutOfRange
  else .ok (((t.hour.toNat * 60 + t.minute.toNat) * 60 + t.second.toNat) * 1000000 +
    t.microsecond.toNat)

/-- Microseconds since the start of year 1 at the place of the date. -/
def localMicros (t : DateTime) : Except TimeError Nat := do
  let date ← t.date
  let inDay ← t.timeOfDay
  return date.dayNumber * dayLength + inDay

/-- Whether an offset is shorter than a day. -/
def offsetAllowed (offset : Duration) : Bool :=
  -86400000000 < offset.micros && offset.micros < 86400000000

/-- The instant of a date and time at a place with an offset from UTC. -/
def toInstant (t : DateTime) (offset : Duration) : Except TimeError Instant := do
  let micros ← t.localMicros
  match Instant.ofMicros? (micros - offset.micros) with
  | some instant => .ok instant
  | none => .error .leavesCalendar

/-- The instant of a date and time at an unknown place, taken to be in UTC.  The first day has no
day before it to compare the place's offset with, and is refused. -/
def toLocalInstant (t : DateTime) : Except TimeError Instant := do
  let instant ← t.toInstant Duration.zero
  if instant.micros < dayLength then .error (.yearOutOfRange 0) else return instant

/-- A number must fit a word. -/
def checkWord (n : Int) : Except TimeError Unit :=
  if n < -9223372036854775808 ∨ 9223372036854775807 < n then .error .beyondLongWord
  else if 2147483647 < n then .error .aboveWord
  else if n < -2147483648 then .error .belowWord
  else .ok ()

/-- All numbers must fit a word; the first that does not is reported. -/
def checkWords (t : DateTime) : Except TimeError Unit :=
  [t.year, t.month, t.day, t.hour, t.minute, t.second, t.microsecond].forM checkWord

/-- The numbers of an instant in UTC. -/
def ofInstant (t : Instant) : DateTime :=
  let date := t.date
  let seconds := t.inDay / 1000000
  ⟨date.year, date.month, date.day, seconds / 3600, (seconds / 60 % 60 : Nat), (seconds % 60 : Nat),
    (t.inDay % 1000000 : Nat)⟩

end DateTime

namespace TimeError

/-- Whether an error is one of size: a number or an instant that cannot be held at all. -/
def isOverflow : TimeError → Bool
  | leavesCalendar => true
  | aboveWord => true
  | belowWord => true
  | beyondLongWord => true
  | _ => false

/-- The range of an offset, and the offset that lies outside. -/
def offsetText (offset : Duration) : String :=
  "offset must be a timedelta strictly between -timedelta(hours=24) and timedelta(hours=24), " ++
    "not " ++ offset.text ++ "."

/-- The text of an error. -/
def message : TimeError → String
  | malformed text => "Invalid isoformat string: " ++ Text.quoted text
  | yearOutOfRange year => "year " ++ toString year ++ " is out of range"
  | monthOutOfRange => "month must be in 1..12"
  | dayOutOfRange => "day is out of range for month"
  | hourOutOfRange => "hour must be in 0..23"
  | minuteOutOfRange => "minute must be in 0..59"
  | secondOutOfRange => "second must be in 0..59"
  | microsecondOutOfRange => "microsecond must be in 0..999999"
  | offsetOutOfRange offset => offsetText offset
  | leavesCalendar => "date value out of range"
  | aboveWord => "signed integer is greater than maximum"
  | belowWord => "signed integer is less than minimum"
  | beyondLongWord => "Python int too large to convert to C long"

end TimeError
end SecretSync.Time

import SecretSync.Number.Binary64
import SecretSync.Time.Calendar

/-!
# Instants and durations

An instant is a whole number of microseconds since the start of year 1 in UTC, before the end
of year 9999.  Moving it by a duration fails when the result lies outside these years.
-/

namespace SecretSync.Time

/-- Microseconds of a second. -/
def second : Nat := 1000000

/-- Microseconds of a day. -/
def dayLength : Nat := 86400 * second

/-- A span of time in microseconds. -/
structure Duration where
  /-- Its length, negative if it points to the past. -/
  micros : Int
  deriving DecidableEq, Repr

namespace Duration

/-- No time at all. -/
def zero : Duration := ⟨0⟩

/-- So many whole seconds. -/
def ofSeconds (n : Int) : Duration := ⟨n * 1000000⟩

/-- So many milliseconds. -/
def ofMillis (n : Int) : Duration := ⟨n * 1000⟩

/-- Whole seconds, the rest cut off towards zero. -/
def wholeSeconds (d : Duration) : Int := d.micros.tdiv 1000000

/-- The length in seconds as a floating point number, rounded to the nearest. -/
def seconds (d : Duration) : Number.Binary64 := Number.Binary64.ofFraction d.micros 1000000

/-- Whole seconds of the rounded length; they differ from `wholeSeconds` where the length is so
great that its fraction is rounded up. -/
def roundedSeconds (d : Duration) : Int := d.seconds.wholePart?.getD d.wholeSeconds

/-- Whole milliseconds, the rest cut off towards the past. -/
def wholeMillis (d : Duration) : Int := d.micros.fdiv 1000

/-- The most days that a configured span may have, forwards or backwards. -/
def maxDays : Nat := 999999999

/-- Why a number of seconds is no span. -/
inductive RangeFault where
  /-- The days do not fit a machine word. -/
  | beyondWord
  /-- There are more days than `maxDays`. -/
  | tooManyDays (days : Int)
  deriving DecidableEq, Repr

/-- The text of a range fault. -/
def RangeFault.message : RangeFault → String
  | beyondWord => "Python int too large to convert to C int"
  | tooManyDays days => "days=" ++ toString days ++ "; must have magnitude <= " ++ toString maxDays

/-- The span of so many seconds, if it has at most `maxDays` days. -/
def ofSeconds? (n : Int) : Except RangeFault Duration :=
  let days := n.fdiv 86400
  if days < -2147483648 ∨ 2147483647 < days then .error .beyondWord
  else if days < -(maxDays : Int) ∨ (maxDays : Int) < days then .error (.tooManyDays days)
  else .ok (ofSeconds n)

/-- A span by its days, seconds and microseconds, as messages show it. -/
def text (d : Duration) : String :=
  let days := d.micros.fdiv 86400000000
  let seconds := (d.micros.fmod 86400000000).fdiv 1000000
  let micros := d.micros.fmod 1000000
  let part (label : String) (n : Int) : List String :=
    if n = 0 then [] else [label ++ "=" ++ toString n]
  let parts := part "days" days ++ part "seconds" seconds ++ part "microseconds" micros
  "datetime.timedelta(" ++ (if parts.isEmpty then "0" else ", ".intercalate parts) ++ ")"

end Duration

/-- A moment of the years 1 to 9999. -/
structure Instant where
  /-- Microseconds since the start of year 1. -/
  micros : Nat
  /-- The moment lies before year 10000. -/
  inRange : micros < 315537897600000000
  deriving DecidableEq, Repr

namespace Instant

/-- The first moment behind year 9999. -/
def limit : Nat := 315537897600000000

/-- The calendar begins with its first moment. -/
instance : Inhabited Instant := ⟨⟨0, by decide⟩⟩

/-- Earlier or at once. -/
instance : LE Instant := ⟨fun a b => a.micros ≤ b.micros⟩

/-- Earlier. -/
instance : LT Instant := ⟨fun a b => a.micros < b.micros⟩

/-- Which of two instants is earlier can be decided. -/
instance (a b : Instant) : Decidable (a ≤ b) := inferInstanceAs (Decidable (a.micros ≤ b.micros))

/-- Whether one instant is before another can be decided. -/
instance (a b : Instant) : Decidable (a < b) := inferInstanceAs (Decidable (a.micros < b.micros))

/-- Instants are ordered by their microseconds. -/
theorem le_iff {a b : Instant} : a ≤ b ↔ a.micros ≤ b.micros := Iff.rfl

/-- Instants are strictly ordered by their microseconds. -/
theorem lt_iff {a b : Instant} : a < b ↔ a.micros < b.micros := Iff.rfl

/-- Instants are equal when their counts are. -/
theorem ext {a b : Instant} (h : a.micros = b.micros) : a = b := by
  cases a; cases b; cases h; rfl

/-- The instant with a count of microseconds, if there is one. -/
def ofMicros? (n : Int) : Option Instant :=
  if h : 0 ≤ n ∧ n < 315537897600000000 then some ⟨n.toNat, by omega⟩ else none

/-- The instant a duration later, if there is one. -/
def add? (t : Instant) (d : Duration) : Option Instant := ofMicros? (t.micros + d.micros)

/-- The time from one instant to another. -/
def since (t earlier : Instant) : Duration := ⟨(t.micros : Int) - earlier.micros⟩

/-- The later of two instants; the first if they are equal. -/
def later (a b : Instant) : Instant := if a < b then b else a

/-- The later of two instants is no earlier than the first. -/
theorem le_later (a b : Instant) : a ≤ a.later b := by
  unfold later
  split
  · next hlt => exact Nat.le_of_lt hlt
  · exact Nat.le_refl a.micros

/-- A sum of an instant and a duration is one of microseconds. -/
theorem micros_add? {t u : Instant} {d : Duration} (h : t.add? d = some u) :
    (u.micros : Int) = t.micros + d.micros := by
  unfold add? ofMicros? at h
  split at h
  · cases h; simp only; omega
  · cases h

/-- A sum is an instant exactly if it stays on the calendar. -/
theorem add?_isSome_iff {t : Instant} {d : Duration} :
    (t.add? d).isSome ↔ 0 ≤ (t.micros : Int) + d.micros ∧
      (t.micros : Int) + d.micros < 315537897600000000 := by
  unfold add? ofMicros?
  split <;> simp_all

/-- The day of an instant. -/
def date (t : Instant) : Date := Date.ofDayNumber (t.micros / dayLength)

/-- Microseconds since the start of the day. -/
def inDay (t : Instant) : Nat := t.micros % dayLength

end Instant
end SecretSync.Time

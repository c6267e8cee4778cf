import Mathlib.Algebra.Order.Floor.Ring
import Mathlib.Data.Rat.Floor
import Mathlib.Tactic.Linarith
import Mathlib.Tactic.Positivity
import SecretSync.Proofs.Text.Digit
import SecretSync.Proofs.Time.DateTime

/-!
# Timestamps in full

A timestamp in full has a date of the calendar, a time of day, perhaps digits of a fraction of its
last second, and tells how its place lies to UTC.  It denotes a moment, which may lie between two
microseconds.  What its fraction has behind six digits is less than a microsecond of it.
-/

namespace SecretSync.Time

open Text (decimalText digitChars ofDigitValues)

/-- How the clocks of a place run beside those of UTC. -/
inductive Zone where
  /-- They show the time of UTC. -/
  | utc
  /-- They are so many hours and minutes ahead, or behind. -/
  | shifted (behind : Bool) (hours : Fin 24) (minutes : Fin 60)
  deriving DecidableEq, Repr

namespace Zone

/-- The seconds that the clocks are ahead of UTC. -/
def seconds : Zone → Int
  | utc => 0
  | shifted behind hours minutes =>
    let size : Int := hours.val * 3600 + minutes.val * 60
    if behind then -size else size

/-- The characters of hours and minutes ahead of UTC, or behind. -/
def shiftChars (behind : Bool) (hours minutes : Nat) : List Char :=
  (if behind then '-' else '+') :: (decimalText 2 hours ++ ':' :: decimalText 2 minutes)

/-- The characters of a zone; UTC has a letter. -/
def chars : Zone → List Char
  | utc => ['Z']
  | shifted behind hours minutes => shiftChars behind hours minutes

/-- The characters of a zone by its hours and minutes, also for UTC. -/
def spelledOut : Zone → List Char
  | utc => shiftChars false 0 0
  | shifted behind hours minutes => shiftChars behind hours minutes

/-- No zone is shifted by a day. -/
theorem seconds_lt (z : Zone) : -86400 < z.seconds ∧ z.seconds < 86400 := by
  cases z with
  | utc => decide
  | shifted behind hours minutes =>
    have hhours := hours.isLt
    have hminutes := minutes.isLt
    simp only [seconds]
    split <;> omega

end Zone

/-- A timestamp with all its parts. -/
structure Stamp where
  date : Date
  /-- The calendar has the date. -/
  inCalendar : date.Valid
  hour : Fin 24
  minute : Fin 60
  second : Fin 60
  /-- The digits of the fraction of the last second; none if it has no fraction. -/
  fraction : List (Fin 10)
  zone : Zone

namespace Stamp

/-- The characters of a date. -/
def dateChars (d : Date) : List Char :=
  decimalText 4 d.year ++ '-' :: (decimalText 2 d.month ++ '-' :: decimalText 2 d.day)

/-- The characters of a time of day. -/
def clockChars (hour minute second : Nat) : List Char :=
  decimalText 2 hour ++ ':' :: (decimalText 2 minute ++ ':' :: decimalText 2 second)

/-- The characters of a fraction, with the point before them. -/
def fractionChars : List (Fin 10) → List Char
  | [] => []
  | d :: ds => '.' :: digitChars (d :: ds)

/-- The characters of a timestamp in front of its fraction. -/
def frontChars (s : Stamp) : List Char :=
  dateChars s.date ++ 'T' :: clockChars s.hour s.minute s.second

/-- The characters of a timestamp. -/
def chars (s : Stamp) : List Char := s.frontChars ++ (fractionChars s.fraction ++ s.zone.chars)

/-- The text of a timestamp. -/
def text (s : Stamp) : String := String.ofList s.chars

/-- The whole seconds in UTC since the start of year 1. -/
def seconds (s : Stamp) : Int :=
  (s.date.dayNumber * 86400 + ((s.hour.val * 60 + s.minute.val) * 60 + s.second.val) : Nat) -
    s.zone.seconds

/-- The part of a second that some digits behind a point tell. -/
def partOfSecond (ds : List (Fin 10)) : ℚ := ofDigitValues 10 (ds.map (·.val)) / 10 ^ ds.length

/-- The moment that a timestamp denotes, in microseconds since the start of year 1 in UTC. -/
def moment (s : Stamp) : ℚ := (s.seconds + partOfSecond s.fraction) * 1000000

/-- The microseconds that the first six digits of a fraction tell. -/
def cutMicros (ds : List (Fin 10)) : Nat :=
  ofDigitValues 10 ((ds.take 6).map (·.val) ++ List.replicate (6 - (ds.take 6).length) 0)

/-- The moment of a timestamp without what its fraction has behind six digits. -/
def micros (s : Stamp) : Int := s.seconds * 1000000 + cutMicros s.fraction

/-! ### What six digits tell -/

private theorem ofDigitValues_digits_lt (ds : List (Fin 10)) :
    ofDigitValues 10 (ds.map (·.val)) < 10 ^ ds.length := by
  have hdigits : ∀ d ∈ ds.map (·.val), d < 10 := by
    intro d hd
    obtain ⟨digit, -, rfl⟩ := List.mem_map.mp hd
    exact digit.isLt
  have h := Text.ofDigitValues_lt hdigits
  rwa [List.length_map] at h

private theorem cutMicros_eq (ds : List (Fin 10)) :
    cutMicros ds = ofDigitValues 10 ((ds.take 6).map (·.val)) * 10 ^ (6 - (ds.take 6).length) := by
  rw [cutMicros, Text.ofDigitValues_append, Text.ofDigitValues_zeros, List.length_replicate,
    Nat.add_zero]

/-- Cut digits stay below a million. -/
theorem cutMicros_lt (ds : List (Fin 10)) : cutMicros ds < 1000000 := by
  have hlength : (ds.take 6).length ≤ 6 := List.length_take_le 6 ds
  calc cutMicros ds
      = ofDigitValues 10 ((ds.take 6).map (·.val)) * 10 ^ (6 - (ds.take 6).length) :=
        cutMicros_eq ds
    _ < 10 ^ (ds.take 6).length * 10 ^ (6 - (ds.take 6).length) :=
        Nat.mul_lt_mul_of_pos_right (ofDigitValues_digits_lt _) (Nat.pow_pos (by decide))
    _ = 10 ^ 6 := by rw [← Nat.pow_add, Nat.add_sub_cancel' hlength]

/-- The first six digits of a fraction tell all of its whole microseconds. -/
theorem cutMicros_spec (ds : List (Fin 10)) :
    cutMicros ds * 10 ^ ds.length ≤ ofDigitValues 10 (ds.map (·.val)) * 10 ^ 6 ∧
      ofDigitValues 10 (ds.map (·.val)) * 10 ^ 6 < (cutMicros ds + 1) * 10 ^ ds.length := by
  have hlength : (ds.take 6).length ≤ 6 := List.length_take_le 6 ds
  have hsplit : ds.length = (ds.take 6).length + (ds.drop 6).length := by
    rw [← List.length_append, List.take_append_drop]
  have hvalue : ofDigitValues 10 (ds.map (·.val)) =
      ofDigitValues 10 ((ds.take 6).map (·.val)) * 10 ^ (ds.drop 6).length +
        ofDigitValues 10 ((ds.drop 6).map (·.val)) := by
    have hrest : (ds.drop 6).length = ((ds.drop 6).map (·.val)).length := (List.length_map _).symm
    rw [hrest, ← Text.ofDigitValues_append, ← List.map_append, List.take_append_drop]
  have hcut : cutMicros ds * 10 ^ ds.length =
      ofDigitValues 10 ((ds.take 6).map (·.val)) * 10 ^ (ds.drop 6).length * 10 ^ 6 := by
    rw [cutMicros_eq, hsplit, Nat.mul_assoc, Nat.mul_assoc, ← Nat.pow_add, ← Nat.pow_add]
    congr 2
    omega
  -- What stands behind six digits is less than one of the last of them.
  have hrest : ofDigitValues 10 ((ds.drop 6).map (·.val)) * 10 ^ 6 < 10 ^ ds.length := by
    cases hdrop : ds.drop 6 with
    | nil =>
      rw [List.map_nil, ofDigitValues, List.foldl_nil, Nat.zero_mul]
      exact Nat.pow_pos (by decide)
    | cons d tail =>
      have hsix : (ds.take 6).length = 6 := by
        have hlong := congrArg List.length hdrop
        rw [List.length_drop, List.length_cons] at hlong
        rw [List.length_take]
        omega
      rw [hsplit, hsix, hdrop, Nat.add_comm, Nat.pow_add]
      exact Nat.mul_lt_mul_of_pos_right (ofDigitValues_digits_lt _) (by decide)
  rw [Nat.add_mul, Nat.one_mul, hcut, hvalue, Nat.add_mul]
  exact ⟨Nat.le_add_right _ _, Nat.add_lt_add_left hrest _⟩

/-- The microsecond at or before a moment is told by six digits of the fraction. -/
theorem floor_moment (s : Stamp) : ⌊s.moment⌋ = s.micros := by
  have hpower : (0 : ℚ) < 10 ^ s.fraction.length := by positivity
  obtain ⟨hlow, hhigh⟩ := cutMicros_spec s.fraction
  have hlow' : (cutMicros s.fraction : ℚ) ≤ partOfSecond s.fraction * 1000000 := by
    rw [partOfSecond, div_mul_eq_mul_div, le_div_iff₀ hpower]
    exact_mod_cast hlow
  have hhigh' : partOfSecond s.fraction * 1000000 < (cutMicros s.fraction : ℚ) + 1 := by
    rw [partOfSecond, div_mul_eq_mul_div, div_lt_iff₀ hpower]
    exact_mod_cast hhigh
  rw [Int.floor_eq_iff, moment, micros]
  push_cast
  constructor <;> linarith

end Stamp
end SecretSync.Time

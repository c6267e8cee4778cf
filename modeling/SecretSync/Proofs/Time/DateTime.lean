import SecretSync.Proofs.Time.Calendar
import SecretSync.Time.DateTime

/-!
# Dates, times of day and instants

A date that the calendar has and a time of day are a moment at the place of the date, and an instant
if the offset of the place does not lead out of the calendar.  The date of an instant is one of the
calendar.
-/

namespace SecretSync.Time

/-- A date of the calendar lies in one of the twelve months. -/
theorem Date.Valid.month {d : Date} (h : d.Valid) : 1 ≤ d.month ∧ d.month ≤ 12 := by
  obtain ⟨-, -, hday, hlast⟩ := h
  have hlength : daysInMonth d.year d.month ≠ 0 := by omega
  unfold daysInMonth at hlength
  split at hlength
  · exact (hlength rfl).elim
  · next hmonth =>
    refine ⟨Nat.pos_of_ne_zero hmonth, Nat.le_of_not_lt (fun hlate => hlength ?_)⟩
    rw [List.getD_eq_getElem?_getD, List.getElem?_eq_none (by rw [length_monthLengths]; omega)]
    rfl

/-- A day of a valid date is at most the 31st. -/
theorem Date.Valid.day_le {d : Date} (h : d.Valid) : d.day ≤ 31 :=
  Nat.le_trans h.2.2.2 (daysInMonth_le d.year d.month)

namespace DateTime

variable {d : Date} {hour minute second micros : Nat}

private theorem date_eq_ok (h : d.Valid) (hour minute second micros : Nat) :
    date ⟨d.year, d.month, d.day, hour, minute, second, micros⟩ = .ok d := by
  obtain ⟨hmonth, htwelve⟩ := h.month
  obtain ⟨hyear, hlatest, hday, hlast⟩ := h
  simp only [date, Int.toNat_natCast]
  rw [if_neg (by omega), if_neg (by omega), if_neg (by omega)]

private theorem timeOfDay_eq_ok (d : Date) (hhour : hour < 24) (hminute : minute < 60)
    (hsecond : second < 60) (hmicros : micros < 1000000) :
    timeOfDay ⟨d.year, d.month, d.day, hour, minute, second, micros⟩ =
      .ok (((hour * 60 + minute) * 60 + second) * 1000000 + micros) := by
  simp only [timeOfDay, Int.toNat_natCast]
  rw [if_neg (by omega), if_neg (by omega), if_neg (by omega), if_neg (by omega)]

/-- A date of the calendar and a time of day are an instant unless the offset of their place leads
out of the calendar. -/
theorem toInstant_eq (h : d.Valid) (hhour : hour < 24) (hminute : minute < 60)
    (hsecond : second < 60) (hmicros : micros < 1000000) (offset : Duration) :
    toInstant ⟨d.year, d.month, d.day, hour, minute, second, micros⟩ offset =
      match Instant.ofMicros? ((d.dayNumber * dayLength +
        (((hour * 60 + minute) * 60 + second) * 1000000 + micros) : Nat) - offset.micros) with
      | some t => .ok t
      | none => .error .leavesCalendar := by
  rw [toInstant, localMicros, date_eq_ok h, timeOfDay_eq_ok d hhour hminute hsecond hmicros]
  rfl

end DateTime

namespace Instant

/-- The microseconds of a day stay below its length. -/
theorem inDay_lt (t : Instant) : t.inDay < 86400000000 := Nat.mod_lt _ (by decide)

/-- The date of an instant is the one of its day, and the calendar has it. -/
theorem date_spec (t : Instant) : t.date.dayNumber = t.micros / dayLength ∧ t.date.Valid := by
  obtain ⟨hnumber, hyear, -, -, hday, hlast⟩ := Date.ofDayNumber_spec (t.micros / dayLength)
  have hday_lt : t.micros / dayLength < 3652059 := Nat.div_lt_of_lt_mul t.inRange
  exact ⟨hnumber, hyear, Date.year_ofDayNumber_le hday_lt, hday, hlast⟩

/-- An instant is found again from its microseconds. -/
theorem ofMicros?_micros (t : Instant) : ofMicros? t.micros = some t := by
  have hbelow : (t.micros : Int) < 315537897600000000 := Int.ofNat_lt.mpr t.inRange
  rw [ofMicros?, dif_pos ⟨Int.natCast_nonneg _, hbelow⟩]
  exact congrArg some (ext (Int.toNat_natCast t.micros))

end Instant
end SecretSync.Time

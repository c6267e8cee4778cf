import Mathlib.Algebra.GroupWithZero.Nat
import SecretSync.Time.Calendar

/-!
# Days and dates

`Date.ofDayNumber` and `Date.dayNumber` undo each other: every day of the years 1 to 9999 has a date
that the calendar has, and that date has the day's number.
-/

namespace SecretSync.Time

private theorem sum_monthLengths (year : Nat) :
    (monthLengths year).sum = if isLeapYear year then 366 else 365 := by
  unfold monthLengths
  cases isLeapYear year <;> rfl

/-- A year has twelve months. -/
theorem length_monthLengths (year : Nat) : (monthLengths year).length = 12 := rfl

/-- A month has at most 31 days. -/
theorem daysInMonth_le (year month : Nat) : daysInMonth year month ≤ 31 := by
  have hlengths : ∀ length ∈ monthLengths year, length ≤ 31 := by
    unfold monthLengths
    cases isLeapYear year <;> decide
  unfold daysInMonth
  split
  · omega
  · rw [List.getD_eq_getElem?_getD]
    cases hmonth : (monthLengths year)[month - 1]? with
    | none => exact Nat.zero_le _
    | some length => exact hlengths length (List.mem_of_getElem? hmonth)

private theorem daysBeforeMonth_eq_sum (year month : Nat) :
    daysBeforeMonth year month = ((monthLengths year).take (month - 1)).sum := by
  rw [daysBeforeMonth, List.sum_eq_foldl]

/-- The days before a year, told by full cycles of 400, 100, 4 and single years. -/
theorem daysBeforeYear_cycles {a b c e : Nat} (hb : b ≤ 3) (hc : c ≤ 24) (he : e ≤ 3) :
    daysBeforeYear (a * 400 + b * 100 + c * 4 + e + 1) =
      a * 146097 + b * 36524 + c * 1461 + e * 365 := by
  unfold daysBeforeYear
  simp only [Nat.add_sub_cancel]
  omega

/-- The last day of a leap year comes up only in one. -/
theorem isLeapYear_cycles {a b c : Nat} (hc : c ≤ 24) (hlast : c = 24 → b = 3) :
    isLeapYear (a * 400 + b * 100 + c * 4 + 3 + 1) = true := by
  unfold isLeapYear
  simp only [Bool.and_eq_true, Bool.or_eq_true, beq_iff_eq, bne_iff_ne]
  omega

namespace Date

/-- Days that do not fill some months are told by a month, a day that this month has, and the days
of the months before it. -/
theorem inMonths_spec {days month day : Nat} {lengths : List Nat} (h : days < lengths.sum)
    (hm : inMonths days lengths = (month, day)) :
    1 ≤ month ∧ month ≤ lengths.length ∧ 1 ≤ day ∧ day ≤ lengths.getD (month - 1) 0 ∧
      (lengths.take (month - 1)).sum + (day - 1) = days := by
  induction lengths generalizing days month with
  | nil => simp at h
  | cons length rest ih =>
    unfold inMonths at hm
    split at hm
    · next hlt =>
      cases hm
      simp
      omega
    · next hge =>
      cases hrest : inMonths (days - length) rest with
      | mk earlier d =>
        rw [hrest] at hm
        cases hm
        rw [List.sum_cons] at h
        obtain ⟨hfirst, hlast, hday, hfits, hsum⟩ := ih (by omega) hrest
        obtain ⟨m, rfl⟩ := Nat.exists_eq_add_of_le' hfirst
        simp only [Nat.add_sub_cancel] at hfits hsum ⊢
        refine ⟨by omega, by simpa using hlast, hday, by simpa using hfits, ?_⟩
        rw [List.take_succ_cons, List.sum_cons]
        omega

/-- A day number by its full cycles of 400, 100, 4 and single years, and the days of the year that
is not full; only the last year of a cycle has a day more. -/
theorem ofDayNumber_cycles (n : Nat) :
    ∃ a b c e rest, b ≤ 3 ∧ c ≤ 24 ∧ e ≤ 3 ∧ rest ≤ 365 ∧
      (rest = 365 → e = 3 ∧ (c = 24 → b = 3)) ∧
      n = a * 146097 + b * 36524 + c * 1461 + e * 365 + rest ∧
      ofDayNumber n =
        ⟨a * 400 + b * 100 + c * 4 + e + 1,
          (inMonths rest (monthLengths (a * 400 + b * 100 + c * 4 + e + 1))).1,
          (inMonths rest (monthLengths (a * 400 + b * 100 + c * 4 + e + 1))).2⟩ := by
  refine ⟨n / 146097, min (n % 146097 / 36524) 3,
    (n % 146097 - min (n % 146097 / 36524) 3 * 36524) / 1461,
    min ((n % 146097 - min (n % 146097 / 36524) 3 * 36524) % 1461 / 365) 3, _, ?_, ?_, ?_, ?_, ?_,
    ?_, rfl⟩ <;> omega

/-- The date of a day number has this number, and its month and its day are in the calendar. -/
theorem ofDayNumber_spec (n : Nat) :
    (ofDayNumber n).dayNumber = n ∧ 1 ≤ (ofDayNumber n).year ∧
      1 ≤ (ofDayNumber n).month ∧ (ofDayNumber n).month ≤ 12 ∧ 1 ≤ (ofDayNumber n).day ∧
      (ofDayNumber n).day ≤ daysInMonth (ofDayNumber n).year (ofDayNumber n).month := by
  obtain ⟨a, b, c, e, rest, hb, hc, he, hrest, hlast, hn, hdate⟩ := ofDayNumber_cycles n
  rw [hdate]
  generalize hyear : a * 400 + b * 100 + c * 4 + e + 1 = year at hdate ⊢
  have hfits : rest < (monthLengths year).sum := by
    rw [sum_monthLengths]
    split
    · omega
    · next hcommon =>
      have hne : rest ≠ 365 := by
        intro h365
        obtain ⟨rfl, hcentury⟩ := hlast h365
        exact hcommon (hyear ▸ isLeapYear_cycles hc hcentury)
      omega
  cases hmonths : inMonths rest (monthLengths year) with
  | mk month day =>
    obtain ⟨hfirst, htwelve, hday, hlength, hsum⟩ := inMonths_spec hfits hmonths
    rw [length_monthLengths] at htwelve
    dsimp only
    refine ⟨?_, by omega, hfirst, htwelve, hday, ?_⟩
    · have hbefore := daysBeforeYear_cycles (a := a) hb hc he
      rw [hyear] at hbefore
      simp only [dayNumber, daysBeforeMonth_eq_sum]
      omega
    · rw [daysInMonth, if_neg (by simpa using Nat.ne_of_gt hfirst)]
      exact hlength

/-- The days of the calendar lie in the years up to 9999. -/
theorem year_ofDayNumber_le {n : Nat} (h : n < 3652059) : (ofDayNumber n).year ≤ 9999 := by
  obtain ⟨a, b, c, e, rest, hb, hc, he, -, -, hn, hdate⟩ := ofDayNumber_cycles n
  rw [hdate]
  dsimp only
  omega

end Date
end SecretSync.Time

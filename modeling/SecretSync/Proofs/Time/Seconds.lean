import Mathlib.Algebra.Order.Floor.Ring
import Mathlib.Data.Rat.Floor
import Mathlib.Tactic.Linarith
import SecretSync.Proofs.Number.Rounding
import SecretSync.Time.Instant

/-!
# Spans in seconds

The exact length of a span is a rational number of seconds.  Its whole seconds are what is left when
the fraction is cut off towards zero.  Rounding before the cut can make a second more of a span,
but only beyond `2 ^ 34` seconds.
-/

namespace SecretSync.Time

/-- A number without its fraction. -/
def truncate (q : ℚ) : Int := if 0 ≤ q then ⌊q⌋ else ⌈q⌉

/-- Nothing is cut off that is a whole one. -/
theorem lt_truncate_add_one (q : ℚ) : q < truncate q + 1 := by
  unfold truncate
  split
  · exact Int.lt_floor_add_one q
  · exact lt_of_le_of_lt (Int.le_ceil q) (lt_add_one _)

/-- A cut number is at most the number, or zero. -/
theorem truncate_le (q : ℚ) : (truncate q : ℚ) ≤ max 0 q := by
  unfold truncate
  split
  · exact le_max_of_le_right (Int.floor_le q)
  · next h =>
    have hpast : ⌈q⌉ ≤ 0 := Int.ceil_le.mpr (by exact_mod_cast (not_le.mp h).le)
    exact le_max_of_le_left (by exact_mod_cast hpast)

/-- The seconds from the start of year 1 to an instant. -/
def Instant.exact (t : Instant) : ℚ := t.micros / 1000000

/-- Exact instants are ordered as the instants are. -/
theorem Instant.exact_lt_iff {t u : Instant} : t.exact < u.exact ↔ t < u := by
  rw [exact, exact, div_lt_div_iff_of_pos_right (by norm_num)]
  exact Nat.cast_lt

namespace Duration

variable {d : Duration}

/-- The length in seconds. -/
def exact (d : Duration) : ℚ := d.micros / 1000000

/-- A difference of instants is exact. -/
theorem exact_since (t earlier : Instant) : (t.since earlier).exact = t.exact - earlier.exact := by
  simp only [exact, Instant.exact, Instant.since]
  push_cast
  ring

private theorem exact_nonneg_iff : 0 ≤ d.exact ↔ 0 ≤ d.micros := by
  rw [exact, le_div_iff₀ (by norm_num), zero_mul]
  exact Int.cast_nonneg_iff

/-- Whole seconds are the exact ones without their fraction. -/
theorem truncate_exact (d : Duration) : truncate d.exact = d.wholeSeconds := by
  have hexact : d.exact = (d.micros : ℚ) / ((1000000 : ℕ) : ℚ) := by norm_num [exact]
  unfold truncate wholeSeconds
  split
  · next h =>
    rw [hexact, Rat.floor_intCast_div_natCast,
      Int.tdiv_eq_ediv_of_nonneg (exact_nonneg_iff.mp h)]
    rfl
  · next h =>
    have hpast : d.micros < 0 := Int.not_le.mp (mt exact_nonneg_iff.mpr h)
    have hcut : d.micros.tdiv 1000000 = -(-d.micros / 1000000) := by
      rw [← Int.tdiv_eq_ediv_of_nonneg (by omega), Int.neg_tdiv, Int.neg_neg]
    rw [hexact, Rat.ceil_intCast_div_natCast, hcut]
    rfl

/-! ### Rounded spans -/

private theorem wholeSeconds_eq (d : Duration) : d.wholeSeconds =
    if d.micros < 0 then -((d.micros.natAbs / 1000000 : Nat) : Int)
    else (d.micros.natAbs / 1000000 : Nat) := by
  unfold wholeSeconds
  split
  · next h =>
    rw [← Int.neg_neg d.micros, Int.neg_tdiv, Int.tdiv_eq_ediv_of_nonneg (by omega)]
    omega
  · rw [Int.tdiv_eq_ediv_of_nonneg (by omega)]
    omega

/-- A span that points to the past has no whole seconds also if it is rounded.  Another one keeps
them, unless they are so many that the next number of them is as near as it can be told. -/
theorem roundedSeconds_cases (hlimit : d.micros.natAbs < 2 ^ 59) :
    d.wholeSeconds ≤ 0 ∧ d.roundedSeconds ≤ 0 ∨ d.roundedSeconds = d.wholeSeconds ∨
      2 ^ 34 ≤ d.wholeSeconds ∧ d.roundedSeconds = d.wholeSeconds + 1 := by
  obtain ⟨whole, hwhole, hnear⟩ := Number.Binary64.exists_wholePart?_ofFraction d.micros hlimit
  have hrounded : d.roundedSeconds = if d.micros < 0 then -(whole : Int) else whole := by
    rw [roundedSeconds, seconds, hwhole, Option.getD_some]
  rw [hrounded, wholeSeconds_eq]
  split <;> omega

/-- A difference of instants stays below the whole numbers that are exact. -/
theorem natAbs_since_lt (t earlier : Instant) : (t.since earlier).micros.natAbs < 2 ^ 59 := by
  have ht := t.inRange
  have hearlier := earlier.inRange
  simp only [Instant.since]
  omega

end Duration

end SecretSync.Time

import Mathlib.Algebra.GroupWithZero.Nat
import SecretSync.Number.Binary64

/-!
# Whole parts of rounded fractions

A fraction is rounded to the nearest multiple of a power of two.  Its whole part is never less
afterwards, and at most one more; it is the same if the multiples lie so close that none but the
next whole number itself is as near to it as half of their distance.
-/

namespace SecretSync.Number.Binary64

variable {num den k : Nat}

/-! ### Quotients -/

private theorem div_le_roundHalfEven (num den : Nat) : num / den ≤ roundHalfEven num den := by
  simp only [roundHalfEven]
  split
  · exact Nat.le_succ _
  split
  · exact Nat.le_add_right _ _
  · exact Nat.le_refl _

private theorem roundHalfEven_le (num den : Nat) : roundHalfEven num den ≤ num / den + 1 := by
  simp only [roundHalfEven]
  split
  · exact Nat.le_refl _
  split
  · exact Nat.add_le_add_left (Nat.le_of_lt_succ (Nat.mod_lt _ Nat.two_pos)) _
  · exact Nat.le_succ _

/-- A quotient is rounded up by a half at most. -/
theorem two_mul_roundHalfEven_le (num den : Nat) :
    2 * (den * roundHalfEven num den) ≤ 2 * num + den := by
  have hcut := Nat.div_add_mod num den
  have hnext : den * (num / den + 1) = den * (num / den) + den := Nat.mul_succ _ _
  have hlarge : den < 2 * (num % den) → 2 * (den * (num / den + 1)) ≤ 2 * num + den := by
    intro h
    omega
  simp only [roundHalfEven]
  split
  · next hup => exact hlarge hup
  split
  · next htie =>
    have hparity : den * (num / den + num / den % 2) ≤ den * (num / den + 1) :=
      Nat.mul_le_mul_left _
        (Nat.add_le_add_left (Nat.le_of_lt_succ (Nat.mod_lt _ Nat.two_pos)) _)
    omega
  · omega

/-! ### Multiples of a power of two -/

/-- The whole part of a fraction that has been rounded to a multiple of `1 / 2 ^ k`. -/
def wholeOfRounded (num den k : Nat) : Nat := roundHalfEven (num * 2 ^ k) den / 2 ^ k

private theorem div_le_wholeOfRounded (num den k : Nat) : num / den ≤ wholeOfRounded num den k := by
  rw [wholeOfRounded, Nat.le_div_iff_mul_le (Nat.two_pow_pos k)]
  calc num / den * 2 ^ k
      ≤ num * 2 ^ k / den := by
        rw [Nat.mul_comm, Nat.mul_comm num]
        exact Nat.mul_div_le_mul_div_assoc _ _ _
    _ ≤ roundHalfEven (num * 2 ^ k) den := div_le_roundHalfEven _ _

private theorem wholeOfRounded_le (num : Nat) (hden : 0 < den) (k : Nat) :
    wholeOfRounded num den k ≤ num / den + 1 := by
  have hnum : num * 2 ^ k < den * ((num / den + 1) * 2 ^ k) := by
    rw [← Nat.mul_assoc]
    exact Nat.mul_lt_mul_of_pos_right (Nat.lt_mul_div_succ num hden) (Nat.two_pow_pos k)
  apply Nat.div_le_of_le_mul
  rw [Nat.mul_comm (2 ^ k)]
  exact Nat.le_trans (roundHalfEven_le _ _) (Nat.div_lt_of_lt_mul hnum)

/-- Below a whole number a fraction stays by `1 / den` at least. -/
theorem wholeOfRounded_eq (hden : 0 < den) (hclose : den < 2 ^ (k + 1)) :
    wholeOfRounded num den k = num / den := by
  apply Nat.le_antisymm _ (div_le_wholeOfRounded num den k)
  apply Nat.le_of_not_lt
  intro hup
  have hnext : (num / den + 1) * 2 ^ k ≤ roundHalfEven (num * 2 ^ k) den :=
    (Nat.le_div_iff_mul_le (Nat.two_pow_pos k)).mp hup
  have hhalf := two_mul_roundHalfEven_le (num * 2 ^ k) den
  have hbelow : (num + 1) * 2 ^ k ≤ den * roundHalfEven (num * 2 ^ k) den :=
    calc (num + 1) * 2 ^ k
        ≤ den * (num / den + 1) * 2 ^ k := Nat.mul_le_mul_right _ (Nat.lt_mul_div_succ num hden)
      _ = den * ((num / den + 1) * 2 ^ k) := Nat.mul_assoc _ _ _
      _ ≤ den * roundHalfEven (num * 2 ^ k) den := Nat.mul_le_mul_left _ hnext
  rw [Nat.add_mul, Nat.one_mul] at hbelow
  rw [Nat.pow_succ] at hclose
  omega

/-! ### Numbers of sixty-four bits -/

/-- The exponent of the number that is nearest to a fraction. -/
def exponentFor (num den : Nat) : Int :=
  let guess : Int := (Nat.log2 num : Int) - (Nat.log2 den : Int) - 52
  let scaled := scaleDown num den guess
  max (if scaled.1 < twoTo 52 * scaled.2 then guess - 1 else guess) (-1074)

private theorem ofRatio_eq (negative : Bool) (hnum : num ≠ 0) (den : Nat) :
    ofRatio negative num den =
      let scaled := scaleDown num den (exponentFor num den)
      let q := roundHalfEven scaled.1 scaled.2
      let cut := if q = twoTo 53 then (twoTo 52, exponentFor num den + 1)
        else (q, exponentFor num den)
      if 971 < cut.2 then .infinite negative else .finite negative cut.1 cut.2 := by
  rw [ofRatio, if_neg hnum]
  rfl

private theorem wholePart?_finite (negative : Bool) (m k : Nat) :
    wholePart? (.finite negative m (-(k : Int))) =
      some (if negative then -((m / 2 ^ k : Nat) : Int) else (m / 2 ^ k : Nat)) := by
  have hfraction : toFraction? (.finite negative m (-(k : Int))) =
      some (if negative then -(m : Int) else m, 2 ^ k) := by
    cases k with
    | zero => simp [toFraction?, twoTo]
    | succ k =>
      have hnegative : ¬ (0 : Int) ≤ -((k + 1 : Nat) : Int) := by omega
      rw [toFraction?, if_neg hnegative, Int.neg_neg, Int.toNat_natCast]
      rfl
  rw [wholePart?, hfraction]
  cases negative with
  | false => rfl
  | true => exact congrArg some (Int.neg_tdiv _ _)

/-- The number nearest to a fraction is one of its multiples of a power of two: the next number of
fifty-three digits has one digit less behind the point, and the same value. -/
theorem wholePart?_ofRatio (negative : Bool) (hnum : num ≠ 0)
    (hexponent : exponentFor num den = -((k + 1 : Nat) : Int)) :
    wholePart? (ofRatio negative num den) =
      some (if negative then -(wholeOfRounded num den (k + 1) : Int)
        else wholeOfRounded num den (k + 1)) := by
  have hscaled : scaleDown num den (-((k + 1 : Nat) : Int)) = (num * 2 ^ (k + 1), den) := by
    have hnegative : ¬ (0 : Int) ≤ -((k + 1 : Nat) : Int) := by omega
    rw [scaleDown, if_neg hnegative, Int.neg_neg, Int.toNat_natCast]
    rfl
  rw [ofRatio_eq negative hnum, hexponent, hscaled]
  dsimp only
  by_cases hfull : roundHalfEven (num * 2 ^ (k + 1)) den = twoTo 53
  · have hnext : -((k + 1 : Nat) : Int) + 1 = -(k : Int) := by omega
    have hwhole : wholeOfRounded num den (k + 1) = 2 ^ 52 / 2 ^ k := by
      rw [wholeOfRounded, hfull, Nat.pow_succ]
      exact Nat.mul_div_mul_right (2 ^ 52) _ Nat.two_pos
    rw [if_pos hfull]
    dsimp only
    rw [hnext, if_neg (by omega), wholePart?_finite, hwhole]
    rfl
  · rw [if_neg hfull]
    dsimp only
    rw [if_neg (by omega), wholePart?_finite]
    rfl

/-! ### Millionths -/

private theorem exponentFor_million_le (hnum : num ≠ 0) (hlimit : num < 2 ^ 59) :
    exponentFor num 1000000 ≤ -1 := by
  have hsize : Nat.log2 num < 59 := (Nat.log2_lt hnum).mpr hlimit
  have hmillion : Nat.log2 1000000 = 19 := by decide
  simp only [exponentFor, hmillion]
  split <;> omega

/-- Fractions in millionths that are below `2 ^ 34` are rounded to multiples of less than a
millionth. -/
theorem exponentFor_million_le_of_small (hnum : num ≠ 0) (hsmall : num < 2 ^ 34 * 1000000) :
    exponentFor num 1000000 ≤ -19 := by
  have hsize : Nat.log2 num < 54 := (Nat.log2_lt hnum).mpr (Nat.lt_trans hsmall (by decide))
  have hmillion : Nat.log2 1000000 = 19 := by decide
  simp only [exponentFor, hmillion]
  generalize hguess : (Nat.log2 num : Int) - (19 : Nat) - 52 = guess
  -- Only there the number of digits does not tell: the guess is one too large below `2 ^ 34`.
  by_cases hlast : guess = -18
  · have hscaled : scaleDown num 1000000 (-18) = (num * twoTo 18, 1000000) := rfl
    have htop : 2 ^ 34 * 1000000 * twoTo 18 = twoTo 52 * 1000000 := by decide +kernel
    have hbelow : num * twoTo 18 < twoTo 52 * 1000000 :=
      Nat.lt_of_lt_of_eq (Nat.mul_lt_mul_of_pos_right hsmall (by decide)) htop
    rw [hlast, hscaled, if_pos hbelow]
    decide
  · split <;> omega

/-- The whole part of millionths that are rounded is the exact one or the next, and the exact one if
it is below `2 ^ 34`. -/
theorem exists_wholePart?_ofFraction (n : Int) (hlimit : n.natAbs < 2 ^ 59) :
    ∃ whole : Nat,
      (ofFraction n 1000000).wholePart? = some (if n < 0 then -(whole : Int) else whole) ∧
      (whole = n.natAbs / 1000000 ∨
        2 ^ 34 ≤ n.natAbs / 1000000 ∧ whole = n.natAbs / 1000000 + 1) := by
  by_cases hnum : n.natAbs = 0
  · rw [Int.natAbs_eq_zero.mp hnum]
    exact ⟨0, rfl, Or.inl rfl⟩
  have hlow := exponentFor_million_le hnum hlimit
  obtain ⟨k, hk⟩ : ∃ k : Nat, exponentFor n.natAbs 1000000 = -((k + 1 : Nat) : Int) :=
    ⟨(-exponentFor n.natAbs 1000000 - 1).toNat, by omega⟩
  refine ⟨wholeOfRounded n.natAbs 1000000 (k + 1), ?_, ?_⟩
  · rw [ofFraction, wholePart?_ofRatio _ hnum hk]
    simp
  by_cases hsmall : n.natAbs < 2 ^ 34 * 1000000
  · have hclose := exponentFor_million_le_of_small hnum hsmall
    have hpower : 2 ^ 20 ≤ 2 ^ (k + 1 + 1) := Nat.pow_le_pow_right Nat.two_pos (by omega)
    exact Or.inl (wholeOfRounded_eq (by decide) (Nat.lt_of_lt_of_le (by decide) hpower))
  · have hlarge : 2 ^ 34 ≤ n.natAbs / 1000000 :=
      (Nat.le_div_iff_mul_le (by decide)).mpr (Nat.le_of_not_lt hsmall)
    have hleast := div_le_wholeOfRounded n.natAbs 1000000 (k + 1)
    have hmost := wholeOfRounded_le n.natAbs (by decide : 0 < 1000000) (k + 1)
    omega

end SecretSync.Number.Binary64

import Mathlib.Algebra.GroupWithZero.Nat
import SecretSync.Text.Half

/-!
# Digits and the numbers they spell

The decimal digits of a number have values that spell it again.
-/

namespace SecretSync.Text

private theorem asciiDigit?_digitChar_all : ∀ d < 10, asciiDigit? (Nat.digitChar d) = some d := by
  decide

/-- The digit's own character is read as the digit. -/
theorem asciiDigit?_digitChar {d : Nat} (h : d < 10) : asciiDigit? (Nat.digitChar d) = some d :=
  asciiDigit?_digitChar_all d h

/-- A number below ten is written as its digit. -/
theorem decimalText_one {n : Nat} (h : n < 10) : decimalText 1 n = [Nat.digitChar n] := by
  simp [decimalText, Nat.toDigits_of_lt_base h]

/-- The last digit stands behind the digits of the tenth part. -/
theorem decimalText_succ (width n : Nat) :
    decimalText (width + 2) n = decimalText (width + 1) (n / 10) ++ [Nat.digitChar (n % 10)] := by
  unfold decimalText
  by_cases h : n < 10
  · have hzero : n / 10 = 0 := by omega
    have hrest : n % 10 = n := by omega
    rw [hzero, hrest, Nat.toDigits_of_lt_base h]
    simp [List.replicate_succ']
  · rw [Nat.toDigits_of_base_le (by decide) (by omega : 10 ≤ n)]
    simp [List.append_assoc]

/-- The text of a number has digits only. -/
theorem digits_decimalText (width n : Nat) : ∀ c ∈ decimalText width n, (asciiDigit? c).isSome := by
  intro c hc
  rw [decimalText, List.mem_append] at hc
  rcases hc with hzero | hdigit
  · rw [List.eq_of_mem_replicate hzero]
    rfl
  · have h := Nat.isDigit_of_mem_toDigits (by decide) (by decide) hdigit
    simp only [Char.isDigit, Bool.and_eq_true, decide_eq_true_eq] at h
    have hrange : '0' ≤ c ∧ c ≤ '9' := h
    simp [asciiDigit?, hrange]

/-- What is no digit does not stand in a decimal text. -/
theorem not_mem_decimalText {c : Char} (hc : asciiDigit? c = none) (width n : Nat) :
    c ∉ decimalText width n := by
  intro hmem
  have h := digits_decimalText width n c hmem
  rw [hc] at h
  cases h

/-- A decimal text of some width is not empty. -/
theorem decimalText_ne_nil (width n : Nat) : decimalText (width + 2) n ≠ [] := by
  simp [decimalText_succ]

/-- The digits of a number have values that spell it. -/
theorem mapM_decimalText (width : Nat) {n : Nat} (h : n < 10 ^ (width + 1)) :
    ∃ ds, (decimalText (width + 1) n).mapM asciiDigit? = some ds ∧ ds.length = width + 1 ∧
      ofDigitValues 10 ds = n := by
  induction width generalizing n with
  | zero =>
    have hn : n < 10 := h
    refine ⟨[n], ?_, rfl, by simp [ofDigitValues]⟩
    simp [decimalText_one hn, asciiDigit?_digitChar hn]
  | succ width ih =>
    obtain ⟨ds, hds, hlength, hvalue⟩ := ih (n := n / 10) (by omega)
    refine ⟨ds ++ [n % 10], ?_, by simp [hlength], ?_⟩
    · simp [decimalText_succ, hds, asciiDigit?_digitChar (Nat.mod_lt n (by decide : 0 < 10))]
    · rw [ofDigitValues, List.foldl_append]
      change ofDigitValues 10 ds * 10 + n % 10 = n
      omega

/-! ### Rows of digits -/

/-- The characters of some digits. -/
def digitChars (ds : List (Fin 10)) : List Char := ds.map (fun d => Nat.digitChar d.val)

/-- Written digits are read back one by one. -/
theorem mapM_digitChars (ds : List (Fin 10)) :
    (digitChars ds).mapM asciiDigit? = some (ds.map (·.val)) := by
  induction ds with
  | nil => rfl
  | cons d ds ih =>
    change (Nat.digitChar d.val :: digitChars ds).mapM asciiDigit? = _
    rw [List.mapM_cons, asciiDigit?_digitChar d.isLt, ih]
    rfl

private theorem digitChar_sub_all : ∀ n < 58, 48 ≤ n → Nat.digitChar (n - 48) = Char.ofNat n := by
  decide

/-- Every character with a value is the digit of its value. -/
theorem exists_digitChar {c : Char} (h : (asciiDigit? c).isSome) :
    ∃ d : Fin 10, Nat.digitChar d.val = c := by
  unfold asciiDigit? at h
  split at h
  · next hrange =>
    have hlow : 48 ≤ c.toNat := hrange.1
    have hhigh : c.toNat ≤ 57 := hrange.2
    exact ⟨⟨c.toNat - 48, by omega⟩,
      (digitChar_sub_all c.toNat (by omega) hlow).trans (Char.ofNat_toNat c)⟩
  · cases h

/-- A text of digits is written by some digits. -/
theorem exists_digitChars {cs : List Char} (h : ∀ c ∈ cs, (asciiDigit? c).isSome) :
    ∃ ds, digitChars ds = cs := by
  induction cs with
  | nil => exact ⟨[], rfl⟩
  | cons c cs ih =>
    rw [List.forall_mem_cons] at h
    obtain ⟨d, rfl⟩ := exists_digitChar h.1
    obtain ⟨ds, rfl⟩ := ih h.2
    exact ⟨d :: ds, rfl⟩

private theorem foldl_digits (base start : Nat) (ds : List Nat) :
    ds.foldl (fun acc d => acc * base + d) start =
      start * base ^ ds.length + ofDigitValues base ds := by
  induction ds generalizing start with
  | nil => simp [ofDigitValues]
  | cons d ds ih =>
    have htail : ofDigitValues base (d :: ds) = d * base ^ ds.length + ofDigitValues base ds := by
      rw [ofDigitValues, List.foldl_cons, ih, Nat.zero_mul, Nat.zero_add]
    rw [List.foldl_cons, ih, htail, List.length_cons, Nat.add_mul, Nat.mul_assoc, ← Nat.pow_succ',
      Nat.add_assoc]

/-- Digits in front of others count by the place that these leave them. -/
theorem ofDigitValues_append (base : Nat) (xs ys : List Nat) :
    ofDigitValues base (xs ++ ys) =
      ofDigitValues base xs * base ^ ys.length + ofDigitValues base ys := by
  rw [ofDigitValues, List.foldl_append, foldl_digits, ← ofDigitValues]

/-- Any number of zeros stands for zero. -/
theorem ofDigitValues_zeros (base k : Nat) : ofDigitValues base (List.replicate k 0) = 0 := by
  induction k with
  | zero => rfl
  | succ k ih =>
    rw [List.replicate_succ', ofDigitValues_append, ih]
    simp [ofDigitValues]

/-- Digits below the base spell a number that has no more of them. -/
theorem ofDigitValues_lt {base : Nat} {ds : List Nat} (h : ∀ d ∈ ds, d < base) :
    ofDigitValues base ds < base ^ ds.length := by
  induction ds with
  | nil => exact Nat.one_pos
  | cons d ds ih =>
    rw [List.forall_mem_cons] at h
    have htail := ih h.2
    have hhead : (d + 1) * base ^ ds.length ≤ base * base ^ ds.length :=
      Nat.mul_le_mul_right _ h.1
    have happend := ofDigitValues_append base [d] ds
    rw [List.singleton_append] at happend
    have hone : ofDigitValues base [d] = d := by simp [ofDigitValues]
    rw [hone] at happend
    rw [happend, List.length_cons, Nat.pow_succ']
    rw [Nat.add_mul, Nat.one_mul] at hhead
    omega

/-- Without padding the text of a number is that of its digits. -/
theorem decimalText_unpadded (n : Nat) : decimalText 1 n = Nat.toDigits 10 n := by
  have hpad : 1 - (Nat.toDigits 10 n).length = 0 :=
    Nat.sub_eq_zero_of_le Nat.length_toDigits_pos
  rw [decimalText, hpad]
  rfl

/-- The text of a number is padded with zeros to a greater width. -/
theorem decimalText_pad (width n : Nat) :
    decimalText width n =
      List.replicate (width - (decimalText 1 n).length) '0' ++ decimalText 1 n := by
  rw [decimalText_unpadded, decimalText]

/-- The text of a number has at most so many digits when the number is below that power of ten. -/
theorem length_decimalText_le_iff {k : Nat} (hk : 0 < k) (n : Nat) :
    (decimalText 1 n).length ≤ k ↔ n < 10 ^ k := by
  rw [decimalText_unpadded, Nat.length_toDigits_le_iff (by decide) hk]

/-- The text of a number has no half of a surrogate pair. -/
theorem hasHalf_toString (n : Nat) : hasHalf (toString n) = false := by
  refine List.any_eq_false.mpr fun c hc => ?_
  have hdigits : (toString n).toList = Nat.toDigits 10 n := String.toList_ofList
  rw [hdigits] at hc
  have h := Nat.isDigit_of_mem_toDigits (by decide) (by decide) hc
  simp only [Char.isDigit, Bool.and_eq_true, decide_eq_true_eq] at h
  have hbelow : c.toNat ≤ 57 := h.2
  have hplane : ¬ (firstHalf ≤ c.toNat ∧ c.toNat < firstHalf + halfCount) := by
    unfold firstHalf
    omega
  rw [isHalf, halfCode?, if_neg hplane]
  decide

end SecretSync.Text

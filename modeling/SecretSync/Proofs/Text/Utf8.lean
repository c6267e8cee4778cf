import SecretSync.Text.Utf8

/-!
# What UTF-8 writes, it reads

The octets of a text spell that text: every character is written in its shortest form, which is the
one that the strict reader takes.  Text is written exactly if no halves of surrogate pairs stand in
it.
-/

namespace SecretSync.Text.Utf8

private theorem toNat_octet {n : Nat} (h : n < 256) : (UInt8.ofNat n).toNat = n :=
  UInt8.toNat_ofNat_of_lt' h

private theorem isContinuation_octet (n : Nat) :
    isContinuation (UInt8.ofNat (n % 64 + 128)) = true := by
  have hn : (UInt8.ofNat (n % 64 + 128)).toNat = n % 64 + 128 := toNat_octet (by omega)
  simp only [isContinuation, Bool.and_eq_true, decide_eq_true_eq, UInt8.le_iff_toNat_le, hn]
  simp
  omega

private theorem payload_octet (n : Nat) : payload (UInt8.ofNat (n % 64 + 128)) = n % 64 := by
  rw [payload, toNat_octet (by omega)]
  omega

/-- A second octet fits its lead unless the form is too long, the value a surrogate or beyond the
last scalar. -/
theorem allowsSecond_octet {lead n : Nat} (hlead : lead < 256)
    (hshort : lead = 224 → 32 ≤ n % 64) (hscalar : lead = 237 → n % 64 < 32)
    (hlong : lead = 240 → 16 ≤ n % 64) (hlast : lead = 244 → n % 64 < 16) :
    allowsSecond (UInt8.ofNat lead) (UInt8.ofNat (n % 64 + 128)) = true := by
  have hn : (UInt8.ofNat (n % 64 + 128)).toNat = n % 64 + 128 := toNat_octet (by omega)
  have hl : (UInt8.ofNat lead).toNat = lead := toNat_octet hlead
  simp only [allowsSecond, isContinuation_octet, Bool.true_and, Bool.and_eq_true, Bool.or_eq_true,
    bne_iff_ne, decide_eq_true_eq, ne_eq, ← UInt8.toNat_inj, UInt8.le_iff_toNat_le,
    UInt8.lt_iff_toNat_lt, hn, hl]
  simp
  omega

private theorem front_one {n : Nat} (h : n < 128) (rest : List UInt8) :
    front (UInt8.ofNat n) rest = .char (Char.ofNat n) rest := by
  have hn : (UInt8.ofNat n).toNat = n := toNat_octet (by omega)
  have hlow : UInt8.ofNat n < 0x80 := UInt8.lt_iff_toNat_lt.mpr (by rw [hn]; exact h)
  simp only [front, if_pos hlow, hn]

/-- Where a lead octet stands among the bounds that tell how long its sequence is. -/
theorem lead_lt_iff {lead : Nat} (hlead : lead < 256) (bound : UInt8) :
    UInt8.ofNat lead < bound ↔ lead < bound.toNat := by
  rw [UInt8.lt_iff_toNat_lt, toNat_octet hlead]

private theorem front_two {lead : Nat} (hlow : 194 ≤ lead) (hhigh : lead < 224) (n : Nat)
    (rest : List UInt8) :
    front (UInt8.ofNat lead) (UInt8.ofNat (n % 64 + 128) :: rest) =
      .char (Char.ofNat (lead % 32 * 64 + n % 64)) rest := by
  have hlead : lead < 256 := by omega
  have h80 : ¬ UInt8.ofNat lead < 0x80 := by rw [lead_lt_iff hlead]; simp; omega
  have hc2 : ¬ UInt8.ofNat lead < 0xc2 := by rw [lead_lt_iff hlead]; simp; omega
  have he0 : UInt8.ofNat lead < 0xe0 := by rw [lead_lt_iff hlead]; simpa using hhigh
  simp only [front, if_neg h80, if_neg hc2, if_pos he0, isContinuation_octet, if_true,
    payload_octet, toNat_octet hlead]

private theorem front_three {lead : Nat} (hlow : 224 ≤ lead) (hhigh : lead < 240) (n m : Nat)
    (hshort : lead = 224 → 32 ≤ n % 64) (hscalar : lead = 237 → n % 64 < 32)
    (rest : List UInt8) :
    front (UInt8.ofNat lead)
        (UInt8.ofNat (n % 64 + 128) :: UInt8.ofNat (m % 64 + 128) :: rest) =
      .char (Char.ofNat (lead % 16 * 4096 + n % 64 * 64 + m % 64)) rest := by
  have hlead : lead < 256 := by omega
  have h80 : ¬ UInt8.ofNat lead < 0x80 := by rw [lead_lt_iff hlead]; simp; omega
  have hc2 : ¬ UInt8.ofNat lead < 0xc2 := by rw [lead_lt_iff hlead]; simp; omega
  have he0 : ¬ UInt8.ofNat lead < 0xe0 := by rw [lead_lt_iff hlead]; simp; omega
  have hf0 : UInt8.ofNat lead < 0xf0 := by rw [lead_lt_iff hlead]; simpa using hhigh
  have hsecond := allowsSecond_octet hlead hshort hscalar (by omega) (by omega)
  simp only [front, if_neg h80, if_neg hc2, if_neg he0, if_pos hf0, hsecond, Bool.not_true,
    Bool.false_eq_true, if_false, isContinuation_octet, if_true, payload_octet, toNat_octet hlead]

private theorem front_four {lead : Nat} (hlow : 240 ≤ lead) (hhigh : lead < 245) (n m k : Nat)
    (hlong : lead = 240 → 16 ≤ n % 64) (hlast : lead = 244 → n % 64 < 16) (rest : List UInt8) :
    front (UInt8.ofNat lead) (UInt8.ofNat (n % 64 + 128) :: UInt8.ofNat (m % 64 + 128) ::
        UInt8.ofNat (k % 64 + 128) :: rest) =
      .char (Char.ofNat (lead % 8 * 262144 + n % 64 * 4096 + m % 64 * 64 + k % 64)) rest := by
  have hlead : lead < 256 := by omega
  have h80 : ¬ UInt8.ofNat lead < 0x80 := by rw [lead_lt_iff hlead]; simp; omega
  have hc2 : ¬ UInt8.ofNat lead < 0xc2 := by rw [lead_lt_iff hlead]; simp; omega
  have he0 : ¬ UInt8.ofNat lead < 0xe0 := by rw [lead_lt_iff hlead]; simp; omega
  have hf0 : ¬ UInt8.ofNat lead < 0xf0 := by rw [lead_lt_iff hlead]; simp; omega
  have hf5 : UInt8.ofNat lead < 0xf5 := by rw [lead_lt_iff hlead]; simpa using hhigh
  have hsecond := allowsSecond_octet hlead (by omega) (by omega) hlong hlast
  simp only [front, if_neg h80, if_neg hc2, if_neg he0, if_neg hf0, if_pos hf5, hsecond,
    Bool.not_true, Bool.false_eq_true, if_false, isContinuation_octet, if_true, payload_octet,
    toNat_octet hlead]

/-- The octets of a character stand for it whatever comes behind them. -/
theorem front_encodeChar (c : Char) (rest : List UInt8) :
    ∃ a tail, String.utf8EncodeChar c = a :: tail ∧ front a (tail ++ rest) = .char c rest := by
  have hvalid : c.val.toNat < 55296 ∨ 57343 < c.val.toNat ∧ c.val.toNat < 1114112 := c.valid
  have hchar : Char.ofNat c.val.toNat = c := Char.ofNat_toNat c
  generalize hv : c.val.toNat = v at hvalid hchar
  unfold String.utf8EncodeChar
  simp only [hv]
  split
  · next h1 =>
    refine ⟨_, _, rfl, ?_⟩
    rw [List.nil_append, front_one (by omega), hchar]
  · split
    · next h1 h2 =>
      refine ⟨_, _, rfl, ?_⟩
      rw [List.singleton_append, front_two (by omega) (by omega)]
      have hsum : (v / 64 % 32 + 192) % 32 * 64 + v % 64 = v := by omega
      rw [hsum, hchar]
    · split
      · next h1 h2 h3 =>
        refine ⟨_, _, rfl, ?_⟩
        rw [List.cons_append, List.singleton_append,
          front_three (by omega) (by omega) _ _ (by omega) (by omega)]
        have hsum : (v / 4096 % 16 + 224) % 16 * 4096 + v / 64 % 64 * 64 + v % 64 = v := by omega
        rw [hsum, hchar]
      · next h1 h2 h3 =>
        refine ⟨_, _, rfl, ?_⟩
        rw [List.cons_append, List.cons_append, List.singleton_append,
          front_four (by omega) (by omega) _ _ _ (by omega) (by omega)]
        have hsum : (v / 262144 % 8 + 240) % 8 * 262144 + v / 4096 % 64 * 4096 +
            v / 64 % 64 * 64 + v % 64 = v := by omega
        rw [hsum, hchar]

private theorem decodeFrom_encode (cs : List Char) (position : Nat) :
    decodeFrom position (cs.flatMap String.utf8EncodeChar) = .ok cs := by
  induction cs generalizing position with
  | nil => rw [List.flatMap_nil, decodeFrom]
  | cons c cs ih =>
    obtain ⟨a, tail, hoctets, hfront⟩ :=
      front_encodeChar c (cs.flatMap String.utf8EncodeChar)
    rw [List.flatMap_cons, hoctets, List.cons_append, decodeFrom]
    split
    · next f span h =>
      rw [hfront] at h
      cases h
    · next c' rest' h =>
      rw [hfront] at h
      cases h
      rw [ih]
      rfl

/-- Text that is written is read back. -/
theorem decode_encode (s : String) : decode (encode s) = .ok s := by
  rw [decode, encode, decodeFrom_encode]
  exact congrArg Except.ok String.ofList_toList

/-! ### Text that is not written -/

private theorem halvesFrom?_eq_none_iff {position : Nat} {cs : List Char} :
    halvesFrom? position cs = none ↔ cs.any isHalf = false := by
  induction cs generalizing position with
  | nil => exact iff_of_true rfl rfl
  | cons c cs ih =>
    rw [halvesFrom?, List.any_cons]
    cases hcode : halfCode? c with
    | some code => simp [isHalf, hcode]
    | none => simpa [isHalf, hcode] using ih

/-- Text without halves is encoded. -/
theorem encode?_of_whole {s : String} (h : hasHalf s = false) : encode? s = .ok (encode s) := by
  rw [encode?, halvesFrom?_eq_none_iff.mpr h]

/-- Text with a half is not. -/
theorem encode?_of_half {s : String} (h : hasHalf s = true) : ∃ e, encode? s = .error e := by
  cases hhalves : halvesFrom? 0 s.toList with
  | some e => exact ⟨e, by rw [encode?, hhalves]⟩
  | none =>
    have hwhole : hasHalf s = false := halvesFrom?_eq_none_iff.mp hhalves
    rw [hwhole] at h
    cases h

/-- Text is encoded exactly if it has no halves. -/
theorem encode?_eq_ok_iff {s : String} {octets : List UInt8} :
    encode? s = .ok octets ↔ hasHalf s = false ∧ encode s = octets := by
  cases hhalf : hasHalf s with
  | false => simp [encode?_of_whole hhalf]
  | true =>
    obtain ⟨e, he⟩ := encode?_of_half hhalf
    simp [he]

end SecretSync.Text.Utf8

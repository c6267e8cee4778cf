import SecretSync.Text.Base64

/-!
# What base64 writes, it reads

The lenient reader gives back the octets that the writer was given, whatever they are.
-/

namespace SecretSync.Text.Base64

private theorem value?_letter_all : ∀ n, n < 64 → value? (letter n) = some n := by decide

private theorem letter_ne_pad_all : ∀ n, n < 64 → letter n ≠ '=' := by decide

private theorem letter_ascii_all : ∀ n, n < 64 → (letter n).toNat < 128 := by decide

private theorem decodeFrom_letter (full pads : Nat) (g : Group) (n : Nat) (rest : List Char)
    (hn : n < 64) :
    decodeFrom full g pads (letter n :: rest) =
      match g with
      | .zero => decodeFrom full (.one n) 0 rest
      | .one a => decodeFrom full (.two a n) 0 rest
      | .two a b => decodeFrom full (.three a b n) 0 rest
      | .three a b d => (decodeFrom (full + 1) .zero 0 rest).map (fullGroup a b d n ++ ·) := by
  cases g <;> simp only [decodeFrom, if_neg (letter_ne_pad_all n hn), value?_letter_all n hn]

private theorem decodeFrom_two_pads (full a b : Nat) :
    decodeFrom full (.two a b) 0 ['=', '='] = .ok [UInt8.ofNat (a * 4 + b / 16)] := rfl

private theorem decodeFrom_one_pad (full a b c : Nat) :
    decodeFrom full (.three a b c) 0 ['='] =
      .ok [UInt8.ofNat (a * 4 + b / 16), UInt8.ofNat (b % 16 * 16 + c / 4)] := rfl

-- The letters of a group share the bits of its octets; these three sums put them together again.
private theorem first_octet (a : UInt8) (r : Nat) (hr : r < 16) :
    UInt8.ofNat (a.toNat / 4 * 4 + (a.toNat % 4 * 16 + r) / 16) = a := by
  have h : a.toNat / 4 * 4 + (a.toNat % 4 * 16 + r) / 16 = a.toNat := by omega
  rw [h, UInt8.ofNat_toNat]

private theorem second_octet (q : Nat) (b : UInt8) (r : Nat) (hr : r < 4) :
    UInt8.ofNat ((q * 16 + b.toNat / 16) % 16 * 16 + (b.toNat % 16 * 4 + r) / 4) = b := by
  have hb := b.toNat_lt
  have h : (q * 16 + b.toNat / 16) % 16 * 16 + (b.toNat % 16 * 4 + r) / 4 = b.toNat := by omega
  rw [h, UInt8.ofNat_toNat]

private theorem third_octet (q : Nat) (c : UInt8) :
    UInt8.ofNat ((q * 4 + c.toNat / 64) % 4 * 64 + c.toNat % 64) = c := by
  have hc := c.toNat_lt
  have h : (q * 4 + c.toNat / 64) % 4 * 64 + c.toNat % 64 = c.toNat := by omega
  rw [h, UInt8.ofNat_toNat]

private theorem decodeFrom_encodeChars (octets : List UInt8) (full : Nat) :
    decodeFrom full .zero 0 (encodeChars octets) = .ok octets := by
  induction octets using encodeChars.induct generalizing full with
  | case1 => rfl
  | case2 a =>
    have ha := a.toNat_lt
    rw [encodeChars, decodeFrom_letter _ _ _ _ _ (by omega)]
    dsimp only
    rw [decodeFrom_letter _ _ _ _ _ (by omega)]
    dsimp only
    rw [decodeFrom_two_pads, ← Nat.add_zero (a.toNat % 4 * 16), first_octet a 0 (by omega)]
  | case3 a b =>
    have ha := a.toNat_lt
    have hb := b.toNat_lt
    rw [encodeChars, decodeFrom_letter _ _ _ _ _ (by omega)]
    dsimp only
    rw [decodeFrom_letter _ _ _ _ _ (by omega)]
    dsimp only
    rw [decodeFrom_letter _ _ _ _ _ (by omega)]
    dsimp only
    rw [decodeFrom_one_pad, first_octet a _ (by omega), ← Nat.add_zero (b.toNat % 16 * 4),
      second_octet _ b 0 (by omega)]
  | case4 a b c rest ih =>
    have ha := a.toNat_lt
    have hb := b.toNat_lt
    have hc := c.toNat_lt
    rw [encodeChars, decodeFrom_letter _ _ _ _ _ (by omega)]
    dsimp only
    rw [decodeFrom_letter _ _ _ _ _ (by omega)]
    dsimp only
    rw [decodeFrom_letter _ _ _ _ _ (by omega)]
    dsimp only
    rw [decodeFrom_letter _ _ _ _ _ (by omega)]
    dsimp only
    rw [ih, fullGroup, first_octet a _ (by omega), second_octet _ b _ (by omega), third_octet]
    rfl

private theorem ascii_encodeChars (octets : List UInt8) :
    ∀ c ∈ encodeChars octets, c.toNat < 128 := by
  have hpad : '='.toNat < 128 := by decide
  induction octets using encodeChars.induct with
  | case1 => simp [encodeChars]
  | case2 a =>
    have ha := a.toNat_lt
    simp only [encodeChars, List.forall_mem_cons]
    exact ⟨letter_ascii_all _ (by omega), letter_ascii_all _ (by omega), hpad, hpad, by simp⟩
  | case3 a b =>
    have ha := a.toNat_lt
    have hb := b.toNat_lt
    simp only [encodeChars, List.forall_mem_cons]
    exact ⟨letter_ascii_all _ (by omega), letter_ascii_all _ (by omega),
      letter_ascii_all _ (by omega), hpad, by simp⟩
  | case4 a b c rest ih =>
    have ha := a.toNat_lt
    have hb := b.toNat_lt
    have hc := c.toNat_lt
    simp only [encodeChars, List.forall_mem_cons]
    exact ⟨letter_ascii_all _ (by omega), letter_ascii_all _ (by omega),
      letter_ascii_all _ (by omega), letter_ascii_all _ (by omega), ih⟩

/-- Octets come back from their base64 text. -/
theorem decode_encode (octets : List UInt8) : decode (encode octets) = .ok octets := by
  have hascii : (encode octets).toList.all (fun c => c.toNat < 128) = true := by
    rw [encode, String.toList_ofList, List.all_eq_true]
    intro c hc
    exact decide_eq_true (ascii_encodeChars octets c hc)
  rw [decode, if_pos hascii, encode, String.toList_ofList, decodeFrom_encodeChars]

end SecretSync.Text.Base64

import SecretSync.Proofs.Time.Stamp
import SecretSync.Time.Timestamp

/-!
# Timestamps are cut, not rounded

A timestamp in full is read as the last microsecond that is not behind the moment that it denotes,
whatever the length of its fraction and the zone.  Only a moment outside the calendar is refused.
-/

namespace SecretSync.Time

open Text (asciiDigit? decimalText digitChars ofDigitValues)

namespace Timestamp

/-! ### Numbers of a fixed width -/

private theorem twoDigits_decimalText {n : Nat} (h : n < 100) (rest : List Char) :
    twoDigits (decimalText 2 n ++ rest) = some (n, rest) := by
  have htens : n / 10 < 10 := by omega
  have hones : n % 10 < 10 := by omega
  have hvalue : n / 10 * 10 + n % 10 = n := by omega
  simp [Text.decimalText_succ, Text.decimalText_one htens, twoDigits, oneDigit,
    Text.asciiDigit?_digitChar htens, Text.asciiDigit?_digitChar hones, hvalue]

private theorem fourDigits_decimalText {n : Nat} (h : n < 10000) (rest : List Char) :
    fourDigits (decimalText 4 n ++ rest) = some (n, rest) := by
  have hhigh : n / 100 < 100 := by omega
  have hlow : n % 100 < 100 := by omega
  have hvalue : n / 100 * 100 + n % 100 = n := by omega
  have hsplit : decimalText 4 n = decimalText 2 (n / 100) ++ decimalText 2 (n % 100) := by
    have htens : n / 10 / 10 = n / 100 := by omega
    have hlast : n % 100 / 10 = n / 10 % 10 := by omega
    have hones : n % 100 % 10 = n % 10 := by omega
    rw [Text.decimalText_succ 2 n, Text.decimalText_succ 1 (n / 10), htens,
      Text.decimalText_succ 0 (n % 100), hlast, hones,
      Text.decimalText_one (by omega : n / 10 % 10 < 10), List.append_assoc]
  rw [hsplit, List.append_assoc]
  simp [fourDigits, twoDigits_decimalText hhigh, twoDigits_decimalText hlow, hvalue]

/-- A date in digits is read, whatever stands behind it. -/
theorem dateFront_dateChars {d : Date} (h : d.Valid) (rest : List Char) :
    dateFront (Stamp.dateChars d ++ rest) = some (.calendar d.year d.month d.day, rest) := by
  have hmonth : d.month < 100 := by have := h.month; omega
  have hday : d.day < 100 := by have := h.day_le; omega
  have hyear : d.year < 10000 := by have := h.2.1; omega
  have hdigit : decimalText 2 d.month =
      [Nat.digitChar (d.month / 10), Nat.digitChar (d.month % 10)] := by
    rw [Text.decimalText_succ, Text.decimalText_one (by omega)]
    rfl
  have hW : Nat.digitChar (d.month / 10) ≠ 'W' := by
    intro hc
    have hvalue := Text.asciiDigit?_digitChar (by omega : d.month / 10 < 10)
    rw [hc] at hvalue
    cases hvalue
  have htwo := twoDigits_decimalText hmonth
  rw [hdigit] at htwo
  simp only [Stamp.dateChars, List.append_assoc, List.cons_append, dateFront,
    fourDigits_decimalText hyear, hdigit, Option.bind_eq_bind, Option.bind_some]
  generalize Nat.digitChar (d.month / 10) = c at hW htwo ⊢
  split
  · next heq =>
    simp only [List.cons.injEq, true_and] at heq
    exact (hW heq.1).elim
  · next heq =>
    simp only [List.cons.injEq, true_and] at heq
    subst heq
    have hrest := htwo ('-' :: (decimalText 2 d.day ++ rest))
    simp only [List.cons_append, List.nil_append] at hrest ⊢
    simp [hrest, twoDigits_decimalText hday]
  · next heq => simp at heq
  · next _ hdash _ => exact (hdash _ rfl).elim

/-- At most six digits of a fraction are read, and they are its microseconds. -/
theorem fraction_take (ds : List (Fin 10)) :
    fraction (digitChars (ds.take 6)) = some ⟨[], Stamp.cutMicros ds, false⟩ := by
  have hlength : (digitChars (ds.take 6)).length ≤ 6 := by
    rw [digitChars, List.length_map]
    exact List.length_take_le 6 ds
  rw [fraction, List.take_of_length_le hlength, List.drop_eq_nil_of_le hlength,
    Text.mapM_digitChars, Option.map_some, Stamp.cutMicros, List.length_map]
  rfl

/-- A time of day in digits is read with the first six digits of its fraction. -/
theorem timeFrom_clockChars {hour minute second : Nat} (hhour : hour < 100) (hminute : minute < 100)
    (hsecond : second < 100) (ds : List (Fin 10)) :
    timeFrom 3 none (Stamp.clockChars hour minute second ++ Stamp.fractionChars (ds.take 6)) =
      some ⟨[hour, minute, second], Stamp.cutMicros ds, false⟩ := by
  have hfraction := fraction_take ds
  unfold Stamp.clockChars
  cases ds with
  | nil =>
    have hlast := twoDigits_decimalText hsecond []
    rw [List.append_nil] at hlast
    simp [timeFrom, twoDigits_decimalText hhour, twoDigits_decimalText hminute, hlast,
      Stamp.fractionChars, Stamp.cutMicros, ofDigitValues, Text.decimalText_ne_nil,
      WrittenTime.cons]
  | cons d ds =>
    have hpoint : Stamp.fractionChars ((d :: ds).take 6) = '.' :: digitChars ((d :: ds).take 6) :=
      rfl
    have hsome : digitChars ((d :: ds).take 6) ≠ [] := List.cons_ne_nil _ _
    rw [hpoint]
    generalize digitChars ((d :: ds).take 6) = cs at hfraction hsome
    simp [timeFrom, twoDigits_decimalText hhour, twoDigits_decimalText hminute,
      twoDigits_decimalText hsecond, hfraction, hsome, WrittenTime.cons]

/-! ### The form that is read -/

private theorem expandZulu_append (cs rest : List Char) (h : 'Z' ∉ cs) :
    expandZulu (cs ++ rest) = cs ++ expandZulu rest := by
  induction cs with
  | nil => rfl
  | cons c cs ih =>
    rw [List.mem_cons, not_or] at h
    have htail := ih h.2
    unfold expandZulu at htail ⊢
    rw [List.cons_append, List.flatMap_cons, htail, if_neg (Ne.symm h.1)]
    rfl

private theorem cutFractions_append (cs rest : List Char) (h : '.' ∉ cs) :
    cutFractions (cs ++ rest) = cs ++ cutFractions rest := by
  induction cs with
  | nil => rfl
  | cons c cs ih =>
    rw [List.mem_cons, not_or] at h
    rw [List.cons_append, cutFractions, if_neg (fun hc => h.1 hc.1.symm), ih h.2, List.cons_append]

/-- Without a point there is nothing to cut. -/
theorem cutFractions_of_not_mem {cs : List Char} (h : '.' ∉ cs) : cutFractions cs = cs := by
  have happend := cutFractions_append cs [] h
  rwa [List.append_nil, cutFractions, List.append_nil] at happend

private theorem isDigit_digitChar_all : ∀ d : Fin 10, isDigit (Nat.digitChar d.val) = true := by
  decide

private theorem digitChars_isDigit (ds : List (Fin 10)) :
    ∀ c ∈ digitChars ds, isDigit c = true := by
  intro c hc
  obtain ⟨d, -, rfl⟩ := List.mem_map.mp hc
  exact isDigit_digitChar_all d

/-- A character that is no digit is in no row of digits. -/
theorem not_mem_digitChars {c : Char} (hc : isDigit c = false) (ds : List (Fin 10)) :
    c ∉ digitChars ds := by
  intro hmem
  rw [digitChars_isDigit ds c hmem] at hc
  cases hc

/-- A fraction is cut behind six digits, and what stands behind it stays. -/
theorem cutFractions_fractionChars (ds : List (Fin 10)) {sign : Char} {rest : List Char}
    (hsign : isDigit sign = false) (hpoint : '.' ∉ sign :: rest) :
    cutFractions (Stamp.fractionChars ds ++ sign :: rest) =
      Stamp.fractionChars (ds.take 6) ++ sign :: rest := by
  cases ds with
  | nil => exact cutFractions_of_not_mem hpoint
  | cons d ds =>
    have htext : Stamp.fractionChars (d :: ds) ++ sign :: rest =
        '.' :: (digitChars (d :: ds) ++ sign :: rest) := rfl
    have hcut : Stamp.fractionChars ((d :: ds).take 6) = '.' :: digitChars ((d :: ds).take 6) := rfl
    rw [htext, hcut]
    generalize d :: ds = digits
    have hlength : (digitChars digits).length = digits.length := List.length_map _
    have htake : (digitChars digits).take 6 = digitChars (digits.take 6) := List.map_take.symm
    rw [cutFractions]
    by_cases hlong : 6 ≤ digits.length
    · have hfront : (digitChars digits ++ sign :: rest).take 6 = digitChars (digits.take 6) := by
        rw [List.take_append_of_le_length (hlength.symm ▸ hlong), htake]
      have hsix : (digitChars (digits.take 6)).length = 6 := by
        rw [digitChars, List.length_map, List.length_take, Nat.min_eq_left hlong]
      have hbehind : ((digitChars digits ++ sign :: rest).drop 6).dropWhile isDigit =
          sign :: rest := by
        rw [List.drop_append_of_le_length (hlength.symm ▸ hlong), List.dropWhile_append_of_pos
          (fun c hc => digitChars_isDigit digits c (List.mem_of_mem_drop hc)),
          List.dropWhile_cons_of_neg (by simp [hsign])]
      rw [hfront, hbehind, cutFractions_of_not_mem hpoint,
        if_pos ⟨rfl, hsix, List.all_eq_true.mpr (digitChars_isDigit _)⟩]
    · -- the sign behind the digits is among the six characters
      have hsign_mem : sign ∈ (digitChars digits ++ sign :: rest).take 6 := by
        have hbehind : 6 - digits.length = 6 - digits.length - 1 + 1 := by omega
        rw [List.take_append, hlength, hbehind]
        simp
      rw [if_neg, cutFractions_append _ _ (not_mem_digitChars rfl digits),
        cutFractions_of_not_mem hpoint, List.take_of_length_le (by omega)]
      · rfl
      · rintro ⟨-, -, hall⟩
        rw [List.all_eq_true.mp hall sign hsign_mem] at hsign
        cases hsign

/-- Every character of written digits is a digit. -/
theorem asciiDigit?_digitChars (ds : List (Fin 10)) :
    ∀ c ∈ digitChars ds, (asciiDigit? c).isSome := by
  intro c hc
  obtain ⟨d, -, rfl⟩ := List.mem_map.mp hc
  rw [Text.asciiDigit?_digitChar d.isLt]
  rfl

/-- The front of a timestamp has digits, hyphens, colons and the letter between date and time. -/
theorem not_mem_frontChars (s : Stamp) {c : Char} (hc : asciiDigit? c = none) (hdash : c ≠ '-')
    (hT : c ≠ 'T') (hcolon : c ≠ ':') : c ∉ s.frontChars := by
  simp [Stamp.frontChars, Stamp.dateChars, Stamp.clockChars, Text.not_mem_decimalText hc, hdash, hT,
    hcolon]

private theorem not_mem_fractionChars (ds : List (Fin 10)) {c : Char} (hc : asciiDigit? c = none)
    (hpoint : c ≠ '.') : c ∉ Stamp.fractionChars ds := by
  cases ds with
  | nil => exact List.not_mem_nil
  | cons d ds =>
    rw [Stamp.fractionChars, List.mem_cons, not_or]
    refine ⟨hpoint, fun hmem => ?_⟩
    have hsome := asciiDigit?_digitChars _ c hmem
    rw [hc] at hsome
    cases hsome

private theorem not_mem_shiftChars (behind : Bool) (hours minutes : Nat) {c : Char}
    (hc : asciiDigit? c = none) (hsign : isSign c = false) (hcolon : c ≠ ':') :
    c ∉ Zone.shiftChars behind hours minutes := by
  have hne : c ≠ if behind then '-' else '+' := by
    rintro rfl
    cases behind <;> cases hsign
  simp [Zone.shiftChars, Text.not_mem_decimalText hc, hne, hcolon]

private theorem not_mem_spelledOut (z : Zone) {c : Char} (hc : asciiDigit? c = none)
    (hsign : isSign c = false) (hcolon : c ≠ ':') : c ∉ z.spelledOut := by
  cases z with
  | utc => exact not_mem_shiftChars false 0 0 hc hsign hcolon
  | shifted behind hours minutes =>
    exact not_mem_shiftChars behind hours minutes hc hsign hcolon

/-- A zone without the letter begins with a sign. -/
theorem exists_sign (z : Zone) : ∃ sign rest, z.spelledOut = sign :: rest ∧ isDigit sign =
    false := by
  cases z with
  | utc => exact ⟨_, _, rfl, by decide⟩
  | shifted behind hours minutes => exact ⟨_, _, rfl, by cases behind <;> decide⟩

private theorem expandZulu_zone (z : Zone) : expandZulu z.chars = z.spelledOut := by
  cases z with
  | utc => decide
  | shifted behind hours minutes =>
    have hZ : 'Z' ∉ Zone.shiftChars behind hours minutes :=
      not_mem_shiftChars _ _ _ rfl rfl (by decide)
    have happend := expandZulu_append _ [] hZ
    rw [List.append_nil] at happend
    exact happend.trans (List.append_nil _)

/-- Characters that are neither the letter for UTC nor a point stay as they are. -/
theorem normalise_append {cs : List Char} (hZ : 'Z' ∉ cs) (hpoint : '.' ∉ cs) (rest : List Char) :
    normalise (cs ++ rest) = cs ++ normalise rest := by
  rw [normalise, expandZulu_append _ _ hZ, cutFractions_append _ _ hpoint, ← normalise]

/-- The form in which a timestamp is read: six digits of the fraction, and no letter for UTC. -/
theorem normalise_chars (s : Stamp) :
    normalise s.chars =
      s.frontChars ++ (Stamp.fractionChars (s.fraction.take 6) ++ s.zone.spelledOut) := by
  have hZ : 'Z' ∉ Stamp.fractionChars s.fraction := not_mem_fractionChars _ rfl (by decide)
  have hpoint : '.' ∉ s.zone.spelledOut := not_mem_spelledOut _ rfl rfl (by decide)
  obtain ⟨sign, rest, hzone, hsign⟩ := exists_sign s.zone
  rw [hzone] at hpoint
  rw [Stamp.chars, normalise_append (not_mem_frontChars s rfl (by decide) (by decide) (by decide))
      (not_mem_frontChars s rfl (by decide) (by decide) (by decide)), normalise,
    expandZulu_append _ _ hZ, expandZulu_zone, hzone, cutFractions_fractionChars _ hsign hpoint]

/-! ### Reading -/

/-- The clock and its fraction hold no sign. -/
theorem unsigned (hour minute second : Nat) (ds : List (Fin 10)) :
    ∀ c ∈ Stamp.clockChars hour minute second ++ Stamp.fractionChars ds, (!isSign c) = true := by
  intro c hmem
  cases hc : isSign c with
  | false => rfl
  | true =>
    have hsign : c = '+' ∨ c = '-' := by simpa [isSign] using hc
    have hnone : asciiDigit? c = none := by rcases hsign with rfl | rfl <;> decide
    have hcolon : c ≠ ':' := by rcases hsign with rfl | rfl <;> decide
    have hpoint : c ≠ '.' := by rcases hsign with rfl | rfl <;> decide
    rcases List.mem_append.mp hmem with hclock | hfraction
    · simp [Stamp.clockChars, Text.not_mem_decimalText hnone, hcolon] at hclock
    · exact (not_mem_fractionChars ds hnone hpoint hfraction).elim

private theorem timeFrom_shift (hours : Fin 24) (minutes : Fin 60) :
    timeFrom 3 none (decimalText 2 hours ++ ':' :: decimalText 2 minutes) =
      some ⟨[hours.val, minutes.val], 0, false⟩ := by
  have hhours : hours.val < 100 := by omega
  have hminutes : minutes.val < 100 := by omega
  have hlast := twoDigits_decimalText hminutes []
  rw [List.append_nil] at hlast
  simp [timeFrom, twoDigits_decimalText hhours, hlast, Text.decimalText_ne_nil, WrittenTime.cons]

private theorem timeAndOffset_shiftChars (hour : Fin 24) (minute second : Fin 60)
    (ds : List (Fin 10))
    (behind : Bool) (hours : Fin 24) (minutes : Fin 60) :
    timeAndOffset (Stamp.clockChars hour minute second ++
        (Stamp.fractionChars (ds.take 6) ++ Zone.shiftChars behind hours minutes)) =
      some (⟨[hour.val, minute.val, second.val], Stamp.cutMicros ds, false⟩,
        some ⟨(Zone.shifted behind hours minutes).seconds * 1000000⟩) := by
  have hunsigned := unsigned hour minute second (ds.take 6)
  have htime := timeFrom_clockChars (by omega : hour.val < 100) (by omega : minute.val < 100)
    (by omega : second.val < 100) ds
  have hsign : isSign (if behind then '-' else '+') = true := by cases behind <;> decide
  have hshift := timeFrom_shift hours minutes
  rw [Zone.shiftChars]
  generalize decimalText 2 hours ++ ':' :: decimalText 2 minutes = rest at hshift
  have htake : (Stamp.clockChars hour minute second ++ (Stamp.fractionChars (ds.take 6) ++
      (if behind then '-' else '+') :: rest)).takeWhile (fun c => !isSign c) =
      Stamp.clockChars hour minute second ++ Stamp.fractionChars (ds.take 6) := by
    rw [← List.append_assoc, List.takeWhile_append_of_pos hunsigned,
      List.takeWhile_cons_of_neg (by simp [hsign]), List.append_nil]
  have hdrop : (Stamp.clockChars hour minute second ++ (Stamp.fractionChars (ds.take 6) ++
      (if behind then '-' else '+') :: rest)).dropWhile (fun c => !isSign c) =
      (if behind then '-' else '+') :: rest := by
    rw [← List.append_assoc, List.dropWhile_append_of_pos hunsigned,
      List.dropWhile_cons_of_neg (by simp [hsign])]
  -- An offset of zero is told apart, to the same effect.
  have hsize : ∀ n : Int, (if n = 0 then 0 else n * 1000000 + ((0 : Nat) : Int)) = n * 1000000 := by
    intro n
    split <;> omega
  rw [timeAndOffset, htake, hdrop, htime]
  dsimp only [Option.bind_eq_bind, Option.bind_some]
  rw [hshift]
  dsimp only [Option.bind_some]
  rw [if_neg Bool.false_ne_true]
  refine congrArg (fun offset => some (_, some (Duration.mk offset))) ?_
  cases behind with
  | false =>
    rw [if_neg (by decide), hsize]
    exact congrArg (· * 1000000) (Int.add_zero _)
  | true =>
    rw [if_pos (by decide), hsize, ← Int.neg_mul]
    exact congrArg (fun n => -n * 1000000) (Int.add_zero _)

private theorem timeAndOffset_chars (hour : Fin 24) (minute second : Fin 60) (ds : List (Fin 10))
    (z : Zone) :
    timeAndOffset (Stamp.clockChars hour minute second ++
        (Stamp.fractionChars (ds.take 6) ++ z.spelledOut)) =
      some (⟨[hour.val, minute.val, second.val], Stamp.cutMicros ds, false⟩,
        some ⟨z.seconds * 1000000⟩) := by
  cases z with
  | utc => exact timeAndOffset_shiftChars hour minute second ds false 0 0
  | shifted behind hours minutes =>
    exact timeAndOffset_shiftChars hour minute second ds behind hours minutes

/-- A timestamp in full is read as its moment without what its fraction has behind six digits, if
this lies in the calendar. -/
theorem parse_text (s : Stamp) :
    parse s.text =
      match Instant.ofMicros? s.micros with
      | some t => .ok t
      | none => .error .leavesCalendar := by
  have hparts : parts? (normalise s.chars) =
      some (.calendar s.date.year s.date.month s.date.day,
        ⟨[s.hour.val, s.minute.val, s.second.val], Stamp.cutMicros s.fraction, false⟩,
        some ⟨s.zone.seconds * 1000000⟩) := by
    rw [normalise_chars, Stamp.frontChars, List.append_assoc, parts?,
      dateFront_dateChars s.inCalendar]
    simp only [List.cons_append, Option.bind_eq_bind, Option.bind_some, timeAndOffset_chars]
    rfl
  have hallowed : DateTime.offsetAllowed ⟨s.zone.seconds * 1000000⟩ = true := by
    have hday := s.zone.seconds_lt
    simp only [DateTime.offsetAllowed, Bool.and_eq_true, decide_eq_true_eq]
    omega
  have hmoment : ((s.date.dayNumber * dayLength + (((s.hour.val * 60 + s.minute.val) * 60 +
      s.second.val) * 1000000 + Stamp.cutMicros s.fraction) : Nat) : Int) -
        s.zone.seconds * 1000000 = s.micros := by
    simp only [Stamp.micros, Stamp.seconds, dayLength, second]
    push_cast
    ring
  rw [parse, Stamp.text, String.toList_ofList, read, hparts]
  simp only [calendarDate, bind, Except.bind, Option.getD_some, hallowed, Bool.not_true,
    Bool.false_eq_true, if_false]
  rw [← hmoment]
  exact DateTime.toInstant_eq s.inCalendar s.hour.isLt s.minute.isLt s.second.isLt
    (Stamp.cutMicros_lt s.fraction) _

/-- A field with a text is read from its text. -/
theorem ofField_str {text : String} (h : text ≠ "") :
    ofField (.str text) = (parse text).map some := by
  unfold ofField
  split
  · next hnull => cases hnull
  · next hempty => exact (h (Json.str.inj hempty)).elim
  · rfl

private theorem text_ne_empty (s : Stamp) : s.text ≠ "" := by
  intro h
  have hchars := congrArg String.toList h
  rw [Stamp.text, String.toList_ofList] at hchars
  simp [Stamp.chars, Stamp.frontChars] at hchars

/-- A moment of the calendar is read as the microsecond at or before it. -/
theorem ofField_text {s : Stamp} (hstart : 0 ≤ s.moment) (hend : s.moment < Instant.limit) :
    ∃ t, ofField (.str s.text) = .ok (some t) ∧ (t.micros : Int) = ⌊s.moment⌋ := by
  have hnonneg : 0 ≤ s.micros := by
    rw [← s.floor_moment]
    exact Int.floor_nonneg.mpr hstart
  have hbelow : s.micros < 315537897600000000 := by
    rw [← s.floor_moment, Int.floor_lt]
    exact_mod_cast hend
  refine ⟨⟨s.micros.toNat, by omega⟩, ?_, ?_⟩
  · rw [ofField_str (text_ne_empty s), parse_text, Instant.ofMicros?, dif_pos ⟨hnonneg, hbelow⟩]
    rfl
  · rw [s.floor_moment]
    exact Int.toNat_of_nonneg hnonneg

/-- A timestamp in full whose moment lies in the calendar is read as an instant not later than this
moment and less than a microsecond before it, and one that denotes no later moment is read as no
later instant. -/
theorem moment_cut_to_micros (s : Stamp) (h : 0 ≤ s.moment ∧ s.moment < Instant.limit) :
    ∃ t, ofField (.str s.text) = .ok (some t) ∧
      (t.micros : ℚ) ≤ s.moment ∧ s.moment < t.micros + 1 ∧
      ∀ earlier : Stamp, 0 ≤ earlier.moment → earlier.moment ≤ s.moment →
        ∃ u, ofField (.str earlier.text) = .ok (some u) ∧ u ≤ t := by
  obtain ⟨t, ht, hfloor⟩ := ofField_text h.1 h.2
  have hmicros : ((⌊s.moment⌋ : Int) : ℚ) = t.micros := by
    rw [← hfloor]
    rfl
  refine ⟨t, ht, ?_, ?_, fun earlier hstart hle => ?_⟩
  · rw [← hmicros]
    exact Int.floor_le s.moment
  · rw [← hmicros]
    exact Int.lt_floor_add_one s.moment
  · obtain ⟨u, hu, hcut⟩ := ofField_text hstart (lt_of_le_of_lt hle h.2)
    have hmono : ⌊earlier.moment⌋ ≤ ⌊s.moment⌋ := Int.floor_mono hle
    rw [← hfloor, ← hcut] at hmono
    exact ⟨u, hu, Int.ofNat_le.mp hmono⟩

/-- A leap day in the evening, at a place behind UTC where the next month has not begun. -/
def Sample.leapEvening : Stamp where
  date := ⟨2024, 2, 29⟩
  inCalendar := by decide
  hour := 23
  minute := 30
  second := 59
  fraction := [1, 2, 3, 4, 5, 6, 9, 9, 9]
  zone := .shifted true 0 45

/-- The statement in the evening of a leap day. -/
theorem moment_cut_to_micros_on_leap_day :
    (0 ≤ Sample.leapEvening.moment ∧ Sample.leapEvening.moment < Instant.limit) ∧
      ∃ t, ofField (.str Sample.leapEvening.text) = .ok (some t) ∧
        (t.micros : ℚ) ≤ Sample.leapEvening.moment ∧
        Sample.leapEvening.moment < t.micros + 1 ∧
        ∀ earlier : Stamp, 0 ≤ earlier.moment → earlier.moment ≤ Sample.leapEvening.moment →
          ∃ u, ofField (.str earlier.text) = .ok (some u) ∧ u ≤ t := by
  have hmoment : 0 ≤ Sample.leapEvening.moment ∧ Sample.leapEvening.moment < Instant.limit := by
    decide +kernel
  exact ⟨hmoment, moment_cut_to_micros Sample.leapEvening hmoment⟩

end Timestamp
end SecretSync.Time

import Mathlib.Data.List.TakeWhile
import SecretSync.Proofs.Time.Truncation

/-!
# Timestamps that are read back

An instant of a year with four digits is what its text denotes.  The years before have fewer
digits in the text, which a reader does not take; with zeros in front the text denotes the instant
there, too, so no two instants have the same text.  A fraction stands in the text only behind a
second that is not whole, and does not end with a zero.
-/

namespace SecretSync.Time

open Text (asciiDigit? decimalText digitChars)

/-- The year of an instant has four digits. -/
def Instant.InFourDigitYear (t : Instant) : Prop := 1000 ≤ t.date.year

/-- Whether a year has four digits can be decided. -/
instance (t : Instant) : Decidable t.InFourDigitYear := inferInstanceAs (Decidable (_ ≤ _))

namespace Timestamp

/-! ### The parts of a written instant -/

/-- The digits of a fraction are those of its microseconds, up to zeros at the end. -/
theorem decimalText_eq_fractionDigits (micros : Nat) :
    ∃ k, decimalText 6 micros = fractionDigits micros ++ List.replicate k '0' := by
  refine ⟨((decimalText 6 micros).reverse.takeWhile (· == '0')).length, ?_⟩
  have hzeros : (decimalText 6 micros).reverse.takeWhile (· == '0') =
      List.replicate ((decimalText 6 micros).reverse.takeWhile (· == '0')).length '0' := by
    rw [List.eq_replicate_iff]
    refine ⟨rfl, ?_⟩
    have hall := List.all_takeWhile (p := (· == '0')) (l := (decimalText 6 micros).reverse)
    rw [List.all_eq_true] at hall
    intro c hc
    exact eq_of_beq (hall c hc)
  rw [← List.reverse_inj, fractionDigits, List.reverse_append, List.reverse_reverse,
    List.reverse_replicate, ← hzeros, List.takeWhile_append_dropWhile]

/-- The digits of a fraction are at most six, and they tell its microseconds. -/
theorem exists_fraction {micros : Nat} (h : micros < 1000000) :
    ∃ ds, digitChars ds = fractionDigits micros ∧ ds.length ≤ 6 ∧ Stamp.cutMicros ds = micros := by
  obtain ⟨all, hall, hlength, hvalue⟩ := Text.mapM_decimalText 5 h
  obtain ⟨k, hk⟩ := decimalText_eq_fractionDigits micros
  have hdigits : ∀ c ∈ fractionDigits micros, (asciiDigit? c).isSome := fun c hc =>
    Text.digits_decimalText 6 micros c (hk ▸ List.mem_append_left _ hc)
  obtain ⟨ds, hds⟩ := Text.exists_digitChars hdigits
  have hzeros : List.replicate k '0' = digitChars (List.replicate k 0) := by
    rw [digitChars, List.map_replicate]
    rfl
  rw [hk, ← hds, hzeros, digitChars, digitChars, ← List.map_append, ← digitChars,
    Text.mapM_digitChars, Option.some.injEq] at hall
  subst hall
  rw [List.length_map, List.length_append, List.length_replicate] at hlength
  have hsix : ds.length ≤ 6 := by omega
  have hk : k = 6 - ds.length := by omega
  refine ⟨ds, hds, hsix, ?_⟩
  rw [Stamp.cutMicros, List.take_of_length_le hsix, ← hk, ← hvalue, List.map_append,
    List.map_replicate]
  rfl

/-- The digits of a fraction do not end with a zero. -/
theorem getLast?_fractionDigits (micros : Nat) : (fractionDigits micros).getLast? ≠ some '0' := by
  intro h
  rw [fractionDigits, List.getLast?_reverse, ← List.find?_not_eq_head?_dropWhile] at h
  exact absurd (List.find?_some h) (by decide)

/-- Only without microseconds there are no digits. -/
theorem fractionDigits_eq_nil_iff {micros : Nat} (h : micros < 1000000) :
    fractionDigits micros = [] ↔ micros = 0 := by
  constructor
  · intro hnil
    obtain ⟨ds, hds, -, hvalue⟩ := exists_fraction h
    rw [hnil] at hds
    rw [List.map_eq_nil_iff.mp hds] at hvalue
    exact hvalue.symm
  · rintro rfl
    decide

/-- The characters of a fraction of a second, with the point before them. -/
def pointChars (micros : Nat) : List Char :=
  if (fractionDigits micros).isEmpty then [] else '.' :: fractionDigits micros

private theorem fractionChars_eq {micros : Nat} {ds : List (Fin 10)}
    (h : digitChars ds = fractionDigits micros) : Stamp.fractionChars ds = pointChars micros := by
  rw [pointChars, ← h]
  cases ds <;> rfl

/-- What is written for an instant in front of its fraction. -/
def frontChars (t : Instant) : List Char :=
  decimalText 1 t.date.year ++ '-' :: (decimalText 2 t.date.month ++ '-' ::
    (decimalText 2 t.date.day ++ 'T' :: Stamp.clockChars (t.inDay / 1000000 / 3600)
      (t.inDay / 1000000 / 60 % 60) (t.inDay / 1000000 % 60)))

private theorem formatChars_eq (t : Instant) :
    formatChars t = frontChars t ++ pointChars (t.inDay % 1000000) ++ ['Z'] := by
  -- The numbers are kept apart: they must not be computed to see how the parts are joined.
  have hjoin : ∀ year month day hour minute second point : List Char,
      year ++ '-' :: month ++ '-' :: day ++ 'T' :: hour ++ ':' :: minute ++ ':' :: second ++
          point ++ ['Z'] =
        year ++ '-' :: (month ++ '-' :: (day ++ 'T' ::
          (hour ++ ':' :: (minute ++ ':' :: second)))) ++ point ++ ['Z'] := by
    intros
    simp
  exact hjoin _ _ _ _ _ _ _

/-- The zeros that the year of an instant lacks in its text. -/
def yearZeros (t : Instant) : List Char :=
  List.replicate (4 - (decimalText 1 t.date.year).length) '0'

/-- With four digits for the year, what is written for an instant is a timestamp in full that
denotes it. -/
theorem exists_stamp (t : Instant) :
    ∃ s : Stamp, s.chars = yearZeros t ++ formatChars t ∧ s.micros = t.micros := by
  obtain ⟨hnumber, hvalid⟩ := t.date_spec
  have hinDay := t.inDay_lt
  obtain ⟨ds, hds, -, hcut⟩ := exists_fraction (Nat.mod_lt t.inDay (by decide : 0 < 1000000))
  refine ⟨⟨t.date, hvalid, ⟨t.inDay / 1000000 / 3600, by omega⟩,
    ⟨t.inDay / 1000000 / 60 % 60, by omega⟩, ⟨t.inDay / 1000000 % 60, by omega⟩, ds, .utc⟩, ?_, ?_⟩
  · have hfront : Stamp.dateChars t.date ++ 'T' :: Stamp.clockChars (t.inDay / 1000000 / 3600)
        (t.inDay / 1000000 / 60 % 60) (t.inDay / 1000000 % 60) = yearZeros t ++ frontChars t := by
      rw [Stamp.dateChars, Text.decimalText_pad 4, ← yearZeros, frontChars, List.append_assoc,
        List.append_assoc, List.cons_append, List.append_assoc, List.cons_append]
    rw [Stamp.chars, Stamp.frontChars, hfront, fractionChars_eq hds, Zone.chars, formatChars_eq,
      List.append_assoc, List.append_assoc]
  · have hday : t.micros / dayLength * dayLength + t.inDay = t.micros :=
      Nat.div_add_mod' t.micros dayLength
    rw [dayLength, second] at hday hnumber
    simp only [Stamp.micros, Stamp.seconds, Zone.seconds, hcut, hnumber]
    omega

/-- The text of an instant with four digits for the year denotes it. -/
theorem parse_yearZeros (t : Instant) :
    parse (String.ofList (yearZeros t ++ formatChars t)) = .ok t := by
  obtain ⟨s, hchars, hmicros⟩ := exists_stamp t
  rw [← hchars, ← Stamp.text, parse_text, hmicros, Instant.ofMicros?_micros]

/-- An instant of a year with four digits is read back from its text. -/
theorem parse_format {t : Instant} (h : t.InFourDigitYear) : parse (format t) = .ok t := by
  have hfour : 4 ≤ (decimalText 1 t.date.year).length := by
    by_contra hless
    have hbelow := (Text.length_decimalText_le_iff (by decide : 0 < 3) t.date.year).mp (by omega)
    exact absurd h (Nat.not_le.mpr hbelow)
  have hzeros : yearZeros t = [] := by
    rw [yearZeros, Nat.sub_eq_zero_of_le hfour]
    rfl
  have hparse := parse_yearZeros t
  rwa [hzeros, List.nil_append] at hparse

/-! ### Years of fewer digits -/

private theorem fourDigits_short {cs : List Char} (h : cs.length < 4) (rest : List Char) :
    fourDigits (cs ++ '-' :: rest) = none := by
  have hdash : asciiDigit? '-' = none := rfl
  match cs, h with
  | [], _ => simp [fourDigits, twoDigits, oneDigit, hdash]
  | [a], _ => cases ha : asciiDigit? a <;> simp [fourDigits, twoDigits, oneDigit, hdash, ha]
  | [a, b], _ =>
    cases ha : asciiDigit? a <;> cases hb : asciiDigit? b <;>
      simp [fourDigits, twoDigits, oneDigit, hdash, ha, hb]
  | [a, b, c], _ =>
    cases ha : asciiDigit? a <;> cases hb : asciiDigit? b <;> cases hc : asciiDigit? c <;>
      simp [fourDigits, twoDigits, oneDigit, hdash, ha, hb, hc]

/-- A written instant begins with its year and a hyphen. -/
theorem exists_behind_year (t : Instant) :
    ∃ rest, formatChars t = decimalText 1 t.date.year ++ '-' :: rest := by
  rw [formatChars_eq, frontChars, List.append_assoc, List.append_assoc, List.cons_append]
  exact ⟨_, rfl⟩

/-- The text of an instant of a year with fewer than four digits has no form that is read. -/
theorem parse_format_of_short {t : Instant} (h : ¬ t.InFourDigitYear) :
    parse (format t) = .error (.malformed (String.ofList (normalise (formatChars t)))) := by
  have hyear : t.date.year < 1000 := Nat.not_le.mp h
  have hshort : (decimalText 1 t.date.year).length < 4 :=
    Nat.lt_succ_of_le ((Text.length_decimalText_le_iff (by decide : 0 < 3) _).mpr hyear)
  obtain ⟨rest, hrest⟩ := exists_behind_year t
  have hfront : normalise (formatChars t) =
      decimalText 1 t.date.year ++ '-' :: normalise rest := by
    have hZ : 'Z' ∉ decimalText 1 t.date.year ++ ['-'] := by
      simp [Text.not_mem_decimalText (by rfl : asciiDigit? 'Z' = none)]
    have hpoint : '.' ∉ decimalText 1 t.date.year ++ ['-'] := by
      simp [Text.not_mem_decimalText (by rfl : asciiDigit? '.' = none)]
    have happend := normalise_append hZ hpoint rest
    rwa [List.append_assoc, List.append_assoc, List.singleton_append, List.singleton_append,
      ← hrest] at happend
  have hparts : parts? (normalise (formatChars t)) = none := by
    rw [hfront, parts?, dateFront, fourDigits_short hshort]
    rfl
  rw [parse, format, String.toList_ofList, read, hparts]

/-! ### One text for each instant -/

/-- The characters in front of the first hyphen of a written instant are those of its year. -/
theorem takeWhile_formatChars (t : Instant) :
    (formatChars t).takeWhile (· ≠ '-') = decimalText 1 t.date.year := by
  obtain ⟨rest, hrest⟩ := exists_behind_year t
  have hyear : ∀ c ∈ decimalText 1 t.date.year, decide (c ≠ '-') = true := by
    intro c hc
    refine decide_eq_true (fun hdash => ?_)
    exact Text.not_mem_decimalText (by rfl : asciiDigit? '-' = none) _ _ (hdash ▸ hc)
  rw [hrest, List.takeWhile_append_of_pos hyear, List.takeWhile_cons_of_neg (by decide),
    List.append_nil]

/-- No two instants have the same text. -/
theorem format_injective {t u : Instant} (h : format t = format u) : t = u := by
  have hchars : formatChars t = formatChars u := String.ofList_inj.mp h
  have hyear : decimalText 1 t.date.year = decimalText 1 u.date.year := by
    rw [← takeWhile_formatChars, hchars, takeWhile_formatChars]
  have hread := parse_yearZeros t
  rw [yearZeros, hyear, hchars, ← yearZeros, parse_yearZeros] at hread
  exact (Except.ok.inj hread).symm

private theorem format_inj {t u : Instant} : format t = format u ↔ t = u :=
  ⟨format_injective, congrArg format⟩

/-! ### Moments written and read back -/

/-- A written instant is not empty. -/
theorem format_ne_empty (t : Instant) : format t ≠ "" := by
  intro h
  have hchars := congrArg String.toList h
  rw [format, String.toList_ofList, formatChars_eq] at hchars
  simp at hchars

/-- A written instant is read back from a field if its year has four digits, and else refused. -/
theorem ofField_format (t : Instant) :
    ofField (.str (format t)) =
      if t.InFourDigitYear then .ok (some t)
      else .error (.malformed (String.ofList (normalise (format t).toList))) := by
  rw [ofField_str (format_ne_empty t)]
  split
  · next h =>
    rw [parse_format h]
    rfl
  · next h =>
    rw [parse_format_of_short h, format, String.toList_ofList]
    rfl

/-- The text of a date with a time of day at a place with an offset from UTC. -/
def written (v : DateTime) (offset : Duration) : Except TimeError String :=
  (v.toInstant offset).map format

private theorem written_eq_ok_iff {v : DateTime} {offset : Duration} {t : Instant} :
    written v offset = .ok (format t) ↔ v.toInstant offset = .ok t := by
  rw [written]
  cases v.toInstant offset with
  | error e => exact iff_of_false (fun h => nomatch h) (fun h => nomatch h)
  | ok u =>
    change Except.ok (format u) = .ok (format t) ↔ _
    rw [Except.ok.injEq, Except.ok.injEq, format_inj]

/-- What stands in front of the fraction of a written instant, and the digits of the fraction. -/
structure Laid (t : Instant) (text : String) (front digits : List Char) : Prop where
  chars : text.toList = front ++ (if digits.isEmpty then [] else '.' :: digits) ++ ['Z']
  /-- The point before the digits is the only one. -/
  onePoint : '.' ∉ front
  decimal : ∀ c ∈ digits, (asciiDigit? c).isSome
  short : digits.length ≤ 6
  trimmed : digits.getLast? ≠ some '0'
  /-- There is no fraction exactly behind whole seconds. -/
  whole : digits = [] ↔ t.micros % 1000000 = 0

private theorem laid_format (t : Instant) :
    Laid t (format t) (frontChars t) (fractionDigits (t.inDay % 1000000)) := by
  have hmicros : t.inDay % 1000000 < 1000000 := Nat.mod_lt _ (by decide)
  have hsecond : t.inDay % 1000000 = t.micros % 1000000 :=
    Nat.mod_mod_of_dvd t.micros (by decide : 1000000 ∣ dayLength)
  obtain ⟨ds, hds, hshort, -⟩ := exists_fraction hmicros
  constructor
  case chars => rw [format, String.toList_ofList, formatChars_eq, pointChars]
  case onePoint =>
    simp [frontChars, Stamp.clockChars, Text.not_mem_decimalText (by rfl : asciiDigit? '.' = none)]
  case decimal =>
    rw [← hds]
    exact asciiDigit?_digitChars ds
  case short => rwa [← hds, digitChars, List.length_map]
  case trimmed => exact getLast?_fractionDigits _
  case whole => rw [fractionDigits_eq_nil_iff hmicros, hsecond]

/-- A date with a time of day whose moment lies in the calendar is written with a trimmed fraction
in UTC.  The text is that of the same moments only, and it is read back as the moment if its year in
UTC has four digits; else it has no form that is read, which is no error of size. -/
theorem moment_read_back {v : DateTime} {offset : Duration} {t : Instant}
    (h : v.toInstant offset = .ok t) :
    ∃ text, written v offset = .ok text ∧
      (t.InFourDigitYear → ofField (.str text) = .ok (some t)) ∧
      (¬ t.InFourDigitYear → ∃ e : TimeError, ofField (.str text) = .error e ∧
        e = .malformed (String.ofList (normalise text.toList)) ∧ e.isOverflow = false) ∧
      (∃ front digits, Laid t text front digits) ∧
      ∀ v' offset', written v' offset' = .ok text ↔ v'.toInstant offset' = .ok t := by
  refine ⟨format t, written_eq_ok_iff.mpr h, fun hyear => ?_, fun hyear => ?_,
    ⟨_, _, laid_format t⟩, fun v' offset' => written_eq_ok_iff⟩
  · rw [ofField_format, if_pos hyear]
  · exact ⟨_, by rw [ofField_format, if_neg hyear], rfl, rfl⟩

/-- A quarter past midnight on the first of March of a leap year. -/
def Sample.marchNight : DateTime := ⟨2024, 3, 1, 0, 15, 0, 250000⟩

/-- The same moment, if the place lies three quarters of an hour ahead of UTC, where it is still the
leap day. -/
def Sample.leapNight : Instant := ⟨63844846200250000, by decide⟩

/-- The statement in the night to the first of March, three quarters of an hour off. -/
theorem moment_read_back_over_leap_day :
    Sample.marchNight.toInstant ⟨2700000000⟩ = .ok Sample.leapNight ∧
      ∃ text, written Sample.marchNight ⟨2700000000⟩ = .ok text ∧
        (Sample.leapNight.InFourDigitYear → ofField (.str text) = .ok (some Sample.leapNight)) ∧
        (¬ Sample.leapNight.InFourDigitYear → ∃ e : TimeError, ofField (.str text) = .error e ∧
          e = .malformed (String.ofList (normalise text.toList)) ∧ e.isOverflow = false) ∧
        (∃ front digits, Laid Sample.leapNight text front digits) ∧
        ∀ v' offset', written v' offset' = .ok text ↔
          v'.toInstant offset' = .ok Sample.leapNight := by
  have h : Sample.marchNight.toInstant ⟨2700000000⟩ = .ok Sample.leapNight := by decide +kernel
  exact ⟨h, moment_read_back h⟩

end Timestamp
end SecretSync.Time

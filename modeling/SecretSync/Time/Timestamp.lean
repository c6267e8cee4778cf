import SecretSync.Json.Basic
import SecretSync.Time.DateTime

/-!
# Timestamps

`format` writes an instant in UTC as `2024-05-01T12:00:00.25Z`: the year without leading zeros,
the fraction without trailing zeros and left out when it is zero.  `parse` reads a date, in
calendar or in week form, and perhaps a time and an offset from UTC; fractions are cut off
behind six digits.
-/

namespace SecretSync.Time

open Text (asciiDigit? decimalText)

namespace Timestamp

/-- The digits of a fraction of a second without trailing zeros. -/
def fractionDigits (micros : Nat) : List Char :=
  ((decimalText 6 micros).reverse.dropWhile (· == '0')).reverse

/-- The characters of an instant. -/
def formatChars (t : Instant) : List Char :=
  let date := t.date
  let seconds := t.inDay / 1000000
  let fraction := fractionDigits (t.inDay % 1000000)
  decimalText 1 date.year ++ '-' :: decimalText 2 date.month ++ '-' :: decimalText 2 date.day ++
    'T' :: decimalText 2 (seconds / 3600) ++ ':' :: decimalText 2 (seconds / 60 % 60) ++
    ':' :: decimalText 2 (seconds % 60) ++
    (if fraction.isEmpty then [] else '.' :: fraction) ++ ['Z']

/-- The text of an instant. -/
def format (t : Instant) : String := String.ofList (formatChars t)

/-- Whether a character is a decimal digit of any script. -/
def isDigit (c : Char) : Bool := (Text.digitValue? c).isSome

/-- Fractions cut off behind six digits, wherever a point and six digits stand. -/
def cutFractions : List Char → List Char
  | [] => []
  | c :: rest =>
    if c = '.' ∧ (rest.take 6).length = 6 ∧ (rest.take 6).all isDigit then
      '.' :: rest.take 6 ++ cutFractions ((rest.drop 6).dropWhile isDigit)
    else c :: cutFractions rest
termination_by cs => cs.length
decreasing_by
  · have h := (List.dropWhile_sublist isDigit (l := rest.drop 6)).length_le
    simp only [List.length_drop, List.length_cons] at h ⊢; omega
  · simp

/-- The letter for UTC replaced by the offset zero. -/
def expandZulu (cs : List Char) : List Char :=
  cs.flatMap (fun c => if c = 'Z' then "+00:00".toList else [c])

/-- A text in the form that is read: no letter for UTC, no fraction beyond six digits. -/
def normalise (cs : List Char) : List Char := cutFractions (expandZulu cs)

/-- The number of a digit, and what is left. -/
def oneDigit : List Char → Option (Nat × List Char)
  | [] => none
  | c :: rest => (asciiDigit? c).map (·, rest)

/-- The number of two digits, and what is left. -/
def twoDigits (cs : List Char) : Option (Nat × List Char) := do
  let (a, cs) ← oneDigit cs
  let (b, cs) ← oneDigit cs
  return (a * 10 + b, cs)

/-- The number of four digits, and what is left. -/
def fourDigits (cs : List Char) : Option (Nat × List Char) := do
  let (a, cs) ← twoDigits cs
  let (b, cs) ← twoDigits cs
  return (a * 100 + b, cs)

/-- A date as it is written. -/
inductive WrittenDate where
  | calendar (year month day : Nat)
  | week (year week day : Nat)
  deriving DecidableEq, Repr

/-- Whether the first of some characters is an ASCII digit. -/
def startsWithDigit : List Char → Bool
  | [] => false
  | c :: _ => (asciiDigit? c).isSome

/-- The day of a week that is written with hyphens; without one the day is the first.  A hyphen
that three characters later is still followed by a digit stands before a time and not before a
day. -/
def hyphenWeekDay (year week : Nat) (cs : List Char) : Option (WrittenDate × List Char) :=
  match cs with
  | '-' :: rest =>
    if startsWithDigit (rest.drop 1) then some (.week year week 1, cs)
    else (oneDigit rest).map (fun p => (.week year week p.1, p.2))
  | _ => some (.week year week 1, cs)

/-- The day of a week that is written without hyphens: there is one if a single digit follows or
an even number of them. -/
def plainWeekDay (year week : Nat) (cs : List Char) : Option (WrittenDate × List Char) :=
  let digits := (cs.takeWhile (fun c => (asciiDigit? c).isSome)).length
  if digits = 1 ∨ (digits ≠ 0 ∧ digits % 2 = 0) then
    (oneDigit cs).map (fun p => (.week year week p.1, p.2))
  else some (.week year week 1, cs)

/-- The date at the front of a text, and what is left. -/
def dateFront (cs : List Char) : Option (WrittenDate × List Char) := do
  let (year, cs) ← fourDigits cs
  match cs with
  | '-' :: 'W' :: rest =>
    let (week, rest) ← twoDigits rest
    hyphenWeekDay year week rest
  | '-' :: rest =>
    let (month, rest) ← twoDigits rest
    match rest with
    | '-' :: rest =>
      let (day, rest) ← twoDigits rest
      return (.calendar year month day, rest)
    | _ => none
  | 'W' :: rest =>
    let (week, rest) ← twoDigits rest
    plainWeekDay year week rest
  | rest =>
    let (month, rest) ← twoDigits rest
    let (day, rest) ← twoDigits rest
    return (.calendar year month day, rest)

/-- Two-digit numbers of a time, its microseconds, and whether something unread stands behind. -/
structure WrittenTime where
  fields : List Nat
  micros : Nat
  stray : Bool
  deriving DecidableEq, Repr

/-- A field in front of others. -/
def WrittenTime.cons (field : Nat) (t : WrittenTime) : WrittenTime :=
  { t with fields := field :: t.fields }

/-- One of the numbers, zero if it is not written. -/
def WrittenTime.field (t : WrittenTime) (i : Nat) : Nat := t.fields.getD i 0

/-- Whether something other than digits stands in a text; a NUL character ends the text. -/
def strayBehindDigits (cs : List Char) : Bool :=
  match cs.dropWhile (fun c => (asciiDigit? c).isSome) with
  | [] => false
  | c :: _ => c != '\x00'

/-- A fraction of a second: at most six digits count. -/
def fraction (cs : List Char) : Option WrittenTime :=
  ((cs.take 6).mapM asciiDigit?).map (fun ds =>
    let micros := Text.ofDigitValues 10 (ds ++ List.replicate (6 - ds.length) 0)
    ⟨[], micros, strayBehindDigits (cs.drop 6)⟩)

/-- Whether a character is one octet long. -/
def isAscii (c : Char) : Bool := c.toNat < 128

/-- Up to `n` more numbers of a time and its fraction.  Whether colons separate them is decided
behind the first one. -/
def timeFrom : Nat → Option Bool → List Char → Option WrittenTime
  | 0, _, cs => fraction cs
  | n + 1, colons, cs =>
    match twoDigits cs with
    | none => none
    | some (v, []) => some ⟨[v], 0, false⟩
    | some (v, c :: rest) =>
      if rest.isEmpty ∧ isAscii c then some ⟨[v], 0, c != '\x00'⟩
      else
        let colons := colons.getD (c == ':')
        if colons ∧ c = ':' then (timeFrom n (some colons) rest).map (WrittenTime.cons v)
        else if c = '.' ∨ c = ',' then (fraction rest).map (WrittenTime.cons v)
        else if colons then none
        else (timeFrom n (some colons) (c :: rest)).map (WrittenTime.cons v)

/-- Whether a character is the sign of an offset. -/
def isSign (c : Char) : Bool := c == '+' || c == '-'

/-- A time of day and its offset from UTC, if one is written. -/
def timeAndOffset (cs : List Char) : Option (WrittenTime × Option Duration) := do
  let time ← timeFrom 3 none (cs.takeWhile (fun c => !isSign c))
  match cs.dropWhile (fun c => !isSign c) with
  | [] => if time.stray then none else return (time, none)
  | sign :: rest =>
    let offset ← timeFrom 3 none rest
    if offset.stray then none
    else
      let seconds : Int := offset.field 0 * 3600 + offset.field 1 * 60 + offset.field 2
      let size : Int := if seconds = 0 then 0 else seconds * 1000000 + offset.micros
      return (time, some ⟨if sign = '-' then -size else size⟩)

/-- The year, month and day of a written date; the weeks of year 0 lie before every month. -/
def calendarDate (text : String) : WrittenDate → Except TimeError (Int × Int × Int)
  | .calendar year month day => .ok (year, month, day)
  | .week year number day =>
    if number = 0 ∨ (if year = 0 then 52 else weeksInYear year) < number ∨ day = 0 ∨ 7 < day then
      .error (.malformed text)
    else if year = 0 then .ok (1, 0, 0)
    else
      let date := Date.ofDayNumber (firstMonday year + (number - 1) * 7 + (day - 1))
      .ok (date.year, date.month, date.day)

/-- A date and what stands behind it: nothing, or any one character and a time. -/
def parts? (cs : List Char) : Option (WrittenDate × WrittenTime × Option Duration) := do
  let (date, rest) ← dateFront cs
  match rest with
  | [] => return (date, ⟨[], 0, false⟩, none)
  | _ :: rest =>
    let (time, offset) ← timeAndOffset rest
    return (date, time, offset)

/-- The instant that a normalised text denotes; without an offset the time is in UTC. -/
def read (cs : List Char) : Except TimeError Instant :=
  let text := String.ofList cs
  match parts? cs with
  | none => .error (.malformed text)
  | some (date, time, offset) => do
    let (year, month, day) ← calendarDate text date
    let offset := offset.getD Duration.zero
    if !DateTime.offsetAllowed offset then .error (.offsetOutOfRange offset)
    else
      DateTime.toInstant
        ⟨year, month, day, time.field 0, time.field 1, time.field 2, time.micros⟩ offset

/-- The instant that a text denotes. -/
def parse (text : String) : Except TimeError Instant := read (normalise text.toList)

/-- The instant of a timestamp field: nothing for null and for empty text, else by its plain
text. -/
def ofField (value : Json) : Except TimeError (Option Instant) :=
  match value with
  | .null => .ok none
  | .str "" => .ok none
  | value => (parse value.plain).map some

end Timestamp
end SecretSync.Time

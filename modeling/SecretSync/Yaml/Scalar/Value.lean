import SecretSync.Number.Decimal
import SecretSync.Text.Base64
import SecretSync.Text.LowerCase
import SecretSync.Yaml.Fault
import SecretSync.Yaml.Tag
import SecretSync.Yaml.Value

/-!
# Values of scalars

The kind of a scalar is given by its tag, or was told from its text.  Integers and floating point
numbers may have underscores and may be written to the base sixty, as times are.
-/

namespace SecretSync.Yaml

/-- The parts of a text between separators. -/
def splitAt (separator : Char) : List Char → List (List Char)
  | [] => [[]]
  | c :: rest =>
    if c = separator then [] :: splitAt separator rest
    else
      match splitAt separator rest with
      | part :: parts => (c :: part) :: parts
      | [] => [[c]]

namespace Scalar

/-- A number without underscores, and its sign; none if there is nothing at all. -/
def signed? (cs : List Char) : Option (Bool × List Char) :=
  match cs.filter (· != '_') with
  | [] => none
  | '-' :: rest => some (true, rest)
  | '+' :: rest => some (false, rest)
  | rest => some (false, rest)

/-- The integer that a text spells in a base. -/
def inBase (base : Nat) (cs : List Char) : Except Fault Int :=
  (Text.Integer.ofText base (String.ofList cs)).mapError .noInteger

/-- An integer without its sign: the digits in front tell the base. -/
def magnitude (cs : List Char) : Except Fault Int :=
  match cs with
  | [] => .error .emptyNumber
  | ['0'] => .ok 0
  | '0' :: 'b' :: rest => inBase 2 rest
  | '0' :: 'x' :: rest => inBase 16 rest
  | '0' :: _ => inBase 8 cs
  | _ =>
    if cs.contains ':' then do
      let parts ← (splitAt ':' cs).mapM (inBase 10)
      return parts.foldl (fun acc n => acc * 60 + n) 0
    else inBase 10 cs

/-- An integer. -/
def integer (s : String) : Except Fault Int :=
  match signed? s.toList with
  | none => .error .emptyNumber
  | some (negative, cs) => (magnitude cs).map (fun n => if negative then -n else n)

/-- The floating point number that a text spells. -/
def decimal (cs : List Char) : Except Fault Number.Binary64 :=
  match Number.Decimal.ofText? (String.ofList cs) with
  | some x => .ok x
  | none => .error (.noReal (String.ofList cs))

/-- The sum of parts to the base sixty, the last part first, from a sum and a power of sixty on.
Every step is rounded. -/
def sixtieths (sum : Number.Binary64) (power : Nat) :
    List Number.Binary64 → Except Fault Number.Binary64
  | [] => .ok sum
  | x :: rest =>
    let unit := Number.Binary64.ofRatio false power 1
    if unit.isFinite then sixtieths (sum.add (x.mul unit)) (power * 60) rest
    else .error .tooLarge

/-- A floating point number. -/
def real (s : String) : Except Fault Number.Binary64 :=
  match signed? (Text.lowerCase s.toList) with
  | none => .error .emptyNumber
  | some (negative, cs) => do
    let x ←
      if cs = ".inf".toList then pure (.infinite false)
      else if cs = ".nan".toList then return .notANumber
      else if cs.contains ':' then
        sixtieths (.finite false 0 0) 1 (← (splitAt ':' cs).mapM decimal).reverse
      else decimal cs
    return if negative then x.neg else x

/-- A truth value. -/
def boolean (s : String) : Except Fault Bool :=
  let word := String.ofList (Text.lowerCase s.toList)
  if ["yes", "true", "on"].contains word then .ok true
  else if ["no", "false", "off"].contains word then .ok false
  else .error (.noBoolean word)

/-- One or two digits, and the text behind them. -/
def shortNumber? (cs : List Char) : Option (Int × List Char) :=
  let ds := (cs.take 2).takeWhile (fun c => (Text.asciiDigit? c).isSome)
  if ds.isEmpty then none
  else some (Text.ofDigitValues 10 (ds.filterMap Text.asciiDigit?), cs.drop ds.length)

/-- Exactly so many digits, and the text behind them. -/
def fixedNumber? (width : Nat) (cs : List Char) : Option (Int × List Char) := do
  let ds ← (cs.take width).mapM Text.asciiDigit?
  if ds.length = width then some (Text.ofDigitValues 10 ds, cs.drop width) else none

/-- The text behind a character. -/
def behind? (c : Char) : List Char → Option (List Char)
  | d :: rest => if d = c then some rest else none
  | [] => none

/-- A date, and the text behind it. -/
def datePart? (cs : List Char) : Option ((Int × Int × Int) × List Char) := do
  let (year, rest) ← fixedNumber? 4 cs
  let (month, rest) ← shortNumber? (← behind? '-' rest)
  let (day, rest) ← shortNumber? (← behind? '-' rest)
  return ((year, month, day), rest)

/-- The text behind what separates a time of day from its date. -/
def behindSeparator? (cs : List Char) : Option (List Char) :=
  match cs with
  | 'T' :: rest => some rest
  | 't' :: rest => some rest
  | c :: rest =>
    if c = ' ' ∨ c = '\t' then some (rest.dropWhile (fun c => c == ' ' || c == '\t')) else none
  | [] => none

/-- Microseconds of a fraction, and the text behind it; zero if there is no fraction. -/
def fraction (cs : List Char) : Int × List Char :=
  match cs with
  | '.' :: rest =>
    let ds := (rest.takeWhile (fun c => (Text.asciiDigit? c).isSome)).filterMap Text.asciiDigit?
    let six := ds.take 6
    (Text.ofDigitValues 10 (six ++ List.replicate (6 - six.length) 0), rest.drop ds.length)
  | rest => (0, rest)

/-- An offset from UTC that is all that is left; none if nothing is. -/
def offset? (cs : List Char) : Option (Option Time.Duration) :=
  match cs with
  | [] => some none
  | _ =>
    match cs.dropWhile (fun c => c == ' ' || c == '\t') with
    | ['Z'] => some (some Time.Duration.zero)
    | sign :: rest =>
      if sign = '+' ∨ sign = '-' then do
        let (hours, rest) ← shortNumber? rest
        let minutes ← match rest with
          | [] => some 0
          | _ => do
            let (minutes, rest) ← fixedNumber? 2 (← behind? ':' rest)
            if rest.isEmpty then some minutes else none
        let micros := (hours * 60 + minutes) * 60000000
        return some ⟨if sign = '-' then -micros else micros⟩
      else none
    | [] => none

/-- The time of day and the offset from UTC that stand behind a date. -/
def timePart? (date : Int × Int × Int) (cs : List Char) :
    Option (Time.DateTime × Option Time.Duration) := do
  let (hour, rest) ← shortNumber? (← behindSeparator? cs)
  let (minute, rest) ← fixedNumber? 2 (← behind? ':' rest)
  let (second, rest) ← fixedNumber? 2 (← behind? ':' rest)
  let (micros, rest) := fraction rest
  return (⟨date.1, date.2.1, date.2.2, hour, minute, second, micros⟩, ← offset? rest)

/-- A date, if the calendar has it. -/
def dateValue (date : Int × Int × Int) : Except Fault Value :=
  let midnight : Time.DateTime := ⟨date.1, date.2.1, date.2.2, 0, 0, 0, 0⟩
  (midnight.date.map Value.date).mapError .badTimestamp

/-- A date with a time of day, if there is one; the offset is checked first. -/
def timeValue (t : Time.DateTime) (offset : Option Time.Duration) : Except Fault Value :=
  if !offset.all Time.DateTime.offsetAllowed then
    .error (.badTimestamp (.offsetOutOfRange (offset.getD Time.Duration.zero)))
  else (t.localMicros.map (fun _ => Value.timestamp t offset)).mapError .badTimestamp

/-- A date or a timestamp; a line feed behind it is passed over. -/
def timestamp (s : String) : Except Fault Value :=
  match datePart? (Tag.withoutLineFeed s.toList) with
  | none => .error .noTimestamp
  | some (date, []) => dateValue date
  | some (date, rest) =>
    match timePart? date rest with
    | none => .error .noTimestamp
    | some (t, offset) => timeValue t offset

/-- Octets written in base64. -/
def octets (s : String) : Except Fault Value :=
  ((Text.Base64.decode s).map Value.octets).mapError (fun _ => .malformed)

/-- The value of a scalar. -/
def value (tag : Tag) (s : String) : Except Fault Value :=
  match tag with
  | .null => .ok .null
  | .bool => (boolean s).map .bool
  | .int => (integer s).map .int
  | .real => (real s).map .real
  | .text => .ok (.text s)
  | .octets => octets s
  | .timestamp => timestamp s
  | _ => .error .malformed

end Scalar
end SecretSync.Yaml

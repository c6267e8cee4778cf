import SecretSync.Number.Binary64
import SecretSync.Text.Blank
import SecretSync.Text.Digit

/-!
# Decimal text of floating point numbers

A number is written with white space around it, a sign, digits of any script with a point
somewhere, and an exponent; or it is infinite or no number, in words.
-/

namespace SecretSync.Number.Decimal

/-- The values of the digits at the front, and the text behind them. -/
def digits : List Char → List Nat × List Char
  | [] => ([], [])
  | c :: rest =>
    match Text.digitValue? c with
    | none => ([], c :: rest)
    | some v =>
      let (vs, rest) := digits rest
      (v :: vs, rest)

/-- A sign, and the text behind it. -/
def sign : List Char → Bool × List Char
  | '-' :: rest => (true, rest)
  | '+' :: rest => (false, rest)
  | rest => (false, rest)

/-- An exponent that is all that is left; zero if nothing is. -/
def exponent? : List Char → Option Int
  | [] => some 0
  | c :: rest =>
    if c = 'e' ∨ c = 'E' then
      let (negative, rest) := sign rest
      match digits rest with
      | ([], _) => none
      | (vs, []) =>
        let n : Int := Text.ofDigitValues 10 vs
        some (if negative then -n else n)
      | _ => none
    else none

/-- The number that digits spell, with a point among them. -/
def unsigned? (negative : Bool) (cs : List Char) : Option Binary64 :=
  let (whole, rest) := digits cs
  let (fraction, rest) := match rest with
    | '.' :: rest => digits rest
    | rest => ([], rest)
  if whole.isEmpty && fraction.isEmpty then none
  else
    (exponent? rest).map (fun e =>
      Binary64.ofDecimal negative (Text.ofDigitValues 10 (whole ++ fraction)) (e - fraction.length))

/-- The number that a text spells. -/
def ofText? (s : String) : Option Binary64 :=
  let (negative, body) := sign (Text.trimBy Text.isWhiteSpace s.toList)
  let word := String.ofList (body.map Char.toLower)
  if word == "inf" || word == "infinity" then some (.infinite negative)
  else if word == "nan" then some .notANumber
  else unsigned? negative body

end SecretSync.Number.Decimal

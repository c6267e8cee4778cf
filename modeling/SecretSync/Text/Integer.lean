import SecretSync.Text.Blank
import SecretSync.Text.Digit
import SecretSync.Text.Quoted

/-!
# Integers as text

Two spellings are read.  A *setting* has white space around it, a sign, and digits of any script
with single underscores between them; it may be in another base than ten.  A *field* has white
space around it, a sign, ASCII digits with single underscores, leading zeros, and possibly a
fraction of zeros.
-/

namespace SecretSync.Text.Integer

/-- Digits separated by single underscores: the values of the digits. -/
def groupedDigits (digit? : Char → Option Nat) : List Char → Option (List Nat)
  | [] => none
  | [c] => (digit? c).map ([·])
  | c :: '_' :: d :: rest =>
    match digit? c, groupedDigits digit? (d :: rest) with
    | some v, some vs => some (v :: vs)
    | _, _ => none
  | c :: rest =>
    match digit? c, groupedDigits digit? rest with
    | some v, some vs => some (v :: vs)
    | _, _ => none

/-- The integer with a sign and a magnitude. -/
def signed (negative : Bool) (n : Nat) : Int := if negative then -(n : Int) else n

/-- Most digits that an integer may be spelled with. -/
def maxDigits : Nat := 4300

/-- Why a setting spells no integer. -/
inductive SettingFault where
  /-- The text has no spelling of an integer in the base. -/
  | malformed (base : Nat) (text : String)
  /-- The integer has more digits than are read. -/
  | tooLong (digits : Nat)
  deriving DecidableEq, Repr

/-- The text that refuses a setting; a long setting is shown in part. -/
def SettingFault.message : SettingFault → String
  | malformed base text => "invalid literal for int() with base " ++ toString base ++ ": " ++
      String.ofList ((quoted text).toList.take 200)
  | tooLong digits => "Exceeds the limit (" ++ toString maxDigits ++
      " digits) for integer string conversion: value has " ++ toString digits ++
      " digits; use sys.set_int_max_str_digits() to increase the limit"

/-- The value of a digit below a base; Latin letters follow the ten decimal digits. -/
def digitBelow? (base : Nat) (c : Char) : Option Nat :=
  let letter := if 'a' ≤ c ∧ c ≤ 'z' then some (c.toNat - 87)
    else if 'A' ≤ c ∧ c ≤ 'Z' then some (c.toNat - 55)
    else none
  ((digitValue? c).or letter).filter (· < base)

/-- The letter that marks a base behind a zero. -/
def baseMark? : Nat → Option Char
  | 2 => some 'b'
  | 8 => some 'o'
  | 16 => some 'x'
  | _ => none

/-- Digits without a mark of their base in front. -/
def dropBaseMark (base : Nat) (cs : List Char) : List Char :=
  match cs with
  | '0' :: mark :: rest =>
    if baseMark? base = some mark.toLower then
      match rest with
      | '_' :: rest => rest
      | rest => rest
    else cs
  | _ => cs

/-- The integer that a text spells in a base. -/
def ofText (base : Nat) (s : String) : Except SettingFault Int :=
  let (negative, body) := match trimBy isWhiteSpace s.toList with
    | '-' :: rest => (true, rest)
    | '+' :: rest => (false, rest)
    | rest => (false, rest)
  match groupedDigits (digitBelow? base) (dropBaseMark base body) with
  | none => .error (.malformed base s)
  | some ds =>
    if base = 10 ∧ maxDigits < ds.length then .error (.tooLong ds.length)
    else .ok (signed negative (ofDigitValues base ds))

/-- The integer that a setting spells. -/
def ofSetting (s : String) : Except SettingFault Int := ofText 10 s

/-- Why a field spells no integer. -/
inductive FieldFault where
  /-- The text has no spelling of an integer. -/
  | unparsable
  /-- The integer has more digits than are read. -/
  | tooLong
  deriving DecidableEq, Repr

/-- An integer without any decoration: a hyphen if it is negative, and digits without a leading
zero.  A sign and digits that are too many are told from the front, whatever comes behind them. -/
def ofPlain (cs : List Char) : Except FieldFault Int :=
  let (negative, body) := match cs with
    | '-' :: rest => (true, rest)
    | rest => (false, rest)
  let digits := (body.takeWhile (fun c => (asciiDigit? c).isSome)).filterMap asciiDigit?
  match digits with
  | [] => .error .unparsable
  | [0] => if body.length = 1 then .ok 0 else .error .unparsable
  | 0 :: _ => .error .unparsable
  | _ =>
    if maxDigits < digits.length + (if negative then 1 else 0) then .error .tooLong
    else if body.length = digits.length then .ok (signed negative (ofDigitValues 10 digits))
    else .error .unparsable

/-- Leading zeros removed, but not the only digit; `last` is the character dropped last.  A hyphen
ends the zeros. -/
def afterZeros (last : Char) : List Char → Option (List Char)
  | [] => some [last]
  | c :: rest =>
    if c = '0' ∨ c = '_' then afterZeros c rest
    else if c = '.' then some (last :: '.' :: rest)
    else if c = '-' ∨ (asciiDigit? c).isSome then some (c :: rest)
    else none

/-- Leading zeros of an unsigned field removed. -/
def dropLeadingZeros : List Char → Option (List Char)
  | [] => none
  | c :: rest =>
    if c = '0' then afterZeros '0' rest
    else if (asciiDigit? c).isSome then some (c :: rest)
    else none

/-- A fraction of zeros removed. -/
def dropZeroFraction (cs : List Char) : List Char :=
  match cs.dropWhile (· != '.') with
  | '.' :: '0' :: fraction =>
    if fraction.all (· == '0') then cs.takeWhile (· != '.') else cs
  | _ => cs

/-- Whether two underscores stand side by side. -/
def doubledUnderscore : List Char → Bool
  | '_' :: '_' :: _ => true
  | _ :: rest => doubledUnderscore rest
  | [] => false

/-- Underscores removed, if none stands at an end or beside another. -/
def dropUnderscores (cs : List Char) : List Char :=
  if cs.head? = some '_' ∨ cs.getLast? = some '_' ∨ doubledUnderscore cs then cs
  else cs.filter (· != '_')

/-- An unsigned field without its leading zeros, its fraction of zeros and its underscores. -/
def bareDigits (cs : List Char) : Option (List Char) :=
  (dropLeadingZeros cs).map (fun ds => dropUnderscores (dropZeroFraction ds))

/-- A field without its decoration.  The sign stands in front of the zeros. -/
def undecorated (cs : List Char) : Option (List Char) :=
  match trimBy isWhiteSpace cs with
  | '-' :: rest => (bareDigits rest).map ('-' :: ·)
  | '+' :: rest => bareDigits rest
  | rest => bareDigits rest

/-- The integer that a field spells. -/
def ofField (s : String) : Except FieldFault Int :=
  match ofPlain s.toList with
  | .error .unparsable =>
    match undecorated s.toList with
    | none => .error .unparsable
    | some cs => ofPlain cs
  | result => result

end SecretSync.Text.Integer

/-!
# Binary floating point numbers

A number of sixty-four bits is a mantissa below 2^53 times a power of two, or one of the
special values.  `ofDecimal` rounds a decimal to the nearest one, ties to the even mantissa;
`shortest` finds the fewest decimal digits that round back to the same number, and among those
the nearest.  All arithmetic is exact.
-/

namespace SecretSync.Number

/-- A binary floating point number of sixty-four bits. -/
inductive Binary64 where
  /-- The value `± mantissa · 2 ^ exponent`. -/
  | finite (negative : Bool) (mantissa : Nat) (exponent : Int)
  | infinite (negative : Bool)
  | notANumber
  deriving DecidableEq, Repr

namespace Binary64

/-- A power of two. -/
def twoTo (n : Nat) : Nat := Nat.pow 2 n

/-- A power of ten. -/
def tenTo (n : Nat) : Nat := Nat.pow 10 n

/-- Quotient rounded to the nearest number, a half to the even neighbour. -/
def roundHalfEven (num den : Nat) : Nat :=
  let q := num / den
  let twice := 2 * (num % den)
  if den < twice then q + 1
  else if den = twice then q + q % 2
  else q

/-- The fraction `num / den` divided by `2 ^ e`, as a fraction. -/
def scaleDown (num den : Nat) (e : Int) : Nat × Nat :=
  if 0 ≤ e then (num, den * twoTo e.toNat) else (num * twoTo (-e).toNat, den)

/-- The number nearest to a positive fraction. -/
def ofRatio (negative : Bool) (num den : Nat) : Binary64 :=
  if num = 0 then .finite negative 0 0
  else
    let guess : Int := (Nat.log2 num : Int) - (Nat.log2 den : Int) - 52
    -- The guess is exact or one too large.
    let (n, d) := scaleDown num den guess
    let e := max (if n < twoTo 52 * d then guess - 1 else guess) (-1074)
    let (n, d) := scaleDown num den e
    let q := roundHalfEven n d
    let (m, e) := if q = twoTo 53 then (twoTo 52, e + 1) else (q, e)
    if 971 < e then .infinite negative else .finite negative m e

/-- The number nearest to `± digits · 10 ^ exponent`. -/
def ofDecimal (negative : Bool) (digits : Nat) (exponent : Int) : Binary64 :=
  if digits = 0 then .finite negative 0 0
  else
    let size : Int := (Nat.toDigits 10 digits).length + exponent
    if 310 < size then .infinite negative
    else if size < -330 then .finite negative 0 0
    else if 0 ≤ exponent then ofRatio negative (digits * tenTo exponent.toNat) 1
    else ofRatio negative digits (tenTo (-exponent).toNat)

/-- The number nearest to a fraction with a sign. -/
def ofFraction (num : Int) (den : Nat) : Binary64 := ofRatio (num < 0) num.natAbs den

/-- A finite number as a fraction. -/
def toFraction? : Binary64 → Option (Int × Nat)
  | finite neg m e =>
    let num : Int := if neg then -m else m
    some (if 0 ≤ e then (num * twoTo e.toNat, 1) else (num, twoTo (-e).toNat))
  | _ => none

/-- The number with the other sign. -/
def neg : Binary64 → Binary64
  | finite neg m e => finite (!neg) m e
  | infinite neg => infinite (!neg)
  | notANumber => notANumber

/-- Whether the value is zero, of either sign. -/
def isZero : Binary64 → Bool
  | finite _ m _ => m == 0
  | _ => false

/-- Whether the sign is negative. -/
def isNegative : Binary64 → Bool
  | finite negative _ _ => negative
  | infinite negative => negative
  | notANumber => false

/-- The sum, rounded. -/
def add (a b : Binary64) : Binary64 :=
  match a, b with
  | notANumber, _ => notANumber
  | _, notANumber => notANumber
  | infinite s, infinite t => if s = t then infinite s else notANumber
  | infinite s, _ => infinite s
  | _, infinite t => infinite t
  | a, b =>
    match a.toFraction?, b.toFraction? with
    | some (n, d), some (k, f) => ofFraction (n * f + k * d) (d * f)
    | _, _ => notANumber

/-- The product, rounded. -/
def mul (a b : Binary64) : Binary64 :=
  match a, b with
  | notANumber, _ => notANumber
  | _, notANumber => notANumber
  | infinite s, b => if b.isZero then notANumber else infinite (s != b.isNegative)
  | a, infinite t => if a.isZero then notANumber else infinite (a.isNegative != t)
  | finite s m e, finite t k f =>
    if m = 0 ∨ k = 0 then finite (s != t) 0 0
    else
      let (num, den) := scaleDown (m * k) 1 (-(e + f))
      ofRatio (s != t) num den

/-- The number so many times, rounded. -/
def scale (n : Nat) (a : Binary64) : Binary64 :=
  match a.toFraction? with
  | some (k, d) => if k = 0 then a else ofFraction (k * n) d
  | none => if n = 0 then notANumber else a

/-- The value, if it is a whole number. -/
def toInt? : Binary64 → Option Int
  | finite neg m e =>
    let sign : Int := if neg then -1 else 1
    if 0 ≤ e then some (sign * (m * twoTo e.toNat : Nat))
    else if m % twoTo (-e).toNat = 0 then some (sign * (m / twoTo (-e).toNat : Nat))
    else none
  | _ => none

/-- The whole part of a finite number, the fraction cut off towards zero. -/
def wholePart? (x : Binary64) : Option Int := x.toFraction?.map (fun (n, d) => n.tdiv d)

/-- Whether a value has no fraction and is not infinite. -/
def isFinite : Binary64 → Bool
  | finite _ _ _ => true
  | _ => false

/-- The interval of values that round to `m · 2 ^ e`, with the value itself, all times four and
over one denominator: lower end, value, upper end, denominator. -/
def roundingInterval (m : Nat) (e : Int) : Nat × Nat × Nat × Nat :=
  let lower := if m = twoTo 52 ∧ -1074 < e then 4 * m - 1 else 4 * m - 2
  if 0 ≤ e then
    let f := twoTo e.toNat
    (lower * f, 4 * m * f, (4 * m + 2) * f, 4)
  else (lower, 4 * m, 4 * m + 2, 4 * twoTo (-e).toNat)

/-- Place of the first digit: the least `p` with `num / den < 10 ^ p`. -/
def decimalPlace (num den : Nat) : Int :=
  let guess : Int := ((Nat.log2 num : Int) - (Nat.log2 den : Int)) * 30103 / 100000
  let below (p : Int) : Bool :=
    if 0 ≤ p then decide (num < den * tenTo p.toNat) else decide (num * tenTo (-p).toNat < den)
  if below (guess - 1) then guess - 1
  else if below guess then guess
  else if below (guess + 1) then guess + 1
  else guess + 2

/-- Digits and exponent of the shortest decimal of a positive finite number: with so many digits
left to try, starting from `used`, test the two neighbours on the decimal grid. -/
def shortestFrom (lower value upper den : Nat) (closed : Bool) (place : Int) :
    Nat → Nat → Nat × Int
  | 0, used => (value / den, place - used)
  | left + 1, used =>
    let grid : Int := place - used
    let (gn, gd) : Nat × Nat := if 0 ≤ grid then (tenTo grid.toNat, 1) else (1, tenTo (-grid).toNat)
    -- Compare `c · gn / gd` with `x / den` as `c · gn · den` with `x · gd`.
    let unit := gn * den
    let v := value * gd
    let c := v / unit
    let inside (k : Nat) : Bool :=
      if closed then decide (lower * gd ≤ k * unit) && decide (k * unit ≤ upper * gd)
      else decide (lower * gd < k * unit) && decide (k * unit < upper * gd)
    match inside c, inside (c + 1) with
    | false, false => shortestFrom lower value upper den closed place left (used + 1)
    | true, false => (c, grid)
    | false, true => (c + 1, grid)
    | true, true =>
      let down := v - c * unit
      let up := (c + 1) * unit - v
      if down < up then (c, grid) else if up < down then (c + 1, grid) else (c + c % 2, grid)

/-- Digits and exponent of the shortest decimal that rounds to `m · 2 ^ e`. -/
def shortest (m : Nat) (e : Int) : Nat × Int :=
  let (lower, value, upper, den) := roundingInterval m e
  shortestFrom lower value upper den (m % 2 == 0) (decimalPlace value den) 17 1

/-- Digits without trailing zeros, and the place of the point relative to the first digit. -/
def significant (digits : Nat) (exponent : Int) : List Char × Int :=
  let ds := Nat.toDigits 10 digits
  (stripZeros ds, ds.length + exponent)
where
  stripZeros (ds : List Char) : List Char := (ds.reverse.dropWhile (· == '0')).reverse

/-- The digits around a point at `place`. -/
def positional (ds : List Char) (place : Int) : List Char :=
  if place ≤ 0 then '0' :: '.' :: List.replicate (-place).toNat '0' ++ ds
  else
    let p := place.toNat
    let whole := ds.take p ++ List.replicate (p - ds.length) '0'
    whole ++ '.' :: (if ds.length ≤ p then ['0'] else ds.drop p)

/-- One digit, a fraction if there are more, and an exponent of at least two digits. -/
def scientific (ds : List Char) (place : Int) : List Char :=
  let e := place - 1
  let ed := Nat.toDigits 10 e.natAbs
  ds.take 1 ++ (if 1 < ds.length then '.' :: ds.drop 1 else []) ++
    'e' :: (if e < 0 then '-' else '+') :: List.replicate (2 - ed.length) '0' ++ ed

/-- The shortest text that reads back as the number.  Values from 10^-4 to below 10^16 are
written positionally and always with a fraction. -/
def text : Binary64 → String
  | notANumber => "nan"
  | infinite neg => if neg then "-inf" else "inf"
  | finite neg m e =>
    let sign := if neg then ['-'] else []
    if m = 0 then String.ofList (sign ++ ['0', '.', '0'])
    else
      let (digits, exponent) := shortest m e
      let (ds, place) := significant digits exponent
      String.ofList (sign ++
        if -4 < place ∧ place ≤ 16 then positional ds place else scientific ds place)

end Binary64
end SecretSync.Number

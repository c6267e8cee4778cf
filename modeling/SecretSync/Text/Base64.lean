/-!
# Base64

`encode` writes three octets as four letters and pads the last group.  `decode` is lenient:
letters outside the alphabet are skipped, reading ends where a group is padded to its full
length, and padding anywhere else is skipped.
-/

namespace SecretSync.Text.Base64

/-- Why a text is no base64. -/
inductive DecodeError where
  /-- A character outside ASCII. -/
  | notAscii
  /-- The last group is short of padding. -/
  | incorrectPadding
  /-- The last group has a single letter; the count is that of all letters. -/
  | strayLetter (letters : Nat)
  deriving DecidableEq, Repr

/-- The text of a decoding error. -/
def DecodeError.message : DecodeError → String
  | notAscii => "string argument should contain only ASCII characters"
  | incorrectPadding => "Incorrect padding"
  | strayLetter n => "Invalid base64-encoded string: number of data characters (" ++ toString n ++
      ") cannot be 1 more than a multiple of 4"

/-- The letter for a value below sixty-four. -/
def letter (n : Nat) : Char :=
  if n < 26 then Char.ofNat (65 + n)
  else if n < 52 then Char.ofNat (71 + n)
  else if n < 62 then Char.ofNat (n - 4)
  else if n = 62 then '+' else '/'

/-- The value of a letter of the alphabet. -/
def value? (c : Char) : Option Nat :=
  if 'A' ≤ c ∧ c ≤ 'Z' then some (c.toNat - 65)
  else if 'a' ≤ c ∧ c ≤ 'z' then some (c.toNat - 71)
  else if '0' ≤ c ∧ c ≤ '9' then some (c.toNat + 4)
  else if c = '+' then some 62
  else if c = '/' then some 63
  else none

/-- The letters for a list of octets, last group padded. -/
def encodeChars : List UInt8 → List Char
  | [] => []
  | [a] => [letter (a.toNat / 4), letter (a.toNat % 4 * 16), '=', '=']
  | [a, b] => [letter (a.toNat / 4), letter (a.toNat % 4 * 16 + b.toNat / 16),
      letter (b.toNat % 16 * 4), '=']
  | a :: b :: c :: rest => letter (a.toNat / 4) :: letter (a.toNat % 4 * 16 + b.toNat / 16) ::
      letter (b.toNat % 16 * 4 + c.toNat / 64) :: letter (c.toNat % 64) :: encodeChars rest

/-- The base64 text of octets. -/
def encode (octets : List UInt8) : String := String.ofList (encodeChars octets)

/-- The letters of a group that have been read so far. -/
inductive Group where
  | zero
  | one (a : Nat)
  | two (a b : Nat)
  | three (a b c : Nat)
  deriving DecidableEq, Repr

namespace Group

/-- Number of letters read. -/
def size : Group → Nat
  | zero => 0
  | one _ => 1
  | two _ _ => 2
  | three _ _ _ => 3

/-- The whole octets that the letters of a group spell. -/
def octets : Group → List UInt8
  | zero => []
  | one _ => []
  | two a b => [UInt8.ofNat (a * 4 + b / 16)]
  | three a b c => [UInt8.ofNat (a * 4 + b / 16), UInt8.ofNat (b % 16 * 16 + c / 4)]

end Group

/-- The three octets of a full group. -/
def fullGroup (a b c d : Nat) : List UInt8 :=
  [UInt8.ofNat (a * 4 + b / 16), UInt8.ofNat (b % 16 * 16 + c / 4), UInt8.ofNat (c % 4 * 64 + d)]

/-- Read on in the middle of a text: `full` groups are complete, `g` is the current one and
`pads` counts the padding that directly precedes. -/
def decodeFrom (full : Nat) (g : Group) (pads : Nat) : List Char → Except DecodeError (List UInt8)
  | [] =>
    match g with
    | .zero => .ok []
    | .one _ => .error (.strayLetter (full * 4 + 1))
    | _ => .error .incorrectPadding
  | c :: rest =>
    if c = '=' then
      if 2 ≤ g.size then
        if 4 ≤ g.size + (pads + 1) then .ok g.octets else decodeFrom full g (pads + 1) rest
      else decodeFrom full g pads rest
    else
      match value? c with
      | none => decodeFrom full g pads rest
      | some v =>
        match g with
        | .zero => decodeFrom full (.one v) 0 rest
        | .one a => decodeFrom full (.two a v) 0 rest
        | .two a b => decodeFrom full (.three a b v) 0 rest
        | .three a b d => (decodeFrom (full + 1) .zero 0 rest).map (fullGroup a b d v ++ ·)

/-- The octets that a base64 text spells. -/
def decode (s : String) : Except DecodeError (List UInt8) :=
  if s.toList.all (fun c => c.toNat < 128) then decodeFrom 0 .zero 0 s.toList else .error .notAscii

end SecretSync.Text.Base64

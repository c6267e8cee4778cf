import SecretSync.Text.Digit
import SecretSync.Text.Half

/-!
# UTF-8

`encode` writes text as octets; `decode` reads octets back and refuses the first sequence
that is not the shortest form of a scalar value, saying where it stands and how far it goes.
`encode?` refuses text with halves of surrogate pairs in it, which stand for no scalar value.
-/

namespace SecretSync.Text.Utf8

/-- Why octets are no UTF-8 text. -/
inductive Fault where
  /-- The octet starts no sequence. -/
  | invalidStart
  /-- A sequence goes on with an octet that cannot follow. -/
  | invalidContinuation
  /-- The octets end inside a sequence. -/
  | unexpectedEnd
  deriving DecidableEq, Repr

/-- Where decoding stopped: the offending octets and the first one's value. -/
structure DecodeError where
  /-- What is wrong there. -/
  fault : Fault
  /-- Index of the first offending octet. -/
  position : Nat
  /-- Number of offending octets, at least one. -/
  span : Nat
  /-- Value of the first offending octet. -/
  octet : UInt8
  deriving DecidableEq, Repr

namespace Fault

/-- The words for a fault. -/
def reason : Fault → String
  | invalidStart => "invalid start byte"
  | invalidContinuation => "invalid continuation byte"
  | unexpectedEnd => "unexpected end of data"

end Fault

/-- The text of a decoding error. -/
def DecodeError.message (e : DecodeError) : String :=
  let octets :=
    if e.span = 1 then
      "byte 0x" ++ String.ofList (hexText 2 e.octet.toNat) ++ " in position " ++
        toString e.position
    else
      "bytes in position " ++ toString e.position ++ "-" ++ toString (e.position + e.span - 1)
  "'utf-8' codec can't decode " ++ octets ++ ": " ++ e.fault.reason

/-- The octets of a text. -/
def encode (s : String) : List UInt8 := s.toList.flatMap String.utf8EncodeChar

/-- Why a text cannot be encoded: halves of surrogate pairs stand in it. -/
structure EncodeError where
  /-- Index of the first half. -/
  position : Nat
  /-- Number of halves in a row there, at least one. -/
  span : Nat
  /-- The number of the first half. -/
  code : Nat
  deriving DecidableEq, Repr

/-- The text of an encoding error. -/
def EncodeError.message (e : EncodeError) : String :=
  let characters :=
    if e.span = 1 then
      "character '" ++ String.ofList (halfEscape e.code) ++ "' in position " ++
        toString e.position
    else
      "characters in position " ++ toString e.position ++ "-" ++
        toString (e.position + e.span - 1)
  "'utf-8' codec can't encode " ++ characters ++ ": surrogates not allowed"

/-- The first halves in a row, in characters that start at index `position` of the whole. -/
def halvesFrom? (position : Nat) : List Char → Option EncodeError
  | [] => none
  | c :: rest =>
    match halfCode? c with
    | some code => some ⟨position, (rest.takeWhile isHalf).length + 1, code⟩
    | none => halvesFrom? (position + 1) rest

/-- The octets of a text, if it has no halves in it. -/
def encode? (s : String) : Except EncodeError (List UInt8) :=
  match halvesFrom? 0 s.toList with
  | some error => .error error
  | none => .ok (encode s)

/-- Whether an octet is a continuation octet. -/
def isContinuation (b : UInt8) : Bool := 0x80 ≤ b && b ≤ 0xbf

/-- Whether `b` may come second after the lead octet `a` of a longer sequence: overlong forms,
surrogates and values above the last scalar are refused here. -/
def allowsSecond (a b : UInt8) : Bool :=
  isContinuation b &&
    (a != 0xe0 || 0xa0 ≤ b) && (a != 0xed || b < 0xa0) &&
    (a != 0xf0 || 0x90 ≤ b) && (a != 0xf4 || b < 0x90)

/-- Six payload bits of a continuation octet. -/
def payload (b : UInt8) : Nat := b.toNat % 64

/-- What stands at the front of a list of octets. -/
inductive Front where
  /-- A character, and the octets behind it. -/
  | char (c : Char) (rest : List UInt8)
  /-- A fault that spans so many octets. -/
  | fault (f : Fault) (span : Nat)

/-- Read one sequence whose lead octet is `a`. -/
def front (a : UInt8) (rest : List UInt8) : Front :=
  if a < 0x80 then .char (Char.ofNat a.toNat) rest
  else if a < 0xc2 then .fault .invalidStart 1
  else if a < 0xe0 then
    match rest with
    | [] => .fault .unexpectedEnd 1
    | b :: rest =>
      if isContinuation b then .char (Char.ofNat ((a.toNat % 32) * 64 + payload b)) rest
      else .fault .invalidContinuation 1
  else if a < 0xf0 then
    match rest with
    | [] => .fault .unexpectedEnd 1
    | b :: rest =>
      if !allowsSecond a b then .fault .invalidContinuation 1
      else match rest with
        | [] => .fault .unexpectedEnd 2
        | c :: rest =>
          if isContinuation c then
            .char (Char.ofNat ((a.toNat % 16) * 4096 + payload b * 64 + payload c)) rest
          else .fault .invalidContinuation 2
  else if a < 0xf5 then
    match rest with
    | [] => .fault .unexpectedEnd 1
    | b :: rest =>
      if !allowsSecond a b then .fault .invalidContinuation 1
      else match rest with
        | [] => .fault .unexpectedEnd 2
        | c :: rest =>
          if !isContinuation c then .fault .invalidContinuation 2
          else match rest with
            | [] => .fault .unexpectedEnd 3
            | d :: rest =>
              if isContinuation d then
                .char (Char.ofNat
                  ((a.toNat % 8) * 262144 + payload b * 4096 + payload c * 64 + payload d)) rest
              else .fault .invalidContinuation 3
  else .fault .invalidStart 1

/-- Reading a character consumes octets. -/
theorem length_of_front {a : UInt8} {rest rest' : List UInt8} {c : Char}
    (h : front a rest = .char c rest') : rest'.length ≤ rest.length := by
  unfold front at h
  repeat' split at h
  all_goals first
    | (cases h; exact Nat.le_refl _)
    | (cases h; simp only [List.length_cons]; omega)
    | (cases h)

/-- Decode octets that start at index `position` of the whole. -/
def decodeFrom (position : Nat) : List UInt8 → Except DecodeError (List Char)
  | [] => .ok []
  | a :: rest =>
    match h : front a rest with
    | .fault f span => .error ⟨f, position, span, a⟩
    | .char c rest' =>
      have : rest'.length ≤ rest.length := length_of_front h
      (decodeFrom (position + (rest.length + 1 - rest'.length)) rest').map (c :: ·)
termination_by octets => octets.length

/-- The text that octets spell. -/
def decode (octets : List UInt8) : Except DecodeError String :=
  (decodeFrom 0 octets).map String.ofList

/-- The characters that octets spell, and the octets of a sequence that they break off in. -/
def decodePart (octets : List UInt8) : Except DecodeError (List Char × List UInt8) :=
  match decodeFrom 0 octets with
  | .ok cs => .ok (cs, [])
  | .error e =>
    if e.fault = .unexpectedEnd then
      (decodeFrom 0 (octets.take e.position)).map (fun cs => (cs, octets.drop e.position))
    else .error e

end SecretSync.Text.Utf8

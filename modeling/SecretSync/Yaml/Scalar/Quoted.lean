import SecretSync.Text.Half
import SecretSync.Yaml.Fault
import SecretSync.Yaml.Spot

/-!
# Quoted scalars

Between single quotes a quote is written twice; between double quotes a backslash starts an
escape.  The lines of a quoted scalar are joined, and it may not hold a mark between documents.
-/

namespace SecretSync.Yaml.Quoted

/-- The character behind a backslash that stands for one character. -/
def simpleEscape? : Char → Option Char
  | '0' => some '\x00'
  | 'a' => some '\x07'
  | 'b' => some '\x08'
  | 't' => some '\t'
  | '\t' => some '\t'
  | 'n' => some '\n'
  | 'v' => some '\x0b'
  | 'f' => some '\x0c'
  | 'r' => some '\r'
  | 'e' => some '\x1b'
  | ' ' => some ' '
  | '"' => some '"'
  | '\\' => some '\\'
  | '/' => some '/'
  | 'N' => some '\u0085'
  | '_' => some '\u00a0'
  | 'L' => some '\u2028'
  | 'P' => some '\u2029'
  | _ => none

/-- How many digits follow the letter of a numeric escape. -/
def escapeWidth? : Char → Option Nat
  | 'x' => some 2
  | 'u' => some 4
  | 'U' => some 8
  | _ => none

/-- The character with a number, or what stands for half of a surrogate pair. -/
def character (code : Nat) : Except Fault Char :=
  if 0x110000 ≤ code then .error (.noCharacter code)
  else if 0xd800 ≤ code ∧ code < 0xe000 then .ok (Text.half code)
  else .ok (Char.ofNat code)

/-- The character that so many hexadecimal digits name, and the text behind them. -/
def numericEscape (width : Nat) (spots : List Spot) : Except Fault (Char × List Spot) :=
  let digits := (spots.take width).filterMap (fun s => Text.hexDigit? s.char)
  if digits.length = width then
    (character (Text.ofDigitValues 16 digits)).map (fun c => (c, spots.drop width))
  else if (skip (fun c => (Text.hexDigit? c).isSome) spots).all (·.char == endMark) then
    .error .unclosed
  else .error .malformed

/-- The line ends up to the next text of a quoted scalar. -/
def emptyLines : List Spot → Except Fault (List Char × List Spot)
  | [] => .ok ([], [])
  | s :: rest =>
    if atDocumentMark (s :: rest) then .error .malformed
    else if s.char == ' ' || s.char == '\t' then emptyLines rest
    else if isBreak s.char then (emptyLines rest).map (fun p => (s.char :: p.1, p.2))
    else .ok ([], s :: rest)

/-- What a stretch of blanks becomes, and the text behind it. -/
def gap (spots : List Spot) : Except Fault (List Char × List Spot) :=
  let (blanks, rest) := spanChars (fun c => c == ' ' || c == '\t') spots
  if charOf rest == endMark then .error .unclosed
  else if isBreak (charOf rest) then
    (emptyLines rest.tail).map (fun p => (folded (charOf rest) p.1, p.2))
  else .ok (blanks, rest)

/-- What an escape becomes, and the text behind it. -/
def escape (spots : List Spot) : Except Fault (List Char × List Spot) :=
  match simpleEscape? (charOf spots), escapeWidth? (charOf spots) with
  | some c, _ => .ok ([c], spots.tail)
  | none, some width => (numericEscape width spots.tail).map (fun p => ([p.1], p.2))
  | none, none =>
    if isBreak (charOf spots) then emptyLines spots.tail
    else .error (if charOf spots == endMark then .unclosed else .malformed)

/-- A piece of a quoted scalar, and the text behind it; none is left before the closing quote. -/
def piece (double : Bool) (spots : List Spot) : Except Fault (Option (List Char) × List Spot) :=
  let c := charOf spots
  if isBlankOrEnd c then (gap spots).map (fun p => (some p.1, p.2))
  else if double then
    if c == '"' then .ok (none, spots.tail)
    else if c == '\\' then (escape spots.tail).map (fun p => (some p.1, p.2))
    else .ok (some [c], spots.tail)
  else if c == '\'' then
    if secondOf spots == '\'' then .ok (some ['\''], spots.tail.tail) else .ok (none, spots.tail)
  else .ok (some [c], spots.tail)

/-- A quoted scalar from behind its opening quote, and the text behind the closing one. -/
def read (double : Bool) : Nat → List Spot → Except Fault (List Char × List Spot)
  | 0, _ => .error .malformed
  | fuel + 1, spots => do
    match ← piece double spots with
    | (none, rest) => return ([], rest)
    | (some text, rest) =>
      let (more, rest) ← read double fuel rest
      return (text ++ more, rest)

end SecretSync.Yaml.Quoted

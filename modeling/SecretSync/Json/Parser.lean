import SecretSync.Json.Basic
import SecretSync.Text.Half

/-!
# Reading JSON text

The grammar of the data format, with three additions: the numbers `NaN`, `Infinity` and
`-Infinity`.  A member given twice keeps its place and takes the later value.  Lone surrogate
escapes, control characters inside strings, integers of more than `maxDigits` characters and
nesting beyond `maxDepth` are refused; a list or an object that is empty does not count as nested.
Descriptions of worlds are read without these two limits on halves and on nesting.
-/

namespace SecretSync.Json

/-- Deepest nesting of lists and objects that is read. -/
def maxDepth : Nat := 200

/-- Most characters that an integer, or the integer part of a number, may have with its sign. -/
def maxDigits : Nat := 4300

/-- Whether a character may stand between tokens. -/
def isSpace (c : Char) : Bool := c == ' ' || c == '\n' || c == '\r' || c == '\t'

/-- The text behind any space. -/
def skipSpace (cs : List Char) : List Char := cs.dropWhile isSpace

/-- The text behind a literal word. -/
def afterWord : List Char → List Char → Option (List Char)
  | [], cs => some cs
  | w :: ws, c :: cs => if w = c then afterWord ws cs else none
  | _ :: _, [] => none

/-- The number that four hexadecimal digits spell. -/
def hex4 (a b c d : Char) : Option Nat :=
  match Text.hexDigit? a, Text.hexDigit? b, Text.hexDigit? c, Text.hexDigit? d with
  | some a, some b, some c, some d => some (a * 4096 + b * 256 + c * 16 + d)
  | _, _, _, _ => none

/-- The character behind a backslash that stands for one character. -/
def simpleEscape? : Char → Option Char
  | '"' => some '"'
  | '\\' => some '\\'
  | '/' => some '/'
  | 'b' => some '\x08'
  | 'f' => some '\x0c'
  | 'n' => some '\n'
  | 'r' => some '\r'
  | 't' => some '\t'
  | _ => none

/-- Put a character in front of the string part of a result. -/
def consChar (c : Char) : Option (List Char × List Char) → Option (List Char × List Char) :=
  Option.map (fun p => (c :: p.1, p.2))

/-- The rest of a string up to its closing quote, and the text behind it. -/
def stringTail : List Char → Option (List Char × List Char)
  | [] => none
  | '"' :: rest => some ([], rest)
  | '\\' :: 'u' :: a :: b :: c :: d :: rest =>
    match hex4 a b c d with
    | none => none
    | some high =>
      if 0xdc00 ≤ high ∧ high < 0xe000 then none
      else if 0xd800 ≤ high ∧ high < 0xdc00 then
        match rest with
        | '\\' :: 'u' :: e :: f :: g :: h :: rest =>
          match hex4 e f g h with
          | some low =>
            if 0xdc00 ≤ low ∧ low < 0xe000 then
              consChar (Char.ofNat (0x10000 + (high - 0xd800) * 1024 + (low - 0xdc00)))
                (stringTail rest)
            else none
          | none => none
        | _ => none
      else consChar (Char.ofNat high) (stringTail rest)
  | '\\' :: c :: rest =>
    match simpleEscape? c with
    | some e => consChar e (stringTail rest)
    | none => none
  | c :: rest => if c.toNat < 0x20 ∨ c = '\\' then none else consChar c (stringTail rest)

/-- The digits at the front of a text, as values, and the text behind them. -/
def leadingDigits : List Char → List Nat × List Char
  | [] => ([], [])
  | c :: rest =>
    match Text.asciiDigit? c with
    | none => ([], c :: rest)
    | some v => let (vs, tail) := leadingDigits rest; (v :: vs, tail)

/-- The exponent part of a number, if one is there: its value, and the text behind it. -/
def exponent? (cs : List Char) : Option (Option Int × List Char) :=
  match cs with
  | c :: rest =>
    if c = 'e' ∨ c = 'E' then
      let (negative, rest) := match rest with
        | '-' :: r => (true, r)
        | '+' :: r => (false, r)
        | r => (false, r)
      match leadingDigits rest with
      | ([], _) => none
      | (vs, tail) =>
        let n : Int := Text.ofDigitValues 10 vs
        some (some (if negative then -n else n), tail)
    else some (none, cs)
  | [] => some (none, [])

/-- The fraction part of a number, if one is there: its digits, and the text behind it. -/
def fraction? (cs : List Char) : Option (Option (List Nat) × List Char) :=
  match cs with
  | '.' :: rest =>
    match leadingDigits rest with
    | ([], _) => none
    | (vs, tail) => some (some vs, tail)
  | _ => some (none, cs)

/-- The value of a number given by its parts. -/
def ofNumberParts (negative : Bool) (whole : List Nat) (fraction : Option (List Nat))
    (exponent : Option Int) : Json :=
  match fraction, exponent with
  | none, none =>
    let n : Int := Text.ofDigitValues 10 whole
    int (if negative then -n else n)
  | _, _ =>
    let digits := whole ++ fraction.getD []
    real (Number.Binary64.ofDecimal negative (Text.ofDigitValues 10 digits)
      (exponent.getD 0 - (fraction.getD []).length))

/-- A number without its sign, and the text behind it. -/
def unsignedNumber (negative : Bool) (cs : List Char) : Option (Json × List Char) :=
  match leadingDigits cs with
  | ([], _) => (afterWord "Infinity".toList cs).map (fun rest => (real (.infinite negative), rest))
  | (0 :: _ :: _, _) => none
  | (whole, rest) =>
    if maxDigits < whole.length + (if negative then 1 else 0) then none
    else
      match fraction? rest with
      | none => none
      | some (fraction, rest) =>
        match exponent? rest with
        | none => none
        | some (exponent, rest) => some (ofNumberParts negative whole fraction exponent, rest)

/-- A word or a number, and the text behind it. -/
def scalar (cs : List Char) : Option (Json × List Char) :=
  match cs with
  | [] => none
  | c :: rest =>
    if c = 'n' then (afterWord "ull".toList rest).map (fun r => (null, r))
    else if c = 't' then (afterWord "rue".toList rest).map (fun r => (bool true, r))
    else if c = 'f' then (afterWord "alse".toList rest).map (fun r => (bool false, r))
    else if c = 'N' then (afterWord "aN".toList rest).map (fun r => (real .notANumber, r))
    else if c = '-' then unsignedNumber true rest
    else unsignedNumber false cs

mutual
/-- A value at the front of a text, and the text behind it; lists and objects may be nested
`depth` deep, and every step takes one unit of fuel. -/
def value : Nat → Nat → List Char → Option (Json × List Char)
  | 0, _, _ => none
  | fuel + 1, depth, cs =>
    match skipSpace cs with
    | '"' :: rest => (stringTail rest).map (fun p => (str (String.ofList p.1), p.2))
    | '[' :: rest =>
      match skipSpace rest, depth with
      | ']' :: rest, _ => some (arr [], rest)
      | _, 0 => none
      | rest, depth + 1 => (items fuel depth rest).map (fun p => (arr p.1, p.2))
    | '{' :: rest =>
      match skipSpace rest, depth with
      | '}' :: rest, _ => some (obj [], rest)
      | _, 0 => none
      | rest, depth + 1 =>
        (memberList fuel depth rest).map (fun p => (obj (Dict.ofList p.1).entries, p.2))
    | rest => scalar rest

/-- The items of a list up to its closing bracket, and the text behind it. -/
def items : Nat → Nat → List Char → Option (List Json × List Char)
  | 0, _, _ => none
  | fuel + 1, depth, cs =>
    match value fuel depth cs with
    | none => none
    | some (v, rest) =>
      match skipSpace rest with
      | ',' :: rest => (items fuel depth rest).map (fun p => (v :: p.1, p.2))
      | ']' :: rest => some ([v], rest)
      | _ => none

/-- The members of an object up to its closing brace, and the text behind it. -/
def memberList : Nat → Nat → List Char → Option (List (String × Json) × List Char)
  | 0, _, _ => none
  | fuel + 1, depth, cs =>
    match skipSpace cs with
    | '"' :: rest =>
      match stringTail rest with
      | none => none
      | some (name, rest) =>
        match skipSpace rest with
        | ':' :: rest =>
          match value fuel depth rest with
          | none => none
          | some (v, rest) =>
            match skipSpace rest with
            | ',' :: rest =>
              (memberList fuel depth rest).map (fun p => ((String.ofList name, v) :: p.1, p.2))
            | '}' :: rest => some ([(String.ofList name, v)], rest)
            | _ => none
        | _ => none
    | _ => none
end

/-- The value of a text that holds nothing else and is nested at most `depth` deep. -/
def parseWithin? (depth : Nat) (s : String) : Option Json :=
  let cs := s.toList
  match value (cs.length + 1) depth cs with
  | some (v, rest) => if (skipSpace rest).isEmpty then some v else none
  | none => none

/-- The value of a text that holds nothing else. -/
def parse? (s : String) : Option Json := parseWithin? maxDepth s

/-- Whether the escape of the second half of a surrogate pair stands at the front. -/
def secondHalfAhead : List Char → Bool
  | '\\' :: 'u' :: a :: b :: c :: d :: _ =>
    (hex4 a b c d).any (fun code => 0xdc00 ≤ code && code < 0xe000)
  | _ => false

/-- The characters `done`, last first, and those that follow, with a character in place of each
escape of a lone half; `paired` tells whether a second half at the front belongs to a pair. -/
def halvesKeptFrom (paired : Bool) (done : List Char) : List Char → List Char
  | [] => done.reverse
  | '\\' :: 'u' :: a :: b :: c :: d :: rest =>
    let code := (hex4 a b c d).getD 0
    let copied := d :: c :: b :: a :: 'u' :: '\\' :: done
    if paired ∨ code < 0xd800 ∨ 0xe000 ≤ code then halvesKeptFrom false copied rest
    else if code < 0xdc00 ∧ secondHalfAhead rest then halvesKeptFrom true copied rest
    else halvesKeptFrom false (Text.half code :: done) rest
  | '\\' :: c :: rest => halvesKeptFrom false (c :: '\\' :: done) rest
  | c :: rest => halvesKeptFrom false (c :: done) rest

/-- The value of a text that holds nothing else, in which halves of surrogate pairs are kept. -/
def parseKeepingHalves? (s : String) : Option Json :=
  parseWithin? s.length (String.ofList (halvesKeptFrom false [] s.toList))

end SecretSync.Json

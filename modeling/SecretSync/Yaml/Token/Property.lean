import SecretSync.Text.Utf8
import SecretSync.Yaml.Fault
import SecretSync.Yaml.Scalar.Block
import SecretSync.Yaml.Token

/-!
# Directives, anchors and tags

The tokens whose text is made of names and addresses.
-/

namespace SecretSync.Yaml.Token

/-- The name of an anchor, from behind its indicator. -/
def readName (spots : List Spot) : Except Fault (String × List Spot) :=
  let (name, rest) := spanChars isNameChar spots
  let c := charOf rest
  if name.isEmpty then .error .malformed
  else if isBlankOrEnd c || "?:,]\x7d%@\x60".toList.contains c then .ok (String.ofList name, rest)
  else .error .malformed

/-- Whether a character may stand in an address. -/
def isAddressChar (c : Char) : Bool :=
  ('0' ≤ c && c ≤ '9') || ('A' ≤ c && c ≤ 'Z') || ('a' ≤ c && c ≤ 'z') ||
    "-;/?:@&=+$,_.!~*'()[]%".toList.contains c

/-- Octets that are written as a percent sign and two digits each. -/
def escapedOctets : List Char → Except Fault (List UInt8 × List Char)
  | '%' :: a :: b :: rest =>
    match Text.hexDigit? a, Text.hexDigit? b with
    | some a, some b =>
      (escapedOctets rest).map (fun p => (UInt8.ofNat (a * 16 + b) :: p.1, p.2))
    | _, _ => .error .malformed
  | '%' :: _ => .error .malformed
  | rest => .ok ([], rest)

/-- The text that an address spells; escapes that follow each other are octets of UTF-8. -/
def unescape : Nat → List Char → Except Fault (List Char)
  | 0, _ => .error .malformed
  | _ + 1, [] => .ok []
  | fuel + 1, '%' :: rest => do
    let (octets, rest) ← escapedOctets ('%' :: rest)
    match Text.Utf8.decode octets with
    | .ok s => return s.toList ++ (← unescape fuel rest)
    | .error _ => throw .malformed
  | fuel + 1, c :: rest => (unescape fuel rest).map (c :: ·)

/-- An address. -/
def readAddress (spots : List Spot) : Except Fault (String × List Spot) := do
  let (text, rest) := spanChars isAddressChar spots
  if text.isEmpty then throw .malformed
  return (String.ofList (← unescape (text.length + 1) text), rest)

/-- The short form that a tag starts with: an exclamation mark, or a name between two. -/
def readHandle (spots : List Spot) : Except Fault (String × List Spot) :=
  if charOf spots != '!' then .error .malformed
  else
    let (name, rest) := spanChars isNameChar spots.tail
    if charOf rest == '!' then .ok (String.ofList ('!' :: name ++ ['!']), rest.tail)
    else if charOf spots.tail == ' ' then .ok ("!", spots.tail)
    else .error .malformed

/-- A tag, from its indicator on. -/
def readTag (spots : List Spot) : Except Fault (Token × List Spot) := do
  let (token, rest) ←
    if secondOf spots == '<' then do
      let (address, rest) ← readAddress (spots.drop 2)
      if charOf rest != '>' then throw .malformed
      pure (tag none address, rest.tail)
    else if isBlankOrEnd (secondOf spots) then pure (tag none "!", spots.tail)
    else if (spots.tail.takeWhile (fun s => !isSpaceOrEnd s.char)).any (·.char == '!') then do
      let (handle, rest) ← readHandle spots
      let (address, rest) ← readAddress rest
      pure (tag (some handle) address, rest)
    else do
      let (address, rest) ← readAddress spots.tail
      pure (tag (some "!") address, rest)
  if isSpaceOrEnd (charOf rest) then return (token, rest) else throw .malformed

/-- A number in a directive. -/
def readNumber (spots : List Spot) : Except Fault (Nat × List Spot) :=
  let (digits, rest) := spanChars (fun c => '0' ≤ c && c ≤ '9') spots
  if digits.isEmpty then .error .malformed
  else .ok (Text.ofDigitValues 10 (digits.filterMap Text.asciiDigit?), rest)

/-- The version that a directive gives. -/
def readVersion (spots : List Spot) : Except Fault (Token × List Spot) := do
  let (major, rest) ← readNumber (skip (· == ' ') spots)
  if charOf rest != '.' then throw .malformed
  let (_, rest) ← readNumber rest.tail
  if isSpaceOrEnd (charOf rest) then return (version major, rest) else throw .malformed

/-- The short form of tags that a directive gives. -/
def readTagHandle (spots : List Spot) : Except Fault (Token × List Spot) := do
  let (handle, rest) ← readHandle (skip (· == ' ') spots)
  if charOf rest != ' ' then throw .malformed
  let (front, rest) ← readAddress (skip (· == ' ') rest)
  if isSpaceOrEnd (charOf rest) then return (tagHandle handle front, rest) else throw .malformed

/-- A directive, from behind its indicator to behind its line. -/
def readDirective (spots : List Spot) : Except Fault (Token × List Spot) := do
  let (name, rest) := spanChars isNameChar spots
  if name.isEmpty || !isSpaceOrEnd (charOf rest) then throw .malformed
  let (token, rest) ←
    if name == "YAML".toList then readVersion rest
    else if name == "TAG".toList then readTagHandle rest
    else pure (otherDirective, skip (fun c => !isLineEnd c) rest)
  return (token, ← Block.lineRest rest)

end SecretSync.Yaml.Token

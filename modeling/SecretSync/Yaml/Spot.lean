/-!
# Characters of a document and their places

A document is a list of characters, each with its place.  Behind the last one stands an end mark,
a character that no document may hold.
-/

namespace SecretSync.Yaml

/-- A character and its place: line and column, and index in the whole document. -/
structure Spot where
  char : Char
  line : Nat
  column : Nat
  index : Nat
  deriving Repr, Inhabited

/-- The character that stands for the end of the document. -/
def endMark : Char := '\x00'

/-- The mark of the byte order. -/
def byteOrderMark : Char := '\ufeff'

/-- Whether a character ends a line. -/
def isBreak (c : Char) : Bool := c == '\n' || c == '\u2028' || c == '\u2029'

/-- Whether a character ends a line or the document. -/
def isLineEnd (c : Char) : Bool := isBreak c || c == endMark

/-- Whether a character is a space or ends a line or the document. -/
def isSpaceOrEnd (c : Char) : Bool := c == ' ' || isLineEnd c

/-- Whether a character is a space or a tab, or ends a line or the document. -/
def isBlankOrEnd (c : Char) : Bool := c == '\t' || isSpaceOrEnd c

/-- Whether a character may stand in the name of an anchor, a directive or a tag handle. -/
def isNameChar (c : Char) : Bool :=
  ('0' ≤ c && c ≤ '9') || ('A' ≤ c && c ≤ 'Z') || ('a' ≤ c && c ≤ 'z') || c == '-' || c == '_'

/-- Whether a document may hold a character. -/
def isAllowed (c : Char) : Bool :=
  let n := c.toNat
  n == 9 || n == 10 || n == 13 || (0x20 ≤ n && n ≤ 0x7e) || n == 0x85 ||
    (0xa0 ≤ n && n ≤ 0xfffd) || 0x10000 ≤ n

/-- Text with every line ended by a line feed, but for the separators U+2028 and U+2029. -/
def plainLines : List Char → List Char
  | [] => []
  | '\r' :: '\n' :: rest => '\n' :: plainLines rest
  | c :: rest => (if c == '\r' || c == '\x85' then '\n' else c) :: plainLines rest

/-- The characters with their places, and the end mark behind them. -/
def spotsFrom (line column index : Nat) : List Char → List Spot
  | [] => [⟨endMark, line, column, index⟩]
  | c :: rest =>
    ⟨c, line, column, index⟩ ::
      (if isBreak c then spotsFrom (line + 1) 0 (index + 1) rest
      else spotsFrom line (if c == byteOrderMark then column else column + 1) (index + 1) rest)

/-- The characters of a document. -/
def spots (cs : List Char) : List Spot := spotsFrom 0 0 0 (plainLines cs)

/-- The next character. -/
def charOf : List Spot → Char
  | [] => endMark
  | s :: _ => s.char

/-- The character behind the next one. -/
def secondOf (spots : List Spot) : Char := charOf spots.tail

/-- The column of the next character. -/
def columnOf : List Spot → Nat
  | [] => 0
  | s :: _ => s.column

/-- Whether text starts with one of the two marks between documents: three hyphens or three
points. -/
def startsWith (mark : Char) (spots : List Spot) : Bool :=
  match spots with
  | a :: b :: c :: rest =>
    a.char == mark && b.char == mark && c.char == mark && isBlankOrEnd (charOf rest)
  | _ => false

/-- Whether a mark between documents stands at the start of a line. -/
def atDocumentMark (spots : List Spot) : Bool :=
  columnOf spots == 0 && (startsWith '-' spots || startsWith '.' spots)

/-- The characters up to the first one outside a class, and the rest. -/
def spanChars (p : Char → Bool) (spots : List Spot) : List Char × List Spot :=
  ((spots.takeWhile (fun s => p s.char)).map Spot.char, spots.dropWhile (fun s => p s.char))

/-- The text behind the characters of a class. -/
def skip (p : Char → Bool) (spots : List Spot) : List Spot := spots.dropWhile (fun s => p s.char)

/-- The text behind spaces, line ends and comments, and whether a line has ended on the way. -/
def skipBlank (inComment : Bool) : List Spot → Bool × List Spot
  | [] => (false, [])
  | s :: rest =>
    if isBreak s.char then (true, (skipBlank false rest).2)
    else if inComment && s.char != endMark then skipBlank true rest
    else if s.char == ' ' then skipBlank false rest
    else if s.char == '#' then skipBlank true rest
    else (false, s :: rest)

/-- Lines joined to one: a line end becomes a space unless empty lines follow. -/
def folded (lineEnd : Char) (breaks : List Char) : List Char :=
  if lineEnd ≠ '\n' then lineEnd :: breaks
  else if breaks.isEmpty then [' ']
  else breaks

end SecretSync.Yaml

/-!
# Blank characters

Two character classes that text is trimmed by: the White_Space property, and White_Space
together with the four information separators.  `trimBy` removes a class at both ends.
-/

namespace SecretSync.Text

/-- The characters with the White_Space property. -/
def isWhiteSpace (c : Char) : Bool :=
  let n := c.toNat
  (9 ≤ n && n ≤ 13) || n == 0x20 || n == 0x85 || n == 0xa0 || n == 0x1680 ||
    (0x2000 ≤ n && n ≤ 0x200a) || n == 0x2028 || n == 0x2029 || n == 0x202f ||
    n == 0x205f || n == 0x3000

/-- White space and the information separators U+001C to U+001F. -/
def isBlank (c : Char) : Bool :=
  isWhiteSpace c || (0x1c ≤ c.toNat && c.toNat ≤ 0x1f)

/-- The characters that end a line. -/
def isLineBreak (c : Char) : Bool :=
  let n := c.toNat
  (0xa ≤ n && n ≤ 0xd) || (0x1c ≤ n && n ≤ 0x1e) || n == 0x85 || n == 0x2028 || n == 0x2029

/-- Drop the characters of a class at both ends. -/
def trimBy (p : Char → Bool) (cs : List Char) : List Char :=
  ((cs.dropWhile p).reverse.dropWhile p).reverse

/-- Text without white space at its ends. -/
def trimWhiteSpace (s : String) : String := String.ofList (trimBy isWhiteSpace s.toList)

/-- Whether text holds nothing but blanks. -/
def isBlankText (s : String) : Bool := s.toList.all isBlank

/-- How many lines of a text hold more than blanks; `seen` tells whether the line that the text
goes on with does so already. -/
def fullLinesFrom (seen : Bool) : List Char → Nat
  | [] => if seen then 1 else 0
  | c :: rest =>
    if isLineBreak c then (if seen then 1 else 0) + fullLinesFrom false rest
    else fullLinesFrom (seen || !isBlank c) rest

/-- How many lines of a text hold more than blanks. -/
def fullLines (cs : List Char) : Nat := fullLinesFrom false cs

end SecretSync.Text

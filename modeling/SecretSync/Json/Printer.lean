import SecretSync.Json.Basic

/-!
# Writing JSON text

Two layouts: compact, and indented by two spaces a level.  In strings only the quote, the
backslash and control characters are escaped, the latter by their short escape if they have
one.  The compact layout also escapes halves of surrogate pairs; the indented one is written for
text that has none.
-/

namespace SecretSync.Json

/-- One character inside a string. -/
def escapeChar (c : Char) : List Char :=
  if c = '"' then ['\\', '"']
  else if c = '\\' then ['\\', '\\']
  else if c = '\n' then ['\\', 'n']
  else if c = '\r' then ['\\', 'r']
  else if c = '\t' then ['\\', 't']
  else if c = '\x08' then ['\\', 'b']
  else if c = '\x0c' then ['\\', 'f']
  else if c.toNat < 0x20 then '\\' :: 'u' :: Text.hexText 4 c.toNat
  else [c]

/-- One character inside a string that may have halves of surrogate pairs. -/
def escapeCharOrHalf (c : Char) : List Char :=
  match Text.halfCode? c with
  | some code => Text.halfEscape code
  | none => escapeChar c

/-- A string with its quotes, its characters written one by one. -/
def stringText (escape : Char → List Char) (s : String) : List Char :=
  '"' :: s.toList.flatMap escape ++ ['"']

/-- The text of a number that is no integer. -/
def realText (x : Number.Binary64) : List Char :=
  match x with
  | .notANumber => "NaN".toList
  | .infinite negative => (if negative then ['-'] else []) ++ "Infinity".toList
  | x => x.text.toList

/-- A line break and the indentation of a level. -/
def newline (level : Nat) : List Char := '\n' :: List.replicate (2 * level) ' '

mutual
/-- The indented text of a value at a level. -/
def indentedAt (level : Nat) : Json → List Char
  | null => "null".toList
  | bool b => if b then "true".toList else "false".toList
  | int n => (toString n).toList
  | real x => realText x
  | str s => stringText escapeChar s
  | arr [] => ['[', ']']
  | arr (v :: rest) =>
    '[' :: newline (level + 1) ++ indentedAt (level + 1) v ++
      indentedItems (level + 1) rest ++ newline level ++ [']']
  | obj [] => ['{', '}']
  | obj ((k, v) :: rest) =>
    '{' :: newline (level + 1) ++ stringText escapeChar k ++ [':', ' '] ++
      indentedAt (level + 1) v ++
      indentedMembers (level + 1) rest ++ newline level ++ ['}']

/-- The further items of a list, each behind a comma on a line of its own. -/
def indentedItems (level : Nat) : List Json → List Char
  | [] => []
  | v :: rest => ',' :: newline level ++ indentedAt level v ++ indentedItems level rest

/-- The further members of an object, each behind a comma on a line of its own. -/
def indentedMembers (level : Nat) : List (String × Json) → List Char
  | [] => []
  | (k, v) :: rest =>
    ',' :: newline level ++ stringText escapeChar k ++ [':', ' '] ++ indentedAt level v ++
      indentedMembers level rest
end

/-- The text of a value, indented by two spaces a level. -/
def indented (v : Json) : String := String.ofList (indentedAt 0 v)

mutual
/-- The text of a value without any space. -/
def compactChars : Json → List Char
  | null => "null".toList
  | bool b => if b then "true".toList else "false".toList
  | int n => (toString n).toList
  | real x => realText x
  | str s => stringText escapeCharOrHalf s
  | arr [] => ['[', ']']
  | arr (v :: rest) => '[' :: compactChars v ++ compactItems rest ++ [']']
  | obj [] => ['{', '}']
  | obj ((k, v) :: rest) =>
    '{' :: stringText escapeCharOrHalf k ++ ':' :: compactChars v ++ compactMembers rest ++ ['}']

/-- The further items of a list. -/
def compactItems : List Json → List Char
  | [] => []
  | v :: rest => ',' :: compactChars v ++ compactItems rest

/-- The further members of an object. -/
def compactMembers : List (String × Json) → List Char
  | [] => []
  | (k, v) :: rest =>
    ',' :: stringText escapeCharOrHalf k ++ ':' :: compactChars v ++ compactMembers rest
end

/-- The text of a value on one line. -/
def compact (v : Json) : String := String.ofList (compactChars v)

end SecretSync.Json

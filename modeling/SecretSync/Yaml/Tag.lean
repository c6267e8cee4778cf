import SecretSync.Text.Pattern

/-!
# Tags

The tag of a node says what kind of value it has.  A plain scalar without a tag has the one whose
form its text has, and is text if there is none.
-/

namespace SecretSync.Yaml

open Text (Pattern)

/-- The kind of a node. -/
inductive Tag where
  | null
  | bool
  | int
  | real
  | text
  | octets
  | timestamp
  | seq
  | map
  | set
  /-- A mapping whose entries are in order. -/
  | orderedMap
  /-- Pairs in order, which may share keys. -/
  | pairs
  /-- The key whose value is merged into the mapping. -/
  | merge
  /-- The key of the value that stands for the mapping. -/
  | value
  /-- A kind that is not known. -/
  | unknown
  deriving DecidableEq, Repr

namespace Tag

/-- The front of the tags of the kinds that are known. -/
def front : String := "tag:yaml.org,2002:"

/-- The kind that a tag names. -/
def ofName (name : String) : Tag :=
  let kinds := [("null", null), ("bool", bool), ("int", int), ("float", real), ("str", text),
    ("binary", octets), ("timestamp", timestamp), ("seq", seq), ("map", map), ("set", set),
    ("omap", orderedMap), ("pairs", pairs), ("merge", merge), ("value", value)]
  match kinds.find? (fun k => front ++ k.1 == name) with
  | some k => k.2
  | none => unknown

/-- A decimal digit, or an underscore. -/
def grouped : Pattern := Pattern.char (fun c => c == '_' || ('0' ≤ c && c ≤ '9'))

/-- A sign, or nothing. -/
def sign : Pattern := Pattern.optional (Pattern.among "+-")

/-- A colon and a number below sixty. -/
def sixtieth : Pattern :=
  Pattern.literal ":" ++ Pattern.optional (Pattern.among "012345") ++ Pattern.digit

/-- The texts of null. -/
def nullForm : Pattern := Pattern.words ["~", "null", "Null", "NULL", ""]

/-- The texts of truth values. -/
def boolForm : Pattern := Pattern.words [
  "yes", "Yes", "YES", "no", "No", "NO", "true", "True", "TRUE", "false", "False", "FALSE",
  "on", "On", "ON", "off", "Off", "OFF"]

/-- The texts of integers: binary, octal, decimal, hexadecimal, or to the base sixty. -/
def intForm : Pattern := sign ++ Pattern.oneOf [
  Pattern.literal "0b" ++ Pattern.some (Pattern.among "01_"),
  Pattern.literal "0" ++ Pattern.some (Pattern.among "01234567_"),
  Pattern.literal "0",
  Pattern.among "123456789" ++ Pattern.many grouped,
  Pattern.literal "0x" ++ Pattern.some (Pattern.among "0123456789abcdefABCDEF_"),
  Pattern.among "123456789" ++ Pattern.many grouped ++ Pattern.some sixtieth]

/-- An exponent with its sign, or nothing. -/
def exponent : Pattern :=
  Pattern.optional (Pattern.among "eE" ++ Pattern.among "+-" ++ Pattern.some Pattern.digit)

/-- The texts of floating point numbers: a fraction is required. -/
def realForm : Pattern := Pattern.oneOf [
  sign ++ Pattern.digit ++ Pattern.many grouped ++ Pattern.literal "." ++ Pattern.many grouped ++
    exponent,
  Pattern.literal "." ++ Pattern.digit ++ Pattern.many grouped ++ exponent,
  sign ++ Pattern.digit ++ Pattern.many grouped ++ Pattern.some sixtieth ++ Pattern.literal "." ++
    Pattern.many grouped,
  sign ++ Pattern.words [".inf", ".Inf", ".INF"],
  Pattern.words [".nan", ".NaN", ".NAN"]]

/-- Spaces and tabs. -/
def blanks : Pattern := Pattern.many (Pattern.among " \t")

/-- One digit or two. -/
def shortNumber : Pattern := Pattern.digit ++ Pattern.optional Pattern.digit

/-- A colon and two digits. -/
def pairBehindColon : Pattern := Pattern.literal ":" ++ Pattern.digit.times 2

/-- `Z`, or a sign with hours and perhaps minutes. -/
def offsetForm : Pattern := Pattern.either (Pattern.literal "Z")
  (Pattern.among "+-" ++ shortNumber ++ Pattern.optional pairBehindColon)

/-- The texts of dates and timestamps. -/
def timestampForm : Pattern := Pattern.oneOf [
  Pattern.digit.times 4 ++ Pattern.literal "-" ++ Pattern.digit.times 2 ++ Pattern.literal "-" ++
    Pattern.digit.times 2,
  Pattern.digit.times 4 ++ Pattern.literal "-" ++ shortNumber ++ Pattern.literal "-" ++
    shortNumber ++ Pattern.either (Pattern.among "Tt") (Pattern.some (Pattern.among " \t")) ++
    shortNumber ++ pairBehindColon ++ pairBehindColon ++
    Pattern.optional (Pattern.literal "." ++ Pattern.many Pattern.digit) ++
    Pattern.optional (blanks ++ offsetForm)]

/-- Text without one line feed at its end. -/
def withoutLineFeed (cs : List Char) : List Char :=
  if cs.getLast? = some '\n' then cs.dropLast else cs

/-- The kinds that are told from the text, with their forms. -/
def forms : List (Tag × Pattern) := [
  (bool, boolForm), (real, realForm), (int, intForm), (merge, Pattern.literal "<<"),
  (null, nullForm),
  (timestamp, timestampForm), (value, Pattern.literal "="), (unknown, Pattern.among "!&*")]

/-- The kind of a scalar that is told from its text.  A line feed behind the text is passed over,
but a line feed alone is text. -/
def ofText (s : String) : Tag :=
  if s == "\n" then text
  else
    match forms.find? (fun f => f.2.accepts (withoutLineFeed s.toList)) with
    | some f => f.1
    | none => text

end Tag
end SecretSync.Yaml

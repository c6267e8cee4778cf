import SecretSync.Text.Pattern

/-!
# Name patterns

In the pattern of a name `*` stands for any text, `?` for any character, and brackets for one
character of a class: single characters and ranges, or, behind an exclamation mark, all others.
A bracket that is not closed stands for itself.
-/

namespace SecretSync.Files.Glob

open Text (Pattern)

/-- Characters from one to another. -/
structure Range where
  first : Char
  last : Char

/-- The ranges that a class is written as; one that is empty says nothing. -/
def ranges : List Char → List Range
  | [] => []
  | [c] => [⟨c, c⟩]
  | [c, d] => [⟨c, c⟩, ⟨d, d⟩]
  | c :: d :: e :: rest =>
    if d = '-' then if c ≤ e then ⟨c, e⟩ :: ranges rest else ranges rest
    else ⟨c, c⟩ :: ranges (d :: e :: rest)

/-- Whether a range holds a character. -/
def Range.holds (r : Range) (c : Char) : Bool := r.first ≤ c && c ≤ r.last

/-- One character of a class.  An exclamation mark that comes first turns the class around, also
when empty ranges stand before it. -/
def classPattern (cs : List Char) : Pattern :=
  match cs with
  | '!' :: rest => Pattern.char (fun c => !(ranges rest).any (·.holds c))
  | _ =>
    match ranges cs with
    | ⟨'!', last⟩ :: rest =>
      let rest := if last = '!' then rest else ⟨'-', '-'⟩ :: ⟨last, last⟩ :: rest
      Pattern.char (fun c => !rest.any (·.holds c))
    | rs => Pattern.char (fun c => rs.any (·.holds c))

/-- The text of a class up to its closing bracket, and the text behind; none if it is not closed.
The class begins with some characters that do not close it. -/
def closedClass? (front cs : List Char) : Option (List Char × List Char) :=
  match cs.dropWhile (· != ']') with
  | [] => none
  | _ :: behind => some (front ++ cs.takeWhile (· != ']'), behind)

/-- The text of a class up to its closing bracket, and the text behind; none if it is not closed.
A bracket that comes first belongs to the class. -/
def bracket? : List Char → Option (List Char × List Char)
  | '!' :: ']' :: rest => closedClass? ['!', ']'] rest
  | '!' :: rest => closedClass? ['!'] rest
  | ']' :: rest => closedClass? [']'] rest
  | rest => closedClass? [] rest

/-- The pattern of a name. -/
def ofText : Nat → List Char → Pattern
  | 0, _ => .done
  | _ + 1, [] => .done
  | fuel + 1, c :: rest =>
    if c = '*' then Pattern.anything ++ ofText fuel rest
    else if c = '?' then Pattern.char (fun _ => true) ++ ofText fuel rest
    else if c = '[' then
      match bracket? rest with
      | some (body, rest) => classPattern body ++ ofText fuel rest
      | none => Pattern.char (· == '[') ++ ofText fuel rest
    else Pattern.char (· == c) ++ ofText fuel rest

/-- Whether a name has a pattern. -/
def accepts (pattern name : String) : Bool :=
  let cs := pattern.toList
  (ofText (cs.length + 1) cs).accepts name.toList

end SecretSync.Files.Glob

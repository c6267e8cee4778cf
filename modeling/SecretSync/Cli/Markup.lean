import SecretSync.Text.Blank
import SecretSync.Text.LowerCase

/-!
# Markup

Text that is printed may have tags in brackets.  A tag opens a style; one that begins with a slash
closes the style it names or, without a name, the one that was opened last.  A bracket with an odd
number of backslashes in front is no tag.  A tag that closes what is not open cannot be rendered.
What stands behind the equals sign of a tag is not looked at.
-/

namespace SecretSync.Cli.Markup

/-- A tag. -/
structure Tag where
  /-- Index of its opening bracket. -/
  position : Nat
  name : List Char
  /-- What stands behind its equals sign, if there is one. -/
  parameters : Option (List Char)
  deriving DecidableEq, Repr

/-- Why a text cannot be rendered. -/
inductive Fault where
  /-- A tag closes a style that is not open. -/
  | unmatched (tag : Tag)
  /-- A tag without a name stands where no style is open. -/
  | nothingOpen (position : Nat)
  deriving DecidableEq, Repr

/-- A tag as it is written. -/
def Tag.text (t : Tag) : String :=
  String.ofList ('[' :: t.name ++ t.parameters.elim [] ('=' :: ·) ++ [']'])

/-- The text of a fault. -/
def Fault.message : Fault → String
  | unmatched tag =>
    "closing tag '" ++ tag.text ++ "' at position " ++ toString tag.position ++
      " doesn't match any open tag"
  | nothingOpen position =>
    "closing tag '[/]' at position " ++ toString position ++ " has nothing to close"

/-- Whether a tag may begin with a character. -/
def beginsTag (c : Char) : Bool := ('a' ≤ c && c ≤ 'z') || c == '#' || c == '/' || c == '@'

/-- What stands between brackets, if characters behind an opening one go on as a tag does. -/
def inside? : List Char → Option (List Char)
  | [] => none
  | c :: rest =>
    if beginsTag c then
      let inside := rest.takeWhile (fun c => c != '[' && c != ']')
      if (rest.drop inside.length).head? = some ']' then some (c :: inside) else none
    else none

/-- The tag with something between its brackets. -/
def Tag.read (position : Nat) (inside : List Char) : Tag :=
  match inside.dropWhile (· != '=') with
  | _ :: parameters => ⟨position, inside.takeWhile (· != '='), some parameters⟩
  | [] => ⟨position, inside, none⟩

/-- The tags in characters that start at index `position` of the whole, with so many backslashes
in front of them; the first of them belong to a tag that has been read. -/
def tagsFrom (position slashes read : Nat) : List Char → List Tag
  | [] => []
  | c :: rest =>
    match read with
    | read + 1 => tagsFrom (position + 1) 0 read rest
    | 0 =>
      if c = '\\' then tagsFrom (position + 1) (slashes + 1) 0 rest
      else
        match if c = '[' then inside? rest else none with
        | some inside =>
          let others := tagsFrom (position + 1) 0 (inside.length + 1) rest
          if slashes % 2 = 0 then Tag.read position inside :: others else others
        | none => tagsFrom (position + 1) 0 0 rest

/-- The name of a style as names are compared. -/
def styleName (cs : List Char) : String :=
  String.ofList (Text.lowerCase (Text.trimBy Text.isBlank cs))

/-- The styles that are open behind a tag, the innermost one first. -/
def turn (opened : List String) (t : Tag) : Except Fault (List String) :=
  match t.name with
  | '/' :: name =>
    let style := styleName name
    if style.isEmpty then
      match opened with
      | [] => .error (.nothingOpen t.position)
      | _ :: outer => .ok outer
    else if opened.contains style then .ok (opened.erase style)
    else .error (.unmatched t)
  | name => .ok (styleName name :: opened)

/-- Why a text cannot be rendered, if it cannot. -/
def fault? (s : String) : Option Fault :=
  match (tagsFrom 0 0 0 s.toList).foldlM turn [] with
  | .ok _ => none
  | .error fault => some fault

example : fault? "[red]Error:[/red] in [1], \\[/x] and [not closed" = none := by decide +kernel

example : fault? "[b]bold[/b] [/]" = some (.nothingOpen 12) := by decide +kernel

end SecretSync.Cli.Markup

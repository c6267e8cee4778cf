import SecretSync.Data.Dict
import SecretSync.Number.Binary64
import SecretSync.Text.Quoted

/-!
# JSON values

Objects keep their members in order.  Besides the values of the data format there are three
views that the rest needs: whether a value counts as true, the sort of a value, and the plain
text that messages show it by.
-/

namespace SecretSync

/-- A JSON value; the members of an object are in the order of the text. -/
inductive Json where
  | null
  | bool (b : Bool)
  | int (n : Int)
  | real (x : Number.Binary64)
  | str (s : String)
  | arr (items : List Json)
  | obj (members : List (String × Json))
  deriving Repr, Inhabited

namespace Json

/-- The text that a value is. -/
def text? : Json → Option String
  | str s => some s
  | _ => none

/-- Whether a value is null. -/
def isNull : Json → Bool
  | null => true
  | _ => false

/-- Whether a value counts as true: null, false, zeros and empty values do not. -/
def isTruthy : Json → Bool
  | null => false
  | bool b => b
  | int n => n != 0
  | real x => !x.isZero
  | str s => !s.isEmpty
  | arr items => !items.isEmpty
  | obj members => !members.isEmpty

/-- The name that messages give to the sort of a value. -/
def kindName : Json → String
  | null => "NoneType"
  | bool _ => "bool"
  | int _ => "int"
  | real _ => "float"
  | str _ => "str"
  | arr _ => "list"
  | obj _ => "dict"

/-- The member of an object with a name; nothing for a missing member or another value. -/
def member? (name : String) : Json → Option Json
  | obj members => Dict.lookup name members
  | _ => none

/-- The members of an object; none for another value. -/
def members : Json → List (String × Json)
  | obj members => members
  | _ => []

/-- The object with one member set; another value counts as an empty object. -/
def setMember (object : Json) (name : String) (value : Json) : Json :=
  obj (Dict.put name value object.members)

/-- The object without one member; another value counts as an empty object. -/
def removeMember (object : Json) (name : String) : Json :=
  obj (object.members.filter (fun m => m.1 ≠ name))

/-- The object of a dictionary of texts. -/
def ofTexts (d : Dict String String) : Json := obj (d.entries.map (fun m => (m.1, str m.2)))

/-- Text or null. -/
def ofText? : Option String → Json
  | none => null
  | some s => str s

/-- Integer or null. -/
def ofInt? : Option Int → Json
  | none => null
  | some n => int n

/-- Texts put one after another with a text between. -/
def joined (between : String) : List String → String
  | [] => ""
  | [s] => s
  | s :: rest => s ++ between ++ joined between rest

mutual
/-- The text of a value inside a collection: texts are quoted. -/
def shown : Json → String
  | null => "None"
  | bool b => if b then "True" else "False"
  | int n => toString n
  | real x => x.text
  | str s => Text.quoted s
  | arr items => "[" ++ joined ", " (shownItems items) ++ "]"
  | obj members => "\x7b" ++ joined ", " (shownMembers members) ++ "\x7d"

/-- The texts of the items of a list. -/
def shownItems : List Json → List String
  | [] => []
  | v :: rest => shown v :: shownItems rest

/-- The texts of the members of an object. -/
def shownMembers : List (String × Json) → List String
  | [] => []
  | (k, v) :: rest => (Text.quoted k ++ ": " ++ shown v) :: shownMembers rest
end

/-- The plain text of a value: a text stands for itself. -/
def plain : Json → String
  | str s => s
  | v => shown v

end Json
end SecretSync

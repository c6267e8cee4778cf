import SecretSync.Schema.Scalar

/-!
# Records in JSON

A record is an object with named members.  A member may go by two names; the first one wins
when both are there, and issues are reported under the name that was found, or under the first
one when the member is absent.
-/

namespace SecretSync.Schema

/-- A text. -/
def text (value : Json) : Checked String := (Scalar.ofJson value).checkText

/-- A text without white space at its ends; one with halves of surrogate pairs is refused. -/
def trimmedText (value : Json) : Checked String :=
  (text value).andThen (fun s =>
    if Text.hasHalf s then .fault .textUndecodable else .ok (Text.trimWhiteSpace s))

/-- A whole number. -/
def integer (value : Json) : Checked Int := (Scalar.ofJson value).checkInteger

/-- A value that may be null. -/
def orNull {α : Type} (check : Json → Checked α) (value : Json) : Checked (Option α) :=
  match value with
  | .null => .ok none
  | value => (check value).map some

/-- A list of values. -/
def listOf {α : Type} (check : Json → Checked α) (value : Json) : Checked (List α) :=
  match value with
  | .arr items => Checked.items check items
  | _ => .fault .listExpected

/-- An object, whose members are then checked. -/
def record {α : Type} (value : Json) (check : List (String × Json) → Checked α) : Checked α :=
  match value with
  | .obj members => check members
  | _ => .fault .recordExpected

/-- The member that goes by one of two names, with the name it was found under. -/
def findMember (members : List (String × Json)) (name other : String) : Option (String × Json) :=
  match Dict.lookup name members with
  | some value => some (name, value)
  | none => (Dict.lookup other members).map (other, ·)

/-- A member that has to be there. -/
def required {α : Type} (members : List (String × Json)) (name other : String)
    (check : Json → Checked α) : Checked α :=
  match findMember members name other with
  | some (found, value) => (check value).under (.member found)
  | none => (Checked.fault .missing).under (.member name)

/-- A member that may be null or absent. -/
def optional {α : Type} (members : List (String × Json)) (name other : String)
    (check : Json → Checked α) : Checked (Option α) :=
  match findMember members name other with
  | some (found, value) => (orNull check value).under (.member found)
  | none => .ok none

/-- An object of texts; keys and values lose the white space at their ends. -/
def trimmedTexts (value : Json) : Checked (Dict String String) :=
  match value with
  | .obj members =>
    let entry (m : String × Json) : Checked (String × String) :=
      Prod.mk <$> (trimmedText (.str m.1)).under (.member "[key]") <*> trimmedText m.2
    (Checked.all (fun m => (entry m).under (.member m.1)) members).map Dict.ofList
  | _ => .fault .dictExpected

end SecretSync.Schema

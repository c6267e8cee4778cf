import SecretSync.Json.Basic
import SecretSync.Declaration.Basic
import SecretSync.Text.Base64
import SecretSync.Time.Timestamp

/-!
# Fields of views

A view is a JSON object that shows a value or that a value is read from.  Reading is lenient: a
member that is absent or of another sort counts as not given.
-/

namespace SecretSync.View

/-- A member of an object, null if it is absent. -/
def field (object : Json) (name : String) : Json := (object.member? name).getD .null

/-- The whole number that a value is. -/
def integer? : Json → Option Int
  | .int n => some n
  | _ => none

/-- The truth value that a value is. -/
def flag? : Json → Option Bool
  | .bool b => some b
  | _ => none

/-- The items of a list; none for another value. -/
def items : Json → List Json
  | .arr items => items
  | _ => []

/-- The dictionary of texts that a value is. -/
def texts? : Json → Option (Dict String String)
  | .obj members => some (Dict.ofList (members.map (fun m => (m.1, m.2.plain))))
  | _ => none

/-- A text member. -/
def textField (object : Json) (name : String) : Option String := (field object name).text?

/-- A text member, empty if it is not given. -/
def textOrEmpty (object : Json) (name : String) : String := (textField object name).getD ""

/-- A number member. -/
def integerField (object : Json) (name : String) : Option Int := integer? (field object name)

/-- The items of a list member. -/
def itemsField (object : Json) (name : String) : List Json := items (field object name)

/-- A time span member in milliseconds. -/
def spanField (object : Json) (name : String) : Time.Duration :=
  .ofMillis ((integerField object name).getD 0)

/-- The instant that a text denotes. -/
def instant? (value : Json) : Option Time.Instant :=
  value.text?.bind (fun s => (Time.Timestamp.parse s).toOption)

/-- The namespace and name of a key between a slash. -/
def key (s : String) : ObjectKey :=
  let cs := s.toList
  ⟨String.ofList (cs.takeWhile (· != '/')), String.ofList ((cs.dropWhile (· != '/')).drop 1)⟩

/-- A value that may be absent. -/
def optional {α : Type} (view : α → Json) : Option α → Json
  | none => .null
  | some a => view a

/-- A list of texts. -/
def textList (xs : List String) : Json := .arr (xs.map .str)

/-- An instant with all digits of its parts. -/
def instant (t : Time.Instant) : Json :=
  let n := Time.DateTime.ofInstant t
  let part (width : Nat) (i : Int) : String := String.ofList (Text.decimalText width i.toNat)
  .str (part 4 n.year ++ "-" ++ part 2 n.month ++ "-" ++ part 2 n.day ++ "T" ++
    part 2 n.hour ++ ":" ++ part 2 n.minute ++ ":" ++ part 2 n.second ++ "." ++
    part 6 n.microsecond ++ "Z")

/-- Octets in base64. -/
def octets (bytes : List UInt8) : Json := .str (Text.Base64.encode bytes)

/-- The octets of a base64 text. -/
def readOctets (value : Json) : List UInt8 := ((Text.Base64.decode value.plain).toOption).getD []

/-- Values under keys, in base64. -/
def data (d : Data) : Json := .obj (d.entries.map (fun e => (e.1, octets e.2)))

/-- The values of an object of base64 texts. -/
def readData (value : Json) : Data :=
  Dict.ofList (value.members.map (fun m => (m.1, readOctets m.2)))

end SecretSync.View

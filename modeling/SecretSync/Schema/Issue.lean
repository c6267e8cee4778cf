/-!
# Issues of a record

A record that does not have the form it should have is rejected with one issue per offending
value.  An issue says where the value stands and what is wrong with it.
-/

namespace SecretSync.Schema

/-- One step of the way to a value inside a record. -/
inductive Part where
  /-- A member with a name. -/
  | member (name : String)
  /-- An item of a list, or a member whose key is a number. -/
  | item (index : Int)
  deriving DecidableEq, Repr

/-- What is wrong with a value. -/
inductive Fault where
  /-- A text is expected. -/
  | textExpected
  /-- A text is expected, and what is there cannot be exchanged for UTF-8. -/
  | textUndecodable
  /-- A whole number is expected. -/
  | integerExpected
  /-- The number has a fraction. -/
  | integerFractional
  /-- The text spells no whole number. -/
  | integerUnparsable
  /-- The number is larger than is read. -/
  | integerTooLarge
  /-- The number is infinite or none at all. -/
  | notFinite
  /-- The member is required and absent. -/
  | missing
  /-- A truth value is expected. -/
  | flagExpected
  /-- Octets are expected. -/
  | octetsExpected
  /-- A list is expected. -/
  | listExpected
  /-- A dictionary is expected. -/
  | dictExpected
  /-- A record is expected. -/
  | recordExpected
  /-- The record has no such member. -/
  | unknownMember
  /-- The key of a member is no text. -/
  | keyNotText
  /-- The text is no JSON. -/
  | malformedJson
  /-- A rule of the member refuses the value, with this reason. -/
  | refused (reason : String)
  deriving DecidableEq, Repr

/-- The word for a fault. -/
def Fault.code : Fault → String
  | textExpected => "string_type"
  | textUndecodable => "string_unicode"
  | integerExpected => "int_type"
  | integerFractional => "int_from_float"
  | integerUnparsable => "int_parsing"
  | integerTooLarge => "int_parsing_size"
  | notFinite => "finite_number"
  | missing => "missing"
  | flagExpected => "bool_type"
  | octetsExpected => "bytes_type"
  | listExpected => "list_type"
  | dictExpected => "dict_type"
  | recordExpected => "model_type"
  | unknownMember => "extra_forbidden"
  | keyNotText => "invalid_key"
  | malformedJson => "json_invalid"
  | refused _ => "value_error"

/-- A fault and the place of the value, outermost part first. -/
structure Issue where
  path : List Part
  fault : Fault
  deriving DecidableEq, Repr

/-- The issue seen from one level further out. -/
def Issue.under (part : Part) (i : Issue) : Issue := { i with path := part :: i.path }

/-- A record that has been turned down: its name and its issues, at least one. -/
structure Rejection where
  title : String
  first : Issue
  rest : List Issue
  deriving DecidableEq, Repr

namespace Rejection

/-- All issues. -/
def issues (r : Rejection) : List Issue := r.first :: r.rest

/-- Number of issues. -/
def count (r : Rejection) : Nat := r.rest.length + 1

/-- The headline of a rejection: how many issues there are, and in which record.  The lines behind
it, which tell the issues one by one, are left out of every text that is made of it. -/
def message (r : Rejection) : String :=
  toString r.count ++ " validation error" ++ (if r.count = 1 then "" else "s") ++ " for " ++ r.title

end Rejection
end SecretSync.Schema

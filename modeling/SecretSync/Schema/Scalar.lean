import SecretSync.Json.Basic
import SecretSync.Schema.Checked
import SecretSync.Text.Half
import SecretSync.Text.Integer
import SecretSync.Text.Utf8

/-!
# Scalar members

The two sorts of scalar that records have: text and whole numbers.  Text is not made from other
values; a whole number may be given as a truth value, as a number without a fraction, or as
text that spells one.
-/

namespace SecretSync.Schema

/-- What a scalar member is read from. -/
inductive Scalar where
  | null
  | bool (b : Bool)
  | int (n : Int)
  | real (x : Number.Binary64)
  | text (s : String)
  | octets (bytes : List UInt8)
  /-- A list, a dictionary or another sort of value. -/
  | other
  deriving DecidableEq, Repr

/-- A JSON value as a scalar. -/
def Scalar.ofJson : Json → Scalar
  | .null => .null
  | .bool b => .bool b
  | .int n => .int n
  | .real x => .real x
  | .str s => .text s
  | .arr _ => .other
  | .obj _ => .other

namespace Scalar

/-- A text. -/
def checkText : Scalar → Checked String
  | text s => .ok s
  | octets bytes =>
    match Text.Utf8.decode bytes with
    | .ok s => .ok s
    | .error _ => .fault .textUndecodable
  | _ => .fault .textExpected

/-- The whole number that a text spells. -/
def integerOfText (s : String) : Checked Int :=
  if Text.hasHalf s then .fault .textUndecodable
  else
    match Text.Integer.ofField s with
    | .ok n => .ok n
    | .error .unparsable => .fault .integerUnparsable
    | .error .tooLong => .fault .integerTooLarge

/-- The whole number that a floating point number is. -/
def integerOfReal (x : Number.Binary64) : Checked Int :=
  if !x.isFinite then .fault .notFinite
  else
    match x.toInt? with
    | none => .fault .integerFractional
    | some n =>
      if -9223372036854775808 < n ∧ n < 9223372036854775808 then .ok n
      else .fault .integerTooLarge

/-- A whole number. -/
def checkInteger : Scalar → Checked Int
  | bool b => .ok (if b then 1 else 0)
  | int n => .ok n
  | real x => integerOfReal x
  | text s => integerOfText s
  | octets bytes =>
    match Text.Utf8.decode bytes with
    | .ok s => integerOfText s
    | .error _ => .fault .integerUnparsable
  | _ => .fault .integerExpected

/-- A value that may be null. -/
def orNull {α : Type} (check : Scalar → Checked α) : Scalar → Checked (Option α)
  | null => .ok none
  | s => (check s).map some

end Scalar
end SecretSync.Schema

import SecretSync.Text.Integer
import SecretSync.Text.Utf8
import SecretSync.Time.DateTime

/-!
# Faults of documents

Most faults are faults of form.  The others arise when a scalar of a declared or recognised kind
has no value.
-/

namespace SecretSync.Yaml

/-- Why a document has no value. -/
inductive Fault where
  /-- The document is not well-formed, or has a tag that is not known. -/
  | malformed
  /-- The text ends inside a quoted scalar. -/
  | unclosed
  /-- The rest of the text cannot be decoded. -/
  | undecodable (error : Text.Utf8.DecodeError)
  /-- An escape names a number that is no character. -/
  | noCharacter (code : Nat)
  /-- A number has no characters at all. -/
  | emptyNumber
  /-- A scalar spells no integer. -/
  | noInteger (fault : Text.Integer.SettingFault)
  /-- A scalar spells no floating point number. -/
  | noReal (text : String)
  /-- A scalar is no truth value. -/
  | noBoolean (text : String)
  /-- A scalar is not written as a date. -/
  | noTimestamp
  /-- A scalar is written as a date that the calendar does not have. -/
  | badTimestamp (error : Time.TimeError)
  /-- A date is given by a mapping. -/
  | noText
  /-- A power of sixty is too large for a floating point number. -/
  | tooLarge
  /-- Collections are nested too deeply, or a mapping stands for a text that it stands in. -/
  | tooDeep
  deriving DecidableEq, Repr

/-- The text of a fault. -/
def Fault.message : Fault → String
  | malformed => "malformed document"
  | unclosed => "malformed document"
  | undecodable error => error.message
  | noCharacter code =>
    if code < 0x80000000 then "chr() arg not in range(0x110000)"
    else "Python int too large to convert to C int"
  | emptyNumber => "string index out of range"
  | noInteger fault => fault.message
  | noReal text => "could not convert string to float: " ++ Text.quoted text
  | noBoolean text => Text.quoted text
  | noTimestamp => "no date"
  | badTimestamp error => error.message
  | noText => "no text"
  | tooLarge => "int too large to convert to float"
  | tooDeep => "maximum recursion depth exceeded"

end SecretSync.Yaml

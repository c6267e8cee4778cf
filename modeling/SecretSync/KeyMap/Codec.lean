import SecretSync.Json.Parser
import SecretSync.Json.Printer
import SecretSync.KeyMap.Basic
import SecretSync.Schema.Record

/-!
# Key maps as text

A key map is written as indented JSON: a list of records with the members `bwSecretId` and
`secretKeyName`.  Reading also accepts the member names `bw_secret_id` and `secret_key_name`
and ignores other members.
-/

namespace SecretSync
namespace Mapping

/-- A line as a record. -/
def toJson (m : Mapping) : Json :=
  .obj [("bwSecretId", .str m.secretId), ("secretKeyName", .str m.keyName)]

/-- The line that a record holds. -/
def check (value : Json) : Schema.Checked Mapping :=
  Schema.record value (fun members =>
    Mapping.mk <$> Schema.required members "bwSecretId" "bw_secret_id" Schema.text
      <*> Schema.required members "secretKeyName" "secret_key_name" Schema.text)

end Mapping

namespace KeyMap

/-- A key map as a list of records. -/
def toJson (m : KeyMap) : Json := .arr (m.map Mapping.toJson)

/-- The text of a key map. -/
def serialize (m : KeyMap) : String := m.toJson.indented

/-- The key map that a list of records holds. -/
def check (value : Json) : Schema.Checked KeyMap := Schema.listOf Mapping.check value

/-- The name of the record that a key map's text holds. -/
def title : String := "list[SecretMapping]"

/-- The key map that a text holds. -/
def parse (text : String) : Except Schema.Rejection KeyMap :=
  (match Json.parse? text with
    | none => Schema.Checked.fault .malformedJson
    | some value => check value).run title

end KeyMap
end SecretSync

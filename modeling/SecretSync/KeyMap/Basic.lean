import SecretSync.Data.Dict

/-!
# Key maps

A key map lists which secrets of the vault go into the target, and under which key each one is
stored.  `KeyMap.apply` narrows and renames vault data by a key map; `KeyMap.restore` brings
stored data back to the ids of the vault as far as the key map tells them.
-/

namespace SecretSync

/-- The decoded values of a secret: octets under keys. -/
abbrev Data := Dict String (List UInt8)

/-- One line of a key map. -/
structure Mapping where
  /-- The id of a secret in the vault. -/
  secretId : String
  /-- The key of the target under which it is stored. -/
  keyName : String
  deriving DecidableEq, Repr

/-- A key map: its lines in order. -/
abbrev KeyMap := List Mapping

namespace KeyMap

/-- Store the value of the line's id, if there is one, under the line's key; a value that an
earlier line has put there is replaced. -/
def applyLine (data acc : Data) (line : Mapping) : Data :=
  match data.get? line.secretId with
  | some value => acc.insert line.keyName value
  | none => acc

/-- The data that a key map makes from vault data; ids without a value are left out. -/
def apply (m : KeyMap) (data : Data) : Data := m.foldl (applyLine data) Dict.empty

/-- Take the value of the line's key, if there is one, as the value of the line's id, unless
that id has one already. -/
def restoreLine (data acc : Data) (line : Mapping) : Data :=
  match data.get? line.keyName with
  | some value => acc.insertNew line.secretId value
  | none => acc

/-- The vault data that a key map finds in stored data. -/
def restore (m : KeyMap) (data : Data) : Data := m.foldl (restoreLine data) Dict.empty

/-- The data for a target: all of it without a key map. -/
def applyOptional (m : Option KeyMap) (data : Data) : Data :=
  match m with
  | none => data
  | some m => m.apply data

end KeyMap
end SecretSync

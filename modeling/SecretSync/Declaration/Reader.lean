import SecretSync.Declaration.Basic
import SecretSync.KeyMap.Codec
import SecretSync.Time.Timestamp

/-!
# Reading declarations

A declaration is read from an object of the cluster.  The conditions of the status are read
first, then the spec, then the watermark, and the metadata last; the first of these that fails
decides how reading fails.
-/

namespace SecretSync

/-- An operation that a value does not support. -/
inductive ShapeFault where
  /-- A member was looked up in a value of this kind. -/
  | noMembers (kind : String)
  /-- The items of a value of this kind were asked for. -/
  | noItems (kind : String)
  deriving DecidableEq, Repr

/-- The text of a shape fault. -/
def ShapeFault.message : ShapeFault → String
  | noMembers kind => "'" ++ kind ++ "' object has no attribute 'get'"
  | noItems kind => "'" ++ kind ++ "' object is not iterable"

/-- Why an object is no declaration. -/
inductive ReadError where
  /-- A value has not the shape that its members are looked up in. -/
  | shape (fault : ShapeFault)
  /-- A timestamp cannot be read. -/
  | time (error : Time.TimeError)
  /-- A record is turned down. -/
  | rejected (rejection : Schema.Rejection)
  deriving DecidableEq, Repr

/-- The text of a read error. -/
def ReadError.message : ReadError → String
  | shape fault => fault.message
  | time error => error.message
  | rejected rejection => rejection.message

namespace Declaration

/-- The members of an object. -/
def membersOf (value : Json) : Except ReadError (List (String × Json)) :=
  match value with
  | .obj members => .ok members
  | value => .error (.shape (.noMembers value.kindName))

/-- The items that a value is gone through by: those of a list, the characters of a text and
the names of the members of an object. -/
def itemsOf (value : Json) : Except ReadError (List Json) :=
  match value with
  | .arr items => .ok items
  | .str s => .ok (s.toList.map (fun c => .str (String.singleton c)))
  | .obj members => .ok (members.map (fun m => .str m.1))
  | value => .error (.shape (.noItems value.kindName))

/-- A member, or a default if it is absent. -/
def memberOr (members : List (String × Json)) (name : String) (default : Json) : Json :=
  (Dict.lookup name members).getD default

/-- A member, or a default if it is absent or counts as false. -/
def truthyOr (members : List (String × Json)) (name : String) (default : Json) : Json :=
  let value := memberOr members name .null
  if value.isTruthy then value else default

/-- An error of a timestamp as a read error. -/
def timestamp (value : Json) : Except ReadError (Option Time.Instant) :=
  (Time.Timestamp.ofField value).mapError .time

/-- A checked record as a result. -/
def accept {α : Type} (title : String) (checked : Schema.Checked α) : Except ReadError α :=
  (checked.run title).mapError .rejected

/-- A condition. -/
def readCondition (value : Json) : Except ReadError Condition := do
  let members ← membersOf value
  let lastTransition ← timestamp (memberOr members "lastTransitionTime" .null)
  accept "StatusCondition" <|
    (fun type status reason message observed =>
      (⟨type, status, reason, message, lastTransition, observed⟩ : Condition))
    <$> (Schema.text (memberOr members "type" (.str ""))).under (.member "type")
    <*> (Schema.text (memberOr members "status" (.str "Unknown"))).under (.member "status")
    <*> (Schema.text (memberOr members "reason" (.str ""))).under (.member "reason")
    <*> (Schema.text (memberOr members "message" (.str ""))).under (.member "message")
    <*> (Schema.orNull Schema.integer (memberOr members "observedGeneration" .null)).under
      (.member "observed_generation")

/-- A reference to an access token. -/
def checkTokenRef (value : Json) : Schema.Checked TokenRef :=
  Schema.record value (fun members =>
    TokenRef.mk <$> Schema.required members "secretName" "secret_name" Schema.text
      <*> Schema.required members "secretKey" "secret_key" Schema.text)

/-- A spec. -/
def checkSpec (value : Json) : Schema.Checked Spec :=
  Schema.record value (fun members =>
    Spec.mk <$> Schema.required members "organizationId" "organization_id" Schema.text
      <*> Schema.required members "secretName" "secret_name" Schema.text
      <*> Schema.required members "authToken" "auth_token" checkTokenRef
      <*> Schema.optional members "map" "secret_map" KeyMap.check)

/-- The metadata, around a spec and a status; white space at the ends of texts is dropped. -/
def checkMetadata (metadata : List (String × Json)) (spec : Spec) (status : Status) :
    Schema.Checked Declaration :=
  (fun name ns uid resourceVersion labels annotations generation =>
    (⟨name, ns, uid, resourceVersion, generation, labels, annotations, spec, status⟩ : Declaration))
  <$> (Schema.trimmedText (memberOr metadata "name" (.str ""))).under (.member "name")
  <*> (Schema.orNull Schema.trimmedText (memberOr metadata "namespace" .null)).under
    (.member "namespace")
  <*> (Schema.orNull Schema.trimmedText (memberOr metadata "uid" .null)).under (.member "uid")
  <*> (Schema.orNull Schema.trimmedText (memberOr metadata "resourceVersion" .null)).under
    (.member "resource_version")
  <*> (Schema.trimmedTexts (truthyOr metadata "labels" (.obj []))).under
    (.member "labels")
  <*> (Schema.trimmedTexts (truthyOr metadata "annotations" (.obj []))).under
    (.member "annotations")
  <*> (Schema.orNull Schema.integer (memberOr metadata "generation" .null)).under
    (.member "generation")

/-- The declaration that an object of the cluster holds. -/
def ofObject (object : Json) : Except ReadError Declaration := do
  let members ← membersOf object
  let statusMembers ← membersOf (truthyOr members "status" (.obj []))
  let items ← itemsOf (truthyOr statusMembers "conditions" (.arr []))
  let conditions ← items.mapM readCondition
  let metadata ← membersOf (memberOr members "metadata" (.obj []))
  let spec ← accept "BitwardenSecretSpec" (checkSpec (truthyOr members "spec" (.obj [])))
  let lastSync ← timestamp (memberOr statusMembers "lastSuccessfulSyncTime" .null)
  accept "BitwardenSecret" (checkMetadata metadata spec ⟨lastSync, conditions⟩)

end Declaration
end SecretSync

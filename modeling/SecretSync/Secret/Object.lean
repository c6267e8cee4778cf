import SecretSync.Schema.Issue
import SecretSync.Secret.Basic
import SecretSync.Text.Base64

/-!
# Secrets as the cluster stores them

In the cluster, values are base64 text and most fields may be absent.  `Secret.ofObject` reads
such an object, decoding the values and filling the gaps; `Secret.toObject` writes the body of
a request.
-/

namespace SecretSync

/-- An owner reference in the cluster. -/
structure OwnerObject where
  apiVersion : String
  kind : String
  name : String
  uid : String
  controller : Option Bool
  blockOwnerDeletion : Option Bool
  deriving DecidableEq, Repr

/-- The metadata of a secret in the cluster. -/
structure SecretMetadata where
  name : Option String
  ns : Option String
  uid : Option String
  resourceVersion : Option String
  labels : Option (Dict String String)
  annotations : Option (Dict String String)
  owners : Option (List OwnerObject)
  deriving DecidableEq, Repr

/-- A secret in the cluster, or the body of a request. -/
structure SecretObject where
  /-- Version and kind of the object; only request bodies carry them. -/
  envelope : Option (String × String)
  metadata : Option SecretMetadata
  type : Option String
  data : Option (Dict String String)
  /-- What is wrong with the form of an object that others have written. -/
  defect : Option Schema.Rejection := none
  deriving DecidableEq, Repr

/-- Why an object of the cluster holds no secret. -/
inductive SecretError where
  /-- The object has not the form of a secret. -/
  | rejected (rejection : Schema.Rejection)
  /-- A value cannot be decoded. -/
  | undecodable (error : Text.Base64.DecodeError)
  deriving DecidableEq, Repr

/-- The text of an error. -/
def SecretError.message : SecretError → String
  | rejected rejection => rejection.message
  | undecodable error => error.message

namespace SecretMetadata

/-- Metadata without any content. -/
def absent : SecretMetadata := ⟨none, none, none, none, none, none, none⟩

end SecretMetadata

namespace SecretObject

/-- The fields of the metadata, without content if there is none. -/
def fields (o : SecretObject) : SecretMetadata := o.metadata.getD SecretMetadata.absent

/-- The version by which concurrent writers are told apart. -/
def resourceVersion (o : SecretObject) : Option String := o.fields.resourceVersion

/-- The object as the cluster stores it under a namespace, with a uid and a version. -/
def stored (o : SecretObject) (ns : Option String) (uid : Option String) (version : String) :
    SecretObject :=
  let metadata := { o.fields with ns := ns, uid := uid, resourceVersion := some version }
  { o with metadata := some metadata }

end SecretObject

/-- Decode every value of base64 text; the first that cannot be decoded is reported. -/
def decodeValues :
    List (String × String) → Except Text.Base64.DecodeError (List (String × List UInt8))
  | [] => .ok []
  | (key, text) :: rest => do
    let value ← Text.Base64.decode text
    let values ← decodeValues rest
    return (key, value) :: values

namespace OwnerRef

/-- An owner reference of the cluster; flags that are not set count as false. -/
def ofObject (o : OwnerObject) : OwnerRef :=
  ⟨o.apiVersion, o.kind, o.name, o.uid, o.controller.getD false, o.blockOwnerDeletion.getD false⟩

/-- An owner reference for the cluster. -/
def toObject (o : OwnerRef) : OwnerObject :=
  ⟨o.apiVersion, o.kind, o.name, o.uid, some o.controller, some o.blockOwnerDeletion⟩

end OwnerRef

namespace Secret

/-- The secret that an object of the cluster holds. -/
def ofObject (o : SecretObject) : Except SecretError Secret := do
  match o.defect with
  | some rejection => throw (.rejected rejection)
  | none => pure ()
  let values ← (decodeValues (o.data.getD Dict.empty).entries).mapError .undecodable
  return {
    name := o.fields.name.getD ""
    ns := o.fields.ns
    uid := o.fields.uid
    resourceVersion := o.fields.resourceVersion
    labels := o.fields.labels.getD Dict.empty
    annotations := o.fields.annotations.getD Dict.empty
    type := o.type.getD opaqueType
    data := Dict.ofList values
    owners := (o.fields.owners.getD []).map OwnerRef.ofObject }

/-- The body of a request that writes a secret. -/
def toObject (s : Secret) : SecretObject where
  envelope := some ("v1", "Secret")
  metadata := some {
    name := some s.name
    ns := s.ns
    uid := none
    resourceVersion := s.resourceVersion
    labels := some s.labels
    annotations := some s.annotations
    owners := if s.owners.isEmpty then none else some (s.owners.map OwnerRef.toObject) }
  type := some s.type
  data := some (s.data.mapValues Text.Base64.encode)

end Secret
end SecretSync

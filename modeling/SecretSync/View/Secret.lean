import SecretSync.Secret.Form
import SecretSync.Secret.Object
import SecretSync.View.Field

/-!
# Views of secrets
-/

namespace SecretSync

/-- An owner reference. -/
def OwnerObject.view (r : OwnerObject) : Json := .obj [
  ("api_version", .str r.apiVersion), ("kind", .str r.kind), ("name", .str r.name),
  ("uid", .str r.uid),
  ("controller", View.optional .bool r.controller),
  ("block_owner_deletion", View.optional .bool r.blockOwnerDeletion)]

/-- The owner reference of a view. -/
def OwnerObject.ofView (v : Json) : OwnerObject :=
  ⟨View.textOrEmpty v "api_version", View.textOrEmpty v "kind", View.textOrEmpty v "name",
    View.textOrEmpty v "uid", View.flag? (View.field v "controller"),
    View.flag? (View.field v "block_owner_deletion")⟩

/-- The metadata of a stored secret or of a request body; bodies have no uid. -/
def SecretMetadata.view (withUid : Bool) (m : SecretMetadata) : Json := .obj ([
  ("name", Json.ofText? m.name), ("namespace", Json.ofText? m.ns),
  ("resource_version", Json.ofText? m.resourceVersion),
  ("labels", View.optional Json.ofTexts m.labels),
  ("annotations", View.optional Json.ofTexts m.annotations),
  ("owner_references", View.optional (fun rs => .arr (rs.map OwnerObject.view)) m.owners)] ++
  (if withUid then [("uid", Json.ofText? m.uid)] else []))

/-- The metadata of a view. -/
def SecretMetadata.ofView (v : Json) : SecretMetadata where
  name := View.textField v "name"
  ns := View.textField v "namespace"
  uid := View.textField v "uid"
  resourceVersion := View.textField v "resource_version"
  labels := View.texts? (View.field v "labels")
  annotations := View.texts? (View.field v "annotations")
  owners := match View.field v "owner_references" with
    | .arr items => some (items.map OwnerObject.ofView)
    | _ => none

/-- A stored secret, or a request body, which has no uid. -/
def SecretObject.view (withUid : Bool) (o : SecretObject) : Json := .obj [
  ("api_version", Json.ofText? (o.envelope.map Prod.fst)),
  ("kind", Json.ofText? (o.envelope.map Prod.snd)),
  ("type", Json.ofText? o.type), ("data", View.optional Json.ofTexts o.data),
  ("metadata", o.fields.view withUid)]

/-- The stored secret of a view. -/
def SecretObject.ofView (v : Json) : SecretObject where
  envelope := none
  metadata := match View.field v "metadata" with
    | .obj members => some (SecretMetadata.ofView (.obj members))
    | _ => none
  type := View.textField v "type"
  data := View.texts? (View.field v "data")
  defect := SecretForm.defect? v

/-- A secret. -/
def Secret.view (s : Secret) : Json := .obj [
  ("key", .str s.fullName), ("name", .str s.name), ("namespace", Json.ofText? s.ns),
  ("uid", Json.ofText? s.uid), ("resource_version", Json.ofText? s.resourceVersion),
  ("labels", Json.ofTexts s.labels), ("annotations", Json.ofTexts s.annotations),
  ("type", .str s.type),
  ("data", View.data s.data), ("owner_references", .arr (s.owners.map (fun o => o.toObject.view)))]

/-- The secret of a view. -/
def Secret.ofView (v : Json) : Secret where
  name := View.textOrEmpty v "name"
  ns := View.textField v "namespace"
  uid := View.textField v "uid"
  resourceVersion := View.textField v "resource_version"
  labels := (View.texts? (View.field v "labels")).getD Dict.empty
  annotations := (View.texts? (View.field v "annotations")).getD Dict.empty
  type := (View.textField v "type").getD opaqueType
  data := View.readData (View.field v "data")
  owners := (View.itemsField v "owner_references").map
    (fun r => OwnerRef.ofObject (OwnerObject.ofView r))

end SecretSync

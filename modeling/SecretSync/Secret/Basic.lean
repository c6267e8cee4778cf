import SecretSync.Declaration.Basic

/-!
# Secrets

A secret as the operator works on it: decoded values under keys, and metadata without gaps.
`Secret.own` makes a declaration the controller of a secret, and says when it must not.
-/

namespace SecretSync

/-- A reference to an object that owns a secret. -/
structure OwnerRef where
  apiVersion : String
  kind : String
  name : String
  uid : String
  /-- Whether the owner is the one that manages the secret. -/
  controller : Bool
  blockOwnerDeletion : Bool
  deriving DecidableEq, Repr

/-- A secret with decoded values. -/
structure Secret where
  name : String
  ns : Option String
  uid : Option String
  resourceVersion : Option String
  labels : Dict String String
  annotations : Dict String String
  type : String
  data : Data
  owners : List OwnerRef
  deriving DecidableEq, Repr

/-- Why a declaration cannot control a secret. -/
inductive OwnershipError where
  /-- The declaration has no uid. -/
  | ownerWithoutUid (owner : String)
  /-- Declaration and secret lie in different namespaces. -/
  | foreignNamespace (owner secret : String)
  /-- Another object controls the secret. -/
  | controlledByOther (secret kind name : String)
  deriving DecidableEq, Repr

/-- The text of an ownership error. -/
def OwnershipError.message : OwnershipError → String
  | ownerWithoutUid owner => Declaration.kind ++ " " ++ owner ++ " has no uid"
  | foreignNamespace owner secret =>
    "cross-namespace owner references are disallowed: owner " ++ owner ++ ", Secret " ++ secret
  | controlledByOther secret kind name =>
    "Secret " ++ secret ++ " is already controlled by " ++ kind ++ " " ++ name

namespace Secret

/-- The type of secrets that the operator creates. -/
def opaqueType : String := "Opaque"

/-- The label that names the uid of the declaration that a secret was created for. -/
def ownerLabel : String := Declaration.apiGroup ++ "/bw-secret"

/-- The name that messages show. -/
def fullName (s : Secret) : String := qualifiedName s.ns s.name

/-- The empty secret that a declaration's target starts as. -/
def shell (d : Declaration) : Secret where
  name := d.spec.secretName
  ns := d.ns
  uid := none
  resourceVersion := none
  labels := Dict.empty.insert ownerLabel (d.uid.getD "")
  annotations := Dict.empty
  type := opaqueType
  data := Dict.empty
  owners := []

/-- The reference by which a declaration controls a secret. -/
def controllerRef (d : Declaration) (uid : String) : OwnerRef :=
  ⟨Declaration.groupVersion, Declaration.kind, d.name, uid, true, true⟩

/-- Make a declaration the controller of a secret. -/
def own (d : Declaration) (s : Secret) : Except OwnershipError Secret :=
  let uid := d.uid.getD ""
  if uid.isEmpty then .error (.ownerWithoutUid d.fullName)
  else if d.ns ≠ s.ns then .error (.foreignNamespace d.fullName s.fullName)
  else
    match s.owners.find? (fun o => o.controller && o.uid ≠ uid) with
    | some o => .error (.controlledByOther s.fullName o.kind o.name)
    | none =>
      .ok { s with owners := s.owners.filter (fun o => o.uid ≠ uid) ++ [controllerRef d uid] }

/-- Add changed values; keys that are not among them keep theirs. -/
def addValues (s : Secret) (values : Data) : Secret := { s with data := s.data.merge values }

/-- The value under a key. -/
def value? (s : Secret) (key : String) : Option (List UInt8) := s.data.get? key

end Secret
end SecretSync

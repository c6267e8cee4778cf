import SecretSync.KeyMap.Basic
import SecretSync.Time.Instant

/-!
# Declarations

A declaration asks for a target secret: which organisation of the vault it is filled from, where
the access token lies and which key map applies.  Its status tells how the last attempts ended.
-/

namespace SecretSync

/-- The namespace and the name of a stored object. -/
structure ObjectKey where
  /-- The namespace, empty for none. -/
  ns : String
  /-- The name within the namespace. -/
  name : String
  deriving DecidableEq, Repr

/-- A key as logs and messages show it. -/
def ObjectKey.text (k : ObjectKey) : String := k.ns ++ "/" ++ k.name

/-- The name of an object, behind its namespace if it has a non-empty one. -/
def qualifiedName (ns : Option String) (name : String) : String :=
  match ns with
  | none => name
  | some ns => if ns.isEmpty then name else ns ++ "/" ++ name

/-- Where the access token of a declaration lies. -/
structure TokenRef where
  /-- The secret that holds it. -/
  secretName : String
  /-- The key of that secret. -/
  secretKey : String
  deriving DecidableEq, Repr

/-- What a declaration asks for. -/
structure Spec where
  /-- The organisation of the vault. -/
  organizationId : String
  /-- The name of the target secret. -/
  secretName : String
  /-- The access token. -/
  authToken : TokenRef
  /-- The key map; without one every vault secret is stored under its id. -/
  map : Option KeyMap
  deriving DecidableEq, Repr

/-- One condition of a status. -/
structure Condition where
  type : String
  status : String
  reason : String
  message : String
  /-- When the status of the condition last changed. -/
  lastTransition : Option Time.Instant
  /-- The generation of the declaration that the condition is about. -/
  observedGeneration : Option Int
  deriving DecidableEq, Repr

/-- What is known about the attempts so far. -/
structure Status where
  /-- The watermark: vault changes before it have been taken over. -/
  lastSync : Option Time.Instant
  conditions : List Condition
  deriving DecidableEq, Repr

/-- A declaration. -/
structure Declaration where
  name : String
  ns : Option String
  uid : Option String
  resourceVersion : Option String
  generation : Option Int
  labels : Dict String String
  annotations : Dict String String
  spec : Spec
  status : Status
  deriving DecidableEq, Repr

namespace Declaration

/-- The API group of declarations. -/
def apiGroup : String := "k8s.bitwarden.com"

/-- The version of the API group. -/
def apiVersion : String := "v1"

/-- Group and version, as owner references name them. -/
def groupVersion : String := apiGroup ++ "/" ++ apiVersion

/-- The kind of declarations. -/
def kind : String := "BitwardenSecret"

/-- The name of the collection of declarations. -/
def plural : String := "bitwardensecrets"

/-- The name that messages show. -/
def fullName (d : Declaration) : String := qualifiedName d.ns d.name

/-- The key under which the declaration is scheduled. -/
def key (d : Declaration) : ObjectKey := ⟨d.ns.getD "", d.name⟩

end Declaration
end SecretSync

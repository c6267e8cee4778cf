import SecretSync.World.Basic

/-!
# Requests to the cluster

What the cluster does with each request.  A request is noted, may be hit by a fault that is
waiting for its sort, and then reads or writes the stored objects.  Every accepted write gets a
new version, which the written object carries as its resource version.
-/

namespace SecretSync.Cluster

/-- A request that may fail. -/
abbrev Request := ExceptT Fault Act

/-- The object does not exist. -/
def absent : Fault := .refused (some 404) (some "Not Found")

/-- The object exists already, or has another version than expected. -/
def conflicting : Fault := .refused (some 409) (some "Conflict")

/-- The next fault that waits for a sort of request. -/
def takeFault (api : Api) : Act (Option Fault) := do
  let w ← get
  match w.faults.get? api with
  | some (fault :: rest) =>
    set { w with faults := w.faults.insert api rest }
    return fault
  | _ => return none

/-- Send a request: others get their turn, the call is noted, and a waiting fault strikes. -/
def send (api : Api) (call : Call) : Request Unit := do
  Act.yieldToOthers
  Act.note call
  match ← takeFault api with
  | some fault => throw fault
  | none => return ()

/-- The version of a new write. -/
def nextVersion : Act String := do
  modify (fun w => { w with version := w.version + 1 })
  return toString (← get).version

/-- The order of keys in a list of objects. -/
def keyLe (a b : ObjectKey) : Bool := a.ns < b.ns || (a.ns == b.ns && a.name ≤ b.name)

/-- The stored declarations of a namespace, or all of them, in the order of their keys. -/
def World.declarationsIn (w : World) (ns : Option String) : List Json :=
  let inScope (k : ObjectKey) : Bool := match ns with
    | some ns => k.ns = ns
    | none => true
  let found := w.declarations.entries.filter (fun e => inScope e.1)
  (found.mergeSort (fun a b => keyLe a.1 b.1)).map Prod.snd

/-- Read a declaration. -/
def getDeclaration (key : ObjectKey) (timeout : Int) : Request Json := do
  send .getDeclaration (.getDeclaration key timeout)
  match (← get).declarations.get? key with
  | some object => return object
  | none => throw absent

/-- Read all declarations of a namespace, or all there are. -/
def listDeclarations (ns : Option String) (timeout : Int) : Request Json := do
  send .listDeclarations (.listDeclarations ns timeout)
  let w ← get
  match w.listOverride with
  | some answer => return answer
  | none =>
    return .obj [("metadata", .obj [("resourceVersion", .str (toString w.version))]),
      ("items", .arr (World.declarationsIn w ns))]

/-- A declaration with the members of a new status put over those of the stored one, under a new
version. -/
def patched (object body : Json) (version : String) : Json :=
  let news := ((body.member? "status").getD .null).members
  let old := (object.member? "status").getD .null
  let status := news.foldl (fun acc m => acc.setMember m.1 m.2) old
  let status := match status with
    | .obj members => .obj members
    | _ => .obj []
  let metadata := (object.member? "metadata").getD .null
  let metadata := metadata.setMember "resourceVersion" (.str version)
  (object.setMember "status" status).setMember "metadata" metadata

/-- Write the status of a declaration. -/
def patchStatus (key : ObjectKey) (body : Json) (timeout : Int) : Request Json := do
  send .patchStatus (.patchStatus key body timeout)
  match (← get).declarations.get? key with
  | none => throw absent
  | some object =>
    let object := patched object body (← nextVersion)
    modify (fun w => { w with declarations := w.declarations.insert key object })
    return object

/-- Read a secret. -/
def readSecret (key : ObjectKey) (timeout : Int) : Request SecretObject := do
  send .readSecret (.readSecret key timeout)
  match (← get).secrets.get? key with
  | some object => return object
  | none => throw absent

/-- Store a secret that does not exist yet. -/
def createSecret (ns : String) (body : SecretObject) (timeout : Int) : Request SecretObject := do
  send .createSecret (.createSecret ns body timeout)
  let key : ObjectKey := ⟨ns, body.fields.name.getD ""⟩
  if (← get).secrets.contains key then throw conflicting
  else
    let version ← nextVersion
    let object := body.stored (some ns) (some ("uid-" ++ version)) version
    modify (fun w => { w with secrets := w.secrets.insert key object })
    return object

/-- Store a secret over the one that is there, unless that one has another version than the body
says. -/
def replaceSecret (key : ObjectKey) (body : SecretObject) (timeout : Int) :
    Request SecretObject := do
  send .replaceSecret (.replaceSecret key body timeout)
  match (← get).secrets.get? key with
  | none => throw absent
  | some old =>
    if body.resourceVersion.isSome ∧ body.resourceVersion ≠ old.resourceVersion then
      throw conflicting
    else
      let object := body.stored (some key.ns) old.fields.uid (← nextVersion)
      modify (fun w => { w with secrets := w.secrets.insert key object })
      return object

end SecretSync.Cluster

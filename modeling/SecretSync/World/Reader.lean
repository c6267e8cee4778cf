import SecretSync.View.Secret
import SecretSync.World.Basic

/-!
# Reading a world

A world can be described by a JSON object: the time, why credentials cannot be loaded, what the
vault answers, what comes over watches, and what goes wrong with requests.
-/

namespace SecretSync

/-- The answer to a login. -/
def Vault.LoginAnswer.ofView (v : Json) : Vault.LoginAnswer :=
  ⟨View.spanField v "advance_ms", View.textField v "raise", v.member? "success",
    v.member? "error_message"⟩

/-- The answer to a request for changes. -/
def Vault.SyncAnswer.ofView (v : Json) : Vault.SyncAnswer :=
  ⟨View.spanField v "advance_ms", View.textField v "raise", v.member? "error_message",
    v.member? "data"⟩

/-- A session; answers that are not described are those of a quiet session. -/
def Vault.Session.ofView (v : Json) : Vault.Session :=
  ⟨View.textField v "construct_error",
    (v.member? "login").elim Vault.Session.accepted Vault.LoginAnswer.ofView,
    (v.member? "sync").elim Vault.Session.unchanged Vault.SyncAnswer.ofView⟩

/-- An item of a watch; `readFault` reads what breaks it. -/
def WindowItem.ofView (readFault : Json → Fault) (v : Json) : WindowItem :=
  match v with
  | .obj (("event", value) :: _) => .event value
  | .obj (("advance_ms", _) :: _) => .advance (View.spanField v "advance_ms")
  | .obj (("raise", fault) :: _) => .failure (readFault fault)
  | _ => .stop

/-- A fault of a request. -/
def Fault.ofView (v : Json) : Fault :=
  match View.textField v "http", View.textField v "other" with
  | some s, _ => .transport s
  | none, some s => .other s
  | none, none => .refused (View.integerField v "status") (View.textField v "reason")

namespace World

/-- The world of a description, without objects. -/
def ofView (v : Json) : World :=
  let kube := View.field v "kube"
  { atTime ((View.instant? (View.field v "clock")).getD
      ((View.instant? (.str "2024-05-01T12:00:00Z")).getD default)) with
    kubeconfigFailure := View.textField kube "kubeconfig_error"
    inClusterFailure := View.textField kube "incluster_error" }

/-- Let further requests of a sort go wrong; null stands for one that does not. -/
def addFaults (readFault : Json → Fault) (api : Api) (faults : List Json) (w : World) : World :=
  let queue := faults.map (fun v => match v with
    | .null => none
    | v => some (readFault v))
  { w with faults := w.faults.insert api ((w.faults.get? api).getD [] ++ queue) }

/-- The requests that can go wrong, with the names that descriptions use. -/
def apis : List (String × Api) := [
  ("get_bw", .getDeclaration), ("list_bw", .listDeclarations), ("patch_status", .patchStatus),
  ("read_secret", .readSecret), ("create_secret", .createSecret),
  ("replace_secret", .replaceSecret)]

/-- Let further requests of a named sort go wrong. -/
def addNamedFaults (readFault : Json → Fault) (name : String) (faults : List Json) (w : World) :
    World :=
  match apis.lookup name with
  | some api => w.addFaults readFault api faults
  | none => w

/-- The world of a description, with its objects, sessions, watches and faults. -/
def ofFullView (readFault : Json → Fault) (v : Json) : World :=
  let w := { ofView v with
    sessions := (View.itemsField v "sessions").map Vault.Session.ofView
    windows := (View.itemsField v "windows").map (fun items =>
      (View.items items).map (WindowItem.ofView readFault)) }
  let w := (View.field v "bw").members.foldl (fun w m =>
    w.disturb (.putDeclaration (View.key m.1) m.2)) w
  let w := (View.field v "secrets").members.foldl (fun w m =>
    w.disturb (.putSecret (View.key m.1) (SecretObject.ofView m.2))) w
  (View.field v "fail").members.foldl (fun w m => w.addNamedFaults readFault m.1 (View.items m.2)) w

end World
end SecretSync

import SecretSync.View.Field

/-!
# Views of declarations
-/

namespace SecretSync

/-- A key map as pairs of an id and a key. -/
def KeyMap.view (m : KeyMap) : Json :=
  .arr (m.map (fun line => View.textList [line.secretId, line.keyName]))

/-- A condition. -/
def Condition.view (c : Condition) : Json := .obj [
  ("type", .str c.type), ("status", .str c.status), ("reason", .str c.reason),
  ("message", .str c.message),
  ("last_transition_time", View.optional View.instant c.lastTransition),
  ("observed_generation", Json.ofInt? c.observedGeneration)]

/-- A spec. -/
def Spec.view (s : Spec) : Json := .obj [
  ("organization_id", .str s.organizationId), ("secret_name", .str s.secretName),
  ("auth_token", View.textList [s.authToken.secretName, s.authToken.secretKey]),
  ("map", View.optional KeyMap.view s.map)]

/-- A status. -/
def Status.view (s : Status) : Json := .obj [
  ("last_successful_sync_time", View.optional View.instant s.lastSync),
  ("conditions", .arr (s.conditions.map Condition.view))]

/-- A declaration. -/
def Declaration.view (d : Declaration) : Json := .obj [
  ("key", .str d.fullName), ("name", .str d.name), ("namespace", Json.ofText? d.ns),
  ("uid", Json.ofText? d.uid), ("resource_version", Json.ofText? d.resourceVersion),
  ("generation", Json.ofInt? d.generation), ("labels", Json.ofTexts d.labels),
  ("annotations", Json.ofTexts d.annotations), ("spec", d.spec.view), ("status", d.status.view)]

end SecretSync

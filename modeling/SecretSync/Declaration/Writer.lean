import SecretSync.Declaration.Basic
import SecretSync.Time.Timestamp

/-!
# Writing the status of a declaration

A status is written as an object with the conditions and, once there is one, the watermark.
Times and generations that are not known are left out.
-/

namespace SecretSync

/-- A condition as an object. -/
def Condition.toJson (c : Condition) : Json :=
  .obj ([("type", .str c.type), ("status", .str c.status), ("reason", .str c.reason),
      ("message", .str c.message)] ++
    (match c.lastTransition with
      | some t => [("lastTransitionTime", .str (Time.Timestamp.format t))]
      | none => []) ++
    (match c.observedGeneration with
      | some n => [("observedGeneration", .int n)]
      | none => []))

/-- A status as an object. -/
def Status.toJson (s : Status) : Json :=
  .obj (("conditions", .arr (s.conditions.map Condition.toJson)) ::
    (match s.lastSync with
      | some t => [("lastSuccessfulSyncTime", .str (Time.Timestamp.format t))]
      | none => []))

end SecretSync

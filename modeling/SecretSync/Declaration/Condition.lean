import SecretSync.Declaration.Basic

/-!
# Recording conditions

A status has at most one condition of each type that is recorded here.  Recording replaces the
condition of the same type in place or adds one at the end; the time of transition moves only
when the condition's status changes.
-/

namespace SecretSync

/-- The types of conditions that attempts record. -/
inductive ConditionType where
  | failedSync
  | successfulSync
  deriving DecidableEq, Repr

namespace ConditionType

/-- The name of a type. -/
def name : ConditionType → String
  | failedSync => "FailedSync"
  | successfulSync => "SuccessfulSync"

/-- The type with a name. -/
def ofName? (s : String) : Option ConditionType :=
  if s = "FailedSync" then some failedSync
  else if s = "SuccessfulSync" then some successfulSync
  else none

end ConditionType

/-- The reasons that attempts give. -/
inductive ConditionReason where
  | failed
  | complete
  deriving DecidableEq, Repr

namespace ConditionReason

/-- The name of a reason. -/
def name : ConditionReason → String
  | failed => "ReconciliationFailed"
  | complete => "ReconciliationComplete"

/-- The reason with a name. -/
def ofName? (s : String) : Option ConditionReason :=
  if s = "ReconciliationFailed" then some failed
  else if s = "ReconciliationComplete" then some complete
  else none

end ConditionReason

/-- What is to be recorded. -/
structure Report where
  type : ConditionType
  succeeded : Bool
  reason : ConditionReason
  message : String
  /-- When the attempt ended. -/
  time : Time.Instant
  /-- The generation of the declaration at that time. -/
  generation : Option Int
  deriving DecidableEq, Repr

namespace Report

/-- The status text of a report. -/
def status (r : Report) : String := if r.succeeded then "True" else "False"

/-- A condition that holds a report for the first time. -/
def toCondition (r : Report) : Condition where
  type := r.type.name
  status := r.status
  reason := r.reason.name
  message := r.message
  lastTransition := some r.time
  observedGeneration := r.generation

/-- A condition of the same type brought up to date. -/
def update (r : Report) (c : Condition) : Condition where
  type := c.type
  status := r.status
  reason := r.reason.name
  message := r.message
  lastTransition := if c.status = r.status then c.lastTransition else some r.time
  observedGeneration := r.generation

/-- Record a report in a list of conditions. -/
def record (r : Report) : List Condition → List Condition
  | [] => [r.toCondition]
  | c :: rest => if c.type = r.type.name then r.update c :: rest else c :: r.record rest

end Report

namespace Status

/-- The first condition of a type. -/
def condition? (s : Status) (type : String) : Option Condition :=
  s.conditions.find? (·.type = type)

end Status

namespace Declaration

/-- Record how an attempt ended. -/
def setCondition (d : Declaration) (type : ConditionType) (succeeded : Bool)
    (reason : ConditionReason) (message : String) (now : Time.Instant) : Declaration :=
  let report : Report := ⟨type, succeeded, reason, message, now, d.generation⟩
  { d with status := { d.status with conditions := report.record d.status.conditions } }

/-- Move the watermark. -/
def setLastSync (d : Declaration) (time : Option Time.Instant) : Declaration :=
  { d with status := { d.status with lastSync := time } }

end Declaration
end SecretSync

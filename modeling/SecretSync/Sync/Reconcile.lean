import SecretSync.Declaration.Condition
import SecretSync.Sync.Attempt
import SecretSync.Sync.Guard

/-!
# Reconciling a declaration

A reconcile reads the declaration, skips echoes of status writes, makes one attempt, and records
in the status how it ended.  A declaration that is gone and an echo ask for no further run; all
other endings ask for one after the refresh interval.  Two errors leave it without any result.
-/

namespace SecretSync.Sync

/-- How a reconcile ended. -/
inductive Outcome where
  | notFound
  | lookupFailed
  | skippedEcho
  | noChanges
  | synced
  | failed
  deriving DecidableEq, Repr

namespace Outcome

/-- The name of an outcome. -/
def name : Outcome → String
  | notFound => "not_found"
  | lookupFailed => "lookup_failed"
  | skippedEcho => "skipped_echo"
  | noChanges => "no_changes"
  | synced => "synced"
  | failed => "failed"

/-- The outcome with a name. -/
def ofName? (s : String) : Option Outcome :=
  [notFound, lookupFailed, skippedEcho, noChanges, synced, failed].find? (fun o => o.name = s)

/-- Whether nothing went wrong. -/
def succeeded : Outcome → Bool
  | failed => false
  | lookupFailed => false
  | _ => true

end Outcome

/-- What a reconcile reports. -/
structure Result where
  outcome : Outcome
  /-- Time after which another run is asked for. -/
  requeueAfter : Option Time.Duration
  message : String
  deriving DecidableEq, Repr

namespace Progress

/-- The outcome of an attempt that did not fail. -/
def outcome : Progress → Outcome
  | unchanged => .noChanges
  | written => .synced

end Progress

/-- What ends a reconcile without a result. -/
inductive Escape where
  /-- The end of the guard window lies outside the calendar. -/
  | leavesCalendar
  /-- A value that was pulled cannot be encoded. -/
  | value (error : Text.Utf8.EncodeError)
  deriving DecidableEq, Repr

/-- The name of a declaration as log records carry it. -/
def logFields (key : ObjectKey) (fields : List (String × Json)) : List (String × Json) :=
  ("namespace", .str key.ns) :: ("name", .str key.name) :: fields

/-- Write the status of a declaration; a failure is only noted in the log. -/
def writeStatus (settings : Settings) (key : ObjectKey) (d : Declaration) : Act Unit := do
  match ← (Cluster.Declarations.updateStatus settings.access d).run with
  | .ok _ => pure ()
  | .error e => Act.log .warning "status_update_failed" (logFields key [("error", .str e.message)])

/-- Record a failed attempt. -/
def recordFailure (settings : Settings) (key : ObjectKey) (d : Declaration) (failure : Failure) :
    Act Result := do
  Act.log .error "sync_failed"
    (logFields key [("message", .str failure.headline), ("error", .str failure.detail)])
  let now ← Act.now
  writeStatus settings key (d.setCondition .failedSync false .failed failure.message now)
  return ⟨.failed, some settings.refresh, failure.message⟩

/-- The declaration with an attempt recorded that ended well at a time. -/
def completed (d : Declaration) (message : String) (now : Time.Instant) : Declaration :=
  (d.setLastSync (some (nextWatermark d.status.lastSync now))).setCondition
    .successfulSync true .complete message now

/-- Record an attempt that ended well. -/
def recordProgress (settings : Settings) (key : ObjectKey) (d : Declaration) (progress : Progress) :
    Act Result := do
  let message := progress.message key
  let now ← Act.now
  Act.log .info "sync_completed" (logFields key [("message", .str message)])
  writeStatus settings key (completed d message now)
  return ⟨progress.outcome, some settings.refresh, message⟩

/-- Make an attempt for a declaration and record how it ended. -/
def attemptAndRecord (settings : Settings) (key : ObjectKey) (d : Declaration) :
    ExceptT Escape Act Result := do
  Act.log .info "reconcile_started" (logFields key [("message", .str ("Syncing " ++ key.text))])
  match ← (attempt settings key d).run with
  | .error (.failed failure) => recordFailure settings key d failure
  | .error (.value error) => throw (.value error)
  | .ok progress => recordProgress settings key d progress

/-- Report that a declaration could not be read. -/
def reportUnread (settings : Settings) (key : ObjectKey) (e : ClusterError) : Act Result := do
  if e.isNotFound then
    Act.log .info "bitwarden_secret_deleted" (logFields key [])
    return ⟨.notFound, none, ""⟩
  else
    Act.log .error "bitwarden_secret_lookup_failed" (logFields key [("error", .str e.message)])
    return ⟨.lookupFailed, some settings.refresh,
      "Error looking up BitwardenSecret - " ++ e.message⟩

/-- Reconcile the declaration with a key. -/
def reconcile (settings : Settings) (key : ObjectKey) : ExceptT Escape Act Result := do
  match ← (Cluster.Declarations.fetch settings.access key).run with
  | .error e => reportUnread settings key e
  | .ok d =>
    match isEcho? d.status.lastSync (← Act.now) settings.guardWindow with
    | none => throw .leavesCalendar
    | some true =>
      Act.log .debug "skipping_status_echo" (logFields key [])
      return ⟨.skippedEcho, none, ""⟩
    | some false => attemptAndRecord settings key d

end SecretSync.Sync

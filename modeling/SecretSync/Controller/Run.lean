import SecretSync.Controller.Dispatch
import SecretSync.Controller.Retry

/-!
# Running the controller

The controller lists all declarations when it holds no cursor, runs what is due, and watches
until the next key is due; every event enlists its declaration and is followed by a run of what
is due.  A watch that has expired leads to a new list.  Windows that fail because the cluster
cannot be reached are tried again after growing waits.
-/

namespace SecretSync.Controller

/-- The usual number of seconds that a watch stays open. -/
def defaultWatchTimeout : Int := 20

/-- How many seconds the next watch may stay open. -/
def secondsUntilDue (c : Settings) : Loop Int := do
  match (← getThe Schedule).earliest? with
  | none => return c.watchTimeout
  | some earliest =>
    let left := earliest.since (← act Act.now)
    return Schedule.windowSeconds c.watchTimeout left.roundedSeconds

/-- Note a declaration and make it due at once. -/
def enlist (d : Declaration) : Loop Unit := do
  let now ← act Act.now
  change (Schedule.enlist d now)

/-- Handle an event of a watch. -/
def handleEvent (c : Settings) (type : Option String) (d : Declaration) : Loop Unit := do
  change (Schedule.advanceCursor d)
  if type = some "DELETED" then
    act (c.log .info "bitwarden_secret_removed" [("object", .str d.fullName)])
    change (Schedule.forget d.key)
  else if (← getThe Schedule).repeats type d then return ()
  else enlist d

/-- List all declarations, enlist them, and start watching behind the list. -/
def resync (c : Settings) : Loop Unit := do
  let (declarations, version) ←
    ExceptT.mk (StateT.lift (Cluster.Declarations.list c.access c.ns).run)
  declarations.forM enlist
  change (fun s => { s with cursor := version })
  act (c.log .info "listed_bitwarden_secrets" [("count", .int declarations.length)])

/-- Handle what comes over an open watch, until it ends, breaks or the controller is asked to
stop; the failure that broke it, if one did. -/
def consume (c : Settings) : List WindowItem → Loop (Option ClusterError)
  | [] => return none
  | item :: rest => do
    match ← act (Cluster.Declarations.receive c.ns item) with
    | .nothing => consume c rest
    | .failed e => return some e
    | .event type d =>
      handleEvent c type.text? d
      let _ ← processDue c
      if ← act Act.stopRequested then return none else consume c rest

/-- The status by which the cluster tells that a watch has expired. -/
def isGone (status : Json) : Bool :=
  match status with
  | .int n => n == 410
  | .real x => x.toInt? == some 410
  | _ => false

/-- One watch window. -/
def runOnce (c : Settings) : Loop Unit := do
  match (← getThe Schedule).cursor with
  | .null => resync c
  | _ => pure ()
  let _ ← processDue c
  if ← act Act.stopRequested then return ()
  else
    let seconds ← secondsUntilDue c
    let items ← act (Cluster.Declarations.openWatch c.ns (← getThe Schedule).cursor seconds)
    match ← consume c items with
    | none => pure ()
    | some e =>
      if isGone e.status then
        act (c.log .info "watch_expired_relisting" [])
        change (fun s => { s with cursor := .null })
      else throw (.cluster e)
    let _ ← processDue c

/-- Whether an error may pass, so that another try is worth it. -/
def mayPass : Cluster.Escape → Bool
  | .cluster e => e.isUnreachable
  | _ => false

/-- One watch window, tried as often as the settings allow. -/
def runWindow (c : Settings) : Loop Unit :=
  let wait (time : Time.Duration) : Run Unit := StateT.lift (Act.sleep time)
  ExceptT.mk (retrying mayPass wait (runOnce c).run 1 (c.attempts - 1))

/-- Windows until the controller is asked to stop, at most so many. -/
def runWindows (c : Settings) : Nat → Loop Unit
  | 0 => return ()
  | more + 1 => do
    if ← act Act.stopRequested then return ()
    else
      runWindow c
      runWindows c more

/-- Run until asked to stop, which happens at the latest when no further watch comes. -/
def run (c : Settings) : Loop Unit := do
  act (c.log .info "controller_started" [])
  let w ← act get
  act (set { w with stopWhenIdle := true })
  let result ← ExceptT.lift (runWindows c (w.windows.length + 1)).run
  act (modify (fun w => { w with stopWhenIdle := false }))
  match result with
  | .error e => throw e
  | .ok () => act (c.log .info "controller_stopped" [])

end SecretSync.Controller

import SecretSync.Controller.Schedule

/-!
# Dispatching what is due

The controller runs every key that is due, one at a time and earliest first, until it is asked
to stop.  How a key is reconciled is a parameter.
-/

namespace SecretSync.Controller

/-- A computation of the controller: it changes the schedule and the world. -/
abbrev Run := StateT Schedule Act

/-- A computation of the controller that may be ended by an error. -/
abbrev Loop := ExceptT Cluster.Escape Run

/-- How a key is reconciled. -/
abbrev Reconciler := ObjectKey → ExceptT Sync.Escape Act Sync.Result

/-- What a controller works with. -/
structure Settings where
  access : Cluster.Access
  /-- The namespace that is watched; all of them without one. -/
  ns : Option String
  /-- Most seconds that a watch stays open. -/
  watchTimeout : Int
  /-- How often a window is tried at most. -/
  attempts : Nat
  reconcile : Reconciler

namespace Settings

/-- The watched namespace as log records show it. -/
def scope (c : Settings) : String := (Subject.part c.ns).getD "*"

/-- Write a log record of the controller. -/
def log (c : Settings) (level : LogLevel) (event : String) (fields : List (String × Json)) :
    Act Unit := Act.log level event (("namespace", .str c.scope) :: fields)

end Settings

/-- What ends a reconcile without a result ends the controller. -/
def escapeOf : Sync.Escape → Cluster.Escape
  | .leavesCalendar => .leavesCalendar
  | .value error => .value error

/-- An action of the world as a step of the controller. -/
def act {α : Type} (a : Act α) : Loop α := ExceptT.lift (StateT.lift a)

/-- Change the schedule. -/
def change (f : Schedule → Schedule) : Loop Unit := ExceptT.lift (modify f)

/-- Schedule a key at a distance from now. -/
def enqueue (key : ObjectKey) (after : Time.Duration) : Loop Unit := do
  let now ← act Act.now
  match now.add? after with
  | none => throw .leavesCalendar
  | some time => change (Schedule.enqueueAt key time)

/-- The time after which a result asks for another run, in seconds; null for none at all. -/
def requeueSeconds (result : Sync.Result) : Json :=
  match result.requeueAfter with
  | none => .null
  | some d => if d.micros = 0 then .null else .real d.seconds

/-- Note how the run of a key has ended, and read the clock behind it. -/
def noteResult (c : Settings) (key : ObjectKey) (result : Sync.Result) : Act Time.Instant := do
  c.log .debug "reconciled" [("object", .str key.text), ("outcome", .str result.outcome.name),
    ("requeue_after", requeueSeconds result)]
  Act.now

/-- Run a key that has been taken off the schedule, and take in its result. -/
def dispatch (c : Settings) (key : ObjectKey) : Loop Unit := do
  match ← act (c.reconcile key).run with
  | .error e => throw (escapeOf e)
  | .ok result =>
    let now ← act (noteResult c key result)
    match (← getThe Schedule).settle? key result now with
    | none => throw .leavesCalendar
    | some s => change (fun _ => s)

/-- Run the keys of a list that are due at a time; the number of runs. -/
def dispatchAll (c : Settings) (now : Time.Instant) :
    List (ObjectKey × Time.Instant) → Loop Nat
  | [] => return 0
  | (key, time) :: rest => do
    if now < time ∨ (← act Act.stopRequested) then return 0
    else
      change (Schedule.start key)
      dispatch c key
      return (← dispatchAll c now rest) + 1

/-- Run every key that is due; the number of runs. -/
def processDue (c : Settings) : Loop Nat := do
  let now ← act Act.now
  dispatchAll c now (← getThe Schedule).inOrder

end SecretSync.Controller

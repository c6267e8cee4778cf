import SecretSync.Logging.Level
import SecretSync.Cluster.Error
import SecretSync.Secret.Annotation
import SecretSync.Secret.Object
import SecretSync.Vault.Session

/-!
# The world around the operator

Everything outside the operator that it reads, writes or waits for: the clock, the objects of
the cluster, the vault, the request to stop, and what others do meanwhile.  The world also
keeps the lists of all calls made, of the moments at which the operator made them or read the
clock, and of all log records written.
-/

namespace SecretSync

/-- The requests that the cluster serves. -/
inductive Api where
  | getDeclaration
  | listDeclarations
  | patchStatus
  | readSecret
  | createSecret
  | replaceSecret
  deriving DecidableEq, Repr

/-- A call from the operator to the outside. -/
inductive Call where
  | sleep (time : Time.Duration)
  | loadKubeconfig (file context : Option String)
  | loadInCluster
  | getDeclaration (key : ObjectKey) (timeout : Int)
  | listDeclarations (ns : Option String) (timeout : Int)
  | patchStatus (key : ObjectKey) (body : Json) (timeout : Int)
  | readSecret (key : ObjectKey) (timeout : Int)
  | createSecret (ns : String) (body : SecretObject) (timeout : Int)
  | replaceSecret (key : ObjectKey) (body : SecretObject) (timeout : Int)
  | watch (ns : Option String) (cursor : Option Json) (seconds : Int)
  | openVault (endpoints : Vault.Endpoints)
  | login (token statePath : String)
  | sync (organization : String) (since : Option Time.Instant)
  deriving Repr

/-- A log record. -/
structure LogRecord where
  level : LogLevel
  event : String
  fields : List (String × Json)
  deriving Repr

/-- Something that the operator did, with the clock at that time. -/
inductive Moment where
  | call (call : Call) (time : Time.Instant)
  | reading (time : Time.Instant)
  deriving Repr

/-- Something that others do. -/
inductive Disturbance where
  | advance (time : Time.Duration)
  | setClock (time : Time.Instant)
  | putDeclaration (key : ObjectKey) (object : Json)
  /-- Members of the spec are set, or removed where null is given; perhaps the generation too. -/
  | editDeclaration (key : ObjectKey) (changes : List (String × Json)) (generation : Option Int)
  | deleteDeclaration (key : ObjectKey)
  | putSecret (key : ObjectKey) (object : SecretObject)
  | deleteSecret (key : ObjectKey)
  | requestStop
  deriving Repr

/-- What comes over an open watch. -/
inductive WindowItem where
  /-- An event. -/
  | event (value : Json)
  /-- Time passes. -/
  | advance (time : Time.Duration)
  /-- The operator is asked to stop. -/
  | stop
  /-- The stream breaks. -/
  | failure (fault : Fault)
  deriving Repr

/-- The state of everything around the operator. -/
structure World where
  clock : Time.Instant
  /-- The declarations as they are stored. -/
  declarations : Dict ObjectKey Json
  /-- The secrets as they are stored. -/
  secrets : Dict ObjectKey SecretObject
  /-- Number of writes that the cluster has accepted. -/
  version : Nat
  /-- For each sort of request what goes wrong with the next ones, if anything. -/
  faults : Dict Api (List (Option Fault))
  /-- What is answered to requests for all declarations, if not the truth. -/
  listOverride : Option Json
  /-- The next sessions of the vault. -/
  sessions : List Vault.Session
  /-- Number of vault clients that have been built and not closed. -/
  openClients : Nat
  /-- What comes over the next watches. -/
  windows : List (List WindowItem)
  /-- Why the credentials of a file, and those of the cluster, cannot be loaded. -/
  kubeconfigFailure : Option String
  inClusterFailure : Option String
  /-- Why key maps cannot be written, if they cannot. -/
  mapFault : Option String
  /-- Whether the operator has been asked to stop. -/
  stopRequested : Bool
  /-- Whether a request to stop is written to the log. -/
  stopAnnounced : Bool
  /-- Whether the operator is asked to stop when there is no further watch. -/
  stopWhenIdle : Bool
  /-- What others do before each of the next calls and clock readings. -/
  others : List (List Disturbance)
  /-- The calls made so far. -/
  calls : List Call
  /-- The calls and the readings of the clock so far, in their order. -/
  history : List Moment
  /-- The log records written so far. -/
  logs : List LogRecord

/-- A computation that reads and changes the world. -/
abbrev Act := StateM World

namespace World

/-- A world without objects at a time. -/
def atTime (clock : Time.Instant) : World where
  clock := clock
  declarations := Dict.empty
  secrets := Dict.empty
  version := 0
  faults := Dict.empty
  listOverride := none
  sessions := []
  openClients := 0
  windows := []
  kubeconfigFailure := none
  inClusterFailure := none
  mapFault := none
  stopRequested := false
  stopAnnounced := false
  stopWhenIdle := false
  others := []
  calls := []
  history := []
  logs := []

/-- Why a key map cannot be written, if it cannot. -/
def writeFault (w : World) (m : Option KeyMap) : Option String :=
  w.mapFault.or (m.bind KeyMap.writeFault?)

/-- Let time pass; the clock stands still rather than leave the calendar. -/
def advance (time : Time.Duration) (w : World) : World :=
  { w with clock := (w.clock.add? time).getD w.clock }

/-- Ask the operator to stop. -/
def requestStop (w : World) : World :=
  let record : LogRecord := ⟨.info, "shutdown_requested", [("signal", .int 15)]⟩
  { w with
    stopRequested := true
    logs := if w.stopAnnounced then w.logs ++ [record] else w.logs }

/-- An object with members of its spec set or removed, and perhaps another generation. -/
def editedObject (changes : List (String × Json)) (generation : Option Int) (object : Json) :
    Json :=
  let spec := changes.foldl (fun spec m =>
    match m.2 with
    | .null => spec.removeMember m.1
    | value => spec.setMember m.1 value) ((object.member? "spec").getD .null)
  let object := object.setMember "spec" spec
  match generation with
  | none => object
  | some n =>
    object.setMember "metadata"
      (((object.member? "metadata").getD .null).setMember "generation" (.int n))

/-- What others do, done. -/
def disturb (w : World) : Disturbance → World
  | .advance time => w.advance time
  | .setClock time => { w with clock := time }
  | .putDeclaration key object => { w with declarations := w.declarations.insert key object }
  | .editDeclaration key changes generation =>
    match w.declarations.get? key with
    | none => w
    | some object =>
      { w with declarations := w.declarations.insert key (editedObject changes generation object) }
  | .deleteDeclaration key => { w with declarations := w.declarations.erase key }
  | .putSecret key object => { w with secrets := w.secrets.insert key object }
  | .deleteSecret key => { w with secrets := w.secrets.erase key }
  | .requestStop => w.requestStop

/-- Let others do what they do before the next call or clock reading. -/
def interlude (w : World) : World :=
  match w.others with
  | [] => w
  | deeds :: rest => deeds.foldl disturb { w with others := rest }

/-- A call noted. -/
def noted (call : Call) (w : World) : World :=
  { w with calls := w.calls ++ [call], history := w.history ++ [.call call w.clock] }

/-- A reading of the clock noted. -/
def clockRead (w : World) : World := { w with history := w.history ++ [.reading w.clock] }

/-- A log record written. -/
def logged (record : LogRecord) (w : World) : World := { w with logs := w.logs ++ [record] }

end World

namespace Act

/-- Others get their turn. -/
def yieldToOthers : Act Unit := modify World.interlude

/-- The time. -/
def now : Act Time.Instant := do
  yieldToOthers
  modify World.clockRead
  return (← get).clock

/-- Note a call. -/
def note (call : Call) : Act Unit := modify (World.noted call)

/-- Write a log record. -/
def log (level : LogLevel) (event : String) (fields : List (String × Json)) : Act Unit :=
  modify (World.logged ⟨level, event, fields⟩)

/-- Wait. -/
def sleep (time : Time.Duration) : Act Unit := do
  yieldToOthers
  note (.sleep time)
  modify (World.advance time)

/-- Whether the operator has been asked to stop. -/
def stopRequested : Act Bool := return (← get).stopRequested

end Act
end SecretSync

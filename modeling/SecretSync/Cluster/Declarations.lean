import SecretSync.Cluster.Secrets
import SecretSync.Declaration.Writer
import SecretSync.Text.Utf8

/-!
# The store of declarations

Reading, listing and watching declarations, and writing their status.  In lists and streams an
object with an invalid record is skipped and noted in the log; only its status is ever written.
-/

namespace SecretSync.Cluster

/-- An error that ends what the controller is doing. -/
inductive Escape where
  /-- The cluster failed. -/
  | cluster (error : ClusterError)
  /-- The cluster answered with what cannot be read. -/
  | unreadable (error : ReadError)
  /-- A due time lies outside the calendar. -/
  | leavesCalendar
  /-- A value that was pulled cannot be encoded. -/
  | value (error : Text.Utf8.EncodeError)
  deriving Repr

namespace Declarations

/-- Declarations as the object of a request. -/
def subject (ns name : Option String) : Subject := ⟨some Declaration.kind, name, ns⟩

/-- Write a log record of the store. -/
def log (level : LogLevel) (event : String) (fields : List (String × Json)) : Act Unit :=
  Act.log level event (("entity", .str "bitwarden_secret") :: fields)

/-- The declaration of an answer. -/
def read (subject : Subject) (answer : Except Fault Json) : Except ClusterError Declaration :=
  match answer with
  | .error fault => .error (.ofFault subject fault)
  | .ok object =>
    (Declaration.ofObject object).mapError (fun e => .ofFault subject (.ofReadError e))

/-- The declaration with a name. -/
def fetch (access : Access) (key : ObjectKey) : ExceptT ClusterError Act Declaration := do
  log .debug "getting_bitwarden_secret" [("name", .str key.name), ("namespace", .str key.ns)]
  let answer ← (getDeclaration key access.timeout).run
  ExceptT.mk (pure (read (subject (some key.ns) (some key.name)) answer))

/-- Note in the log that a status has been written. -/
def logPatch (d : Declaration) (answer : Except Fault Json) : Act Unit :=
  match answer with
  | .ok _ => log .debug "updated_status" [("name", .str d.name), ("namespace", .str d.key.ns)]
  | .error _ => pure ()

/-- Write the status of a declaration; the answer is the declaration as it is stored then. -/
def updateStatus (access : Access) (d : Declaration) : ExceptT ClusterError Act Declaration := do
  log .debug "updating_status" [("name", .str d.name), ("namespace", .str d.key.ns)]
  let answer ← (patchStatus d.key (.obj [("status", d.status.toJson)]) access.timeout).run
  logPatch d answer
  ExceptT.mk (pure (read (subject (some d.key.ns) (some d.name)) answer))

/-- The declaration of an object in a list or stream; an object with an invalid record is noted
in the log and skipped. -/
def readOrSkip (object : Json) : ExceptT ReadError Act (Option Declaration) :=
  match Declaration.ofObject object with
  | .ok d => return some d
  | .error (.rejected rejection) =>
    match Declaration.membersOf (Declaration.memberOr object.members "metadata" (.obj [])) with
    | .error e => throw e
    | .ok metadata => do
      log .warning "invalid_bitwarden_secret" [
        ("name", Declaration.memberOr metadata "name" .null),
        ("namespace", Declaration.memberOr metadata "namespace" .null),
        ("errors", .int rejection.count)]
      return none
  | .error e => throw e

/-- The declarations among the objects of a list. -/
def readAll : List Json → ExceptT ReadError Act (List Declaration)
  | [] => return []
  | object :: rest => do
    let d ← readOrSkip object
    let ds ← readAll rest
    return d.toList ++ ds

/-- The declarations of a list, and the version of the list. -/
def readList (answer : Json) : ExceptT ReadError Act (List Declaration × Json) := do
  match Declaration.membersOf answer with
  | .error e => throw e
  | .ok members =>
    match Declaration.itemsOf (Declaration.memberOr members "items" (.arr [])) with
    | .error e => throw e
    | .ok items =>
      let declarations ← readAll items
      match Declaration.membersOf (Declaration.memberOr members "metadata" (.obj [])) with
      | .error e => throw e
      | .ok metadata => return (declarations, Declaration.memberOr metadata "resourceVersion" .null)

/-- All declarations of a namespace, or all there are, and the version of the list. -/
def list (access : Access) (ns : Option String) :
    ExceptT Escape Act (List Declaration × Json) := do
  log .debug "listing_bitwarden_secrets" [("namespace", .str ((Subject.part ns).getD "*"))]
  match ← (listDeclarations (Subject.part ns) access.timeout).run with
  | .error fault => throw (.cluster (.ofFault (subject ns none) fault))
  | .ok answer =>
    let found ← ExceptT.adapt .unreadable (readList answer)
    log .debug "listed_bitwarden_secrets" [("count", .int found.1.length)]
    return found

/-- Open a watch that starts behind a version: what comes over it. -/
def openWatch (ns : Option String) (cursor : Json) (seconds : Int) : Act (List WindowItem) := do
  Act.yieldToOthers
  Act.note (.watch (Subject.part ns) (if cursor.isTruthy then some cursor else none) seconds)
  let w ← get
  match w.windows with
  | window :: rest =>
    set { w with windows := rest }
    return window
  | [] =>
    if w.stopWhenIdle then modify World.requestStop
    return []

/-- What an item of a stream yields. -/
inductive Received where
  /-- Nothing that is handed on. -/
  | nothing
  /-- A declaration with the type of its event. -/
  | event (type : Json) (declaration : Declaration)
  /-- The stream breaks. -/
  | failed (error : ClusterError)

/-- The type of an event, which is handed on whatever it is. -/
def eventType (event : List (String × Json)) : Json :=
  Declaration.memberOr event "type" (.str "")

/-- The failure that an error event tells. -/
def reportedError (details : Json) : ClusterError :=
  .other ((details.member? "message").getD (.str "Watch stream returned an error")).plain
    ((details.member? "code").getD .null) .unknown

/-- Read an event of a stream. -/
def receiveEvent (ns : Option String) (value : Json) : Act Received := do
  let failed (e : ReadError) : Received := .failed (.ofFault (subject ns none) (.ofReadError e))
  match Declaration.membersOf value with
  | .error e => return failed e
  | .ok event =>
    let object := Declaration.memberOr event "object" .null
    if (eventType event).text? = some "ERROR" then return .failed (reportedError object)
    else
      match object with
      | .obj _ =>
        match ← (readOrSkip object).run with
        | .ok (some d) => return .event (eventType event) d
        | .ok none => return .nothing
        | .error e => return failed e
      | _ => return .nothing

/-- Read an item of a stream. -/
def receive (ns : Option String) (item : WindowItem) : Act Received := do
  match item with
  | .advance time =>
    modify (World.advance time)
    return .nothing
  | .stop =>
    modify World.requestStop
    return .nothing
  | .failure fault => return .failed (.ofFault (subject ns none) fault)
  | .event value => receiveEvent ns value

/-- The events of a stream up to its end or to the failure that breaks it. -/
def receiveAll (ns : Option String) :
    List WindowItem → Act (List (Json × Declaration) × Option ClusterError)
  | [] => return ([], none)
  | item :: rest => do
    match ← receive ns item with
    | .nothing => receiveAll ns rest
    | .failed e => return ([], some e)
    | .event type d =>
      let (events, failure) ← receiveAll ns rest
      return ((type, d) :: events, failure)

end Declarations
end SecretSync.Cluster

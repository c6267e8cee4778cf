import SecretSync.Declaration.Reader
import SecretSync.Secret.Object

/-!
# Failures of the cluster

A request to the cluster can end in a fault of the connection, in a refusal with a status, or
in anything else.  `ClusterError.ofFault` sorts these into the errors that the rest of the
program tells apart.
-/

namespace SecretSync

/-- The object that a request was about, as far as it is known. -/
structure Subject where
  kind : Option String
  name : Option String
  ns : Option String
  deriving DecidableEq, Repr

namespace Subject

/-- No object. -/
def unknown : Subject := ⟨none, none, none⟩

/-- A part that is known and not empty. -/
def part (s : Option String) : Option String := s.filter (fun s => !s.isEmpty)

/-- Kind and name, if both are known. -/
def named? (s : Subject) : Option (String × String) :=
  match part s.kind, part s.name with
  | some kind, some name => some (kind, name)
  | _, _ => none

end Subject

/-- The errors of the cluster that are told apart. -/
inductive ClusterErrorKind where
  /-- The cluster cannot be reached; the text of the cause is kept if there is one. -/
  | unreachable (cause : Option String)
  /-- The operator is not allowed to do this; the reason given. -/
  | denied (reason : Option String)
  /-- The object does not exist. -/
  | notFound
  /-- The object exists already or has been changed by another writer. -/
  | conflict
  /-- The body of the request is not accepted; what is said about its fields. -/
  | invalid (details : Json)
  /-- Any other failure. -/
  | other
  deriving Repr

/-- A failed request to the cluster. -/
structure ClusterError where
  kind : ClusterErrorKind
  /-- What happened, without status and object. -/
  summary : String
  /-- The status that the cluster answered with; a broken stream may carry any value here. -/
  status : Json
  subject : Subject
  deriving Repr

namespace ClusterErrorKind

/-- What an error of a kind says when nothing more is known. -/
def summary : ClusterErrorKind → String
  | unreachable _ => "Failed to connect to Kubernetes cluster"
  | denied _ => "Kubernetes authentication/authorization failed"
  | notFound => "Kubernetes resource not found"
  | conflict => "Resource conflict"
  | invalid _ => "Invalid resource specification"
  | other => ""

end ClusterErrorKind

namespace ClusterError

/-- The text of an error: what happened, the status, and the object. -/
def message (e : ClusterError) : String :=
  let status := if e.status.isTruthy then ["(status: " ++ e.status.plain ++ ")"] else []
  let subject := match e.subject.named? with
    | some (kind, name) =>
      let place := kind ++ "/" ++ name
      match Subject.part e.subject.ns with
      | some ns => ["[" ++ ns ++ "/" ++ place ++ "]"]
      | none => ["[" ++ place ++ "]"]
    | none => []
  " ".intercalate (e.summary :: status ++ subject)

/-- The object of an error, as its summary names it. -/
def named (summary : String) (what : String → String → String) (subject : Subject) : String :=
  match subject.named? with
  | some (kind, name) =>
    what kind name ++
      (match Subject.part subject.ns with
        | some ns => " in namespace '" ++ ns ++ "'"
        | none => "")
  | none => summary

/-- The cluster cannot be reached. -/
def unreachable (summary : String) (cause : Option String) : ClusterError :=
  ⟨.unreachable cause, summary, .null, .unknown⟩

/-- The operator is not allowed to do this. -/
def denied (summary : String) (status : Json) (reason : Option String) : ClusterError :=
  ⟨.denied reason, summary, status, .unknown⟩

/-- The object does not exist. -/
def notFound (summary : String) (subject : Subject) : ClusterError :=
  ⟨.notFound,
    named summary (fun kind name => kind ++ " '" ++ name ++ "' not found") subject,
    .int 404, subject⟩

/-- The object exists already or has been changed by another writer. -/
def conflict (summary : String) (subject : Subject) : ClusterError :=
  ⟨.conflict,
    named summary (fun kind name => "Conflict on " ++ kind ++ " '" ++ name ++ "'") subject,
    .int 409, subject⟩

/-- The body of the request is not accepted. -/
def invalid (summary : String) (status : Json) (details : Json) : ClusterError :=
  ⟨.invalid details, summary, status, .unknown⟩

/-- Any other failure. -/
def other (summary : String) (status : Json) (subject : Subject) : ClusterError :=
  ⟨.other, summary, status, subject⟩

/-- Whether the object does not exist. -/
def isNotFound (e : ClusterError) : Bool :=
  match e.kind with
  | .notFound => true
  | _ => false

/-- Whether the cluster could not be reached. -/
def isUnreachable (e : ClusterError) : Bool :=
  match e.kind with
  | .unreachable _ => true
  | _ => false

end ClusterError

/-- What can go wrong inside a request. -/
inductive Fault where
  /-- The cluster answers with a status and a reason. -/
  | refused (status : Option Int) (reason : Option String)
  /-- The connection breaks. -/
  | transport (text : String)
  /-- Anything else. -/
  | other (text : String)
  /-- A failure that has been sorted already. -/
  | known (error : ClusterError)
  deriving Repr

namespace Fault

/-- The answer's object is no declaration. -/
def ofReadError (e : ReadError) : Fault := .other e.message

/-- The answer's object is no secret. -/
def ofSecretError (e : SecretError) : Fault := .other e.message

end Fault

namespace ClusterError

/-- A reason that is not empty, or a default. -/
def reasonOr (reason : Option String) (default : String) : String :=
  (Subject.part reason).getD default

/-- Sort a fault of a request about an object. -/
def ofFault (subject : Subject) : Fault → ClusterError
  | .known error => error
  | .transport text => unreachable ("Kubernetes API unreachable: " ++ text) (some text)
  | .other text => other text .null subject
  | .refused status reason =>
    let value := Json.ofInt? status
    match status with
    | some 401 => denied (reasonOr reason "Authentication/authorization failed") value reason
    | some 403 => denied (reasonOr reason "Authentication/authorization failed") value reason
    | some 404 => notFound ClusterErrorKind.notFound.summary subject
    | some 409 => conflict ClusterErrorKind.conflict.summary subject
    | some 400 => invalid (reasonOr reason "Validation failed") value (.obj [])
    | some 422 => invalid (reasonOr reason "Validation failed") value (.obj [])
    | _ => other (reasonOr reason ("Kubernetes API error: " ++ value.plain)) value subject

end ClusterError
end SecretSync

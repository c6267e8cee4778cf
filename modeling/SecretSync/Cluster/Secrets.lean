import SecretSync.Cluster.Requests

/-!
# The store of secrets

Reading, creating and replacing secrets.  A replaced secret carries the version that was read,
so that the write of another in between makes it fail.
-/

namespace SecretSync.Cluster

/-- How the cluster is spoken to. -/
structure Access where
  /-- Seconds after which a request is given up. -/
  timeout : Int
  deriving DecidableEq, Repr

namespace Secrets

/-- A secret as the object of a request. -/
def subject (ns name : String) : Subject := ⟨some "Secret", some name, some ns⟩

/-- The secret of an answer. -/
def read (subject : Subject) (answer : Except Fault SecretObject) : Except ClusterError Secret :=
  match answer with
  | .error fault => .error (.ofFault subject fault)
  | .ok object => (Secret.ofObject object).mapError (fun e => .ofFault subject (.ofSecretError e))

/-- Write a log record about a secret. -/
def log (level : LogLevel) (event ns name : String) : Act Unit :=
  Act.log level event [("entity", .str "secret"), ("name", .str name), ("namespace", .str ns)]

/-- Note in the log what has been written. -/
def logWrite (event ns name : String) (answer : Except Fault SecretObject) : Act Unit :=
  match answer with
  | .ok _ => log .info event ns name
  | .error _ => pure ()

/-- The secret with a name. -/
def fetch (access : Access) (ns name : String) : ExceptT ClusterError Act Secret := do
  log .debug "getting_secret" ns name
  let answer ← (readSecret ⟨ns, name⟩ access.timeout).run
  ExceptT.mk (pure (read (subject ns name) answer))

/-- Create a secret; the answer is what has been stored. -/
def create (access : Access) (s : Secret) : ExceptT ClusterError Act Secret := do
  let ns := s.ns.getD ""
  log .debug "creating_secret" ns s.name
  let answer ← (createSecret ns s.toObject access.timeout).run
  logWrite "created_secret" ns s.name answer
  ExceptT.mk (pure (read (subject ns s.name) answer))

/-- Replace a secret; the answer is what has been stored. -/
def update (access : Access) (s : Secret) : ExceptT ClusterError Act Secret := do
  let ns := s.ns.getD ""
  log .debug "updating_secret" ns s.name
  let answer ← (replaceSecret ⟨ns, s.name⟩ s.toObject access.timeout).run
  logWrite "updated_secret" ns s.name answer
  ExceptT.mk (pure (read (subject ns s.name) answer))

end Secrets
end SecretSync.Cluster

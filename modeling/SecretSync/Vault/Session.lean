import SecretSync.Json.Basic
import SecretSync.Time.Instant

/-!
# Vault sessions

What the vault answers in one session: whether a client can be built at all, and the answers to
the login and to the request for changes.  An answer takes some time; then it is a failure, or
a record whose members may be absent or of any sort.
-/

namespace SecretSync.Vault

/-- The answer to a login. -/
structure LoginAnswer where
  /-- How long the answer takes. -/
  delay : Time.Duration
  /-- The text of a failure. -/
  failure : Option String
  /-- Whether the login was accepted. -/
  success : Option Json
  errorMessage : Option Json
  deriving Repr

/-- The answer to a request for changes. -/
structure SyncAnswer where
  /-- How long the answer takes. -/
  delay : Time.Duration
  /-- The text of a failure. -/
  failure : Option String
  errorMessage : Option Json
  /-- What has changed. -/
  data : Option Json
  deriving Repr

/-- One session. -/
structure Session where
  /-- Why no client can be built. -/
  constructFailure : Option String
  login : LoginAnswer
  sync : SyncAnswer
  deriving Repr

namespace Session

/-- A login that is accepted at once. -/
def accepted : LoginAnswer := ⟨.zero, none, some (.bool true), none⟩

/-- An answer that nothing has changed. -/
def unchanged : SyncAnswer := ⟨.zero, none, none, some (.obj [("has_changes", .bool false)])⟩

/-- A session without any news. -/
def quiet : Session := ⟨none, accepted, unchanged⟩

end Session

/-- The addresses of the vault. -/
structure Endpoints where
  apiUrl : String
  identityUrl : String
  deriving DecidableEq, Repr

end SecretSync.Vault

import SecretSync.KeyMap.Basic
import SecretSync.Text.Utf8
import SecretSync.Vault.Client

/-!
# Pulling changes

A pull builds a client, logs in and fetches the changes since an instant.  It yields all changed
values, or an error and no value at all, and closes the client in either case.  A value that cannot
be encoded is found out only behind that.
-/

namespace SecretSync.Vault

/-- The values that have changed, under the ids of their secrets. -/
structure Delta where
  /-- Whether anything has changed. -/
  hasChanges : Bool
  values : Data
  deriving DecidableEq, Repr

namespace Delta

/-- The values of the entries of an answer; of entries with one id the last counts. -/
def ofChanges (c : Changes) : Except Text.Utf8.EncodeError Delta := do
  let values ← c.entries.mapM (fun e => (Text.Utf8.encode? e.value).map (e.id, ·))
  return ⟨c.any, Dict.ofList values⟩

end Delta

/-- Why a pull yields nothing. -/
inductive PullError where
  /-- The vault failed. -/
  | vault (error : Error)
  /-- A value cannot be encoded. -/
  | value (error : Text.Utf8.EncodeError)
  deriving DecidableEq, Repr

/-- A fetch error as the vault error that a pull ends with. -/
def FetchError.toError : FetchError → Error
  | vault error => error
  | answer error => ⟨.sync, "Unexpected Secrets Manager failure", some error.message⟩

/-- Log in and fetch, with the reason of a failure as the log tells it. -/
def fetch (client : Client) (organization token : String) (since : Option Time.Instant)
    (statePath : String) : ExceptT FetchError Act Changes := do
  ExceptT.adapt .vault (client.login token statePath)
  client.sync organization since

/-- The values of an answer, which are noted in the log without what they are. -/
def readValues (organization : String) (changes : Changes) : ExceptT PullError Act Delta := do
  match Delta.ofChanges changes with
  | .error e => throw (.value e)
  | .ok delta =>
    Act.log .debug "secrets_pulled" [("organization_id", .str organization),
      ("has_changes", .bool delta.hasChanges), ("count", .int delta.values.size)]
    return delta

/-- The changes of an organisation since an instant, or all its secrets. -/
def pull (endpoints : Endpoints) (organization token : String) (since : Option Time.Instant)
    (statePath : String) : ExceptT PullError Act Delta := do
  let client ← ExceptT.adapt .vault (Client.build endpoints)
  let result ← (fetch client organization token since statePath).run
  match result with
  | .ok _ => pure ()
  | .error e =>
    Act.log .error "secrets_pull_failed"
      [("organization_id", .str organization), ("error", .str e.message)]
  let _ ← client.close
  match result with
  | .ok changes => readValues organization changes
  | .error e => throw (.vault e.toError)

end SecretSync.Vault

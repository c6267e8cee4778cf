import SecretSync.Cluster.Error
import SecretSync.Secret.Annotation
import SecretSync.Text.Utf8
import SecretSync.Vault.Client

/-!
# Why an attempt fails

Each way in which an attempt to fill a target can fail, with a headline for what was being done
and the detail of what went wrong.
-/

namespace SecretSync.Sync

/-- Why an attempt failed. -/
inductive Failure where
  /-- The secret with the access token cannot be read. -/
  | tokenSecret (error : ClusterError)
  /-- The secret has no value under the key of the token. -/
  | tokenMissing (ref : TokenRef)
  /-- The token is no text. -/
  | tokenUndecodable (error : Text.Utf8.DecodeError)
  /-- The changes cannot be pulled. -/
  | pull (endpoints : Vault.Endpoints) (statePath organization : String) (error : Vault.Error)
  /-- The declaration cannot control the new target. -/
  | ownership (error : OwnershipError)
  /-- The target cannot be created. -/
  | creation (error : ClusterError)
  /-- The target cannot be read. -/
  | reading (secretName : String) (error : ClusterError)
  /-- The key map of the last write cannot be read. -/
  | annotationRead (secretName : String) (error : AnnotationError)
  /-- The annotations cannot be written. -/
  | annotationWrite (declaration : ObjectKey) (error : AnnotationError)
  /-- The target cannot be written. -/
  | update (declaration : ObjectKey) (error : ClusterError)
  deriving Repr

namespace Failure

/-- What was being done. -/
def headline : Failure → String
  | tokenSecret _ => "Error pulling authorization token secret"
  | tokenMissing _ => "Error pulling authorization token secret"
  | tokenUndecodable _ => "Error decoding authorization token"
  | pull endpoints statePath organization _ =>
    "Error pulling Secret Manager secrets from API => API: " ++ endpoints.apiUrl ++
      " -- Identity: " ++ endpoints.identityUrl ++ " -- State: " ++ statePath ++
      " -- OrgId: " ++ organization
  | ownership _ => "Failed to set controller reference"
  | creation _ => "Creation of K8s secret failed."
  | reading secretName _ => "Error reading K8s secret " ++ secretName
  | annotationRead secretName _ =>
    "Error reading " ++ Annotation.customMap ++ " annotation of " ++ secretName
  | annotationWrite declaration _ => "Error setting annotations for " ++ declaration.text
  | update declaration _ => "Failed to update " ++ declaration.text

/-- What went wrong. -/
def detail : Failure → String
  | tokenSecret error => error.message
  | tokenMissing ref =>
    Text.quoted ("key '" ++ ref.secretKey ++ "' not found in Secret '" ++ ref.secretName ++ "'")
  | tokenUndecodable error => error.message
  | pull _ _ _ error => error.message
  | ownership error => error.message
  | creation error => error.message
  | reading _ error => error.message
  | annotationRead _ error => error.message
  | annotationWrite _ error => error.message
  | update _ error => error.message

/-- Headline and detail. -/
def message (f : Failure) : String := f.headline ++ " - " ++ f.detail

end Failure
end SecretSync.Sync

import SecretSync.Config.Basic
import SecretSync.View.Field

/-!
# Views of settings
-/

namespace SecretSync.Config

/-- The section of the vault. -/
def VaultSettings.view (s : VaultSettings) : Json := .obj [
  ("api_url", .str s.apiUrl), ("identity_api_url", .str s.identityUrl),
  ("state_path", .str s.statePath)]

/-- The section of the cluster. -/
def ClusterSettings.view (s : ClusterSettings) : Json := .obj [
  ("kubeconfig", Json.ofText? s.kubeconfig), ("context", Json.ofText? s.context),
  ("namespace", Json.ofText? s.ns), ("timeout", .int s.timeout),
  ("retry_attempts", .int s.retryAttempts)]

/-- All settings. -/
def OperatorSettings.view (s : OperatorSettings) : Json := .obj [
  ("refresh_interval", .int s.refreshInterval), ("bitwarden", s.vault.view),
  ("kubernetes", s.cluster.view)]

end SecretSync.Config

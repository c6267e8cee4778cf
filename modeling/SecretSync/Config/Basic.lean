import SecretSync.Config.Environment
import SecretSync.Net.Url
import SecretSync.Text.Integer
import SecretSync.World.Basic
import SecretSync.Yaml.Value

/-!
# Settings of the operator

The settings come in three sections.  A setting is taken from its environment variable if that
is set, else from the file, else it has its default; then the rules of the setting are checked.
-/

namespace SecretSync.Config

/-- Where the vault is, and where its client keeps its state. -/
structure VaultSettings where
  apiUrl : String
  identityUrl : String
  statePath : String
  deriving DecidableEq, Repr

/-- How the cluster is reached, and which part of it is served. -/
structure ClusterSettings where
  kubeconfig : Option String
  context : Option String
  ns : Option String
  /-- Seconds after which a request is given up. -/
  timeout : Int
  /-- How often a watch window is tried at most. -/
  retryAttempts : Int
  deriving DecidableEq, Repr

/-- All settings. -/
structure OperatorSettings where
  /-- Seconds between two attempts for a declaration. -/
  refreshInterval : Int
  vault : VaultSettings
  cluster : ClusterSettings
  deriving DecidableEq, Repr

/-- Why settings cannot be taken over. -/
inductive Error where
  /-- A variable spells no integer. -/
  | malformedVariable (fault : Text.Integer.SettingFault)
  /-- A section is turned down. -/
  | rejected (rejection : Schema.Rejection)
  /-- A section is of a kind that has no settings at all. -/
  | notCopyable
  /-- A section is of a kind in which no setting can be looked up. -/
  | notSearchable
  /-- A section is of a kind in which no setting can be replaced. -/
  | notAssignable
  /-- The home directory of a path is not known. -/
  | unknownHome
  deriving DecidableEq, Repr

/-- The text of an error. -/
def Error.message : Error → String
  | malformedVariable fault => fault.message
  | rejected rejection => rejection.message
  | notCopyable => "section has no settings"
  | notSearchable => "section has no names"
  | notAssignable => "section cannot be changed"
  | unknownHome => "Could not determine home directory."

/-- A section before its settings are checked. -/
inductive Draft where
  /-- Named settings. -/
  | named (entries : List (Yaml.Value × Yaml.Value))
  /-- A collection without names. -/
  | nameless (value : Yaml.Value)
  deriving Repr

namespace Draft

/-- A section of a file, or one without settings. -/
def ofValue (value : Yaml.Value) : Except Error Draft :=
  if !value.isTruthy then .ok (named [])
  else
    match value with
    | .map entries => .ok (named entries)
    | .seq _ => .ok (nameless value)
    | .pairs _ => .ok (nameless value)
    | .set _ => .ok (nameless value)
    | _ => .error .notCopyable

/-- Replace a setting. -/
def set (name : String) (value : Yaml.Value) : Draft → Except Error Draft
  | named entries => .ok (named (Yaml.Value.put (.text name) value entries))
  | nameless _ => .error .notAssignable

/-- A section of the draft, null if there is none. -/
def section? (name : String) : Draft → Except Error Yaml.Value
  | named entries => .ok ((Yaml.Value.find? name entries).getD .null)
  | nameless _ => .error .notSearchable

/-- Replace a setting by the text of a variable, if that is set. -/
def overrideText (env : Environment) (name var : String) (d : Draft) : Except Error Draft :=
  match env.get? var with
  | none => .ok d
  | some s => d.set name (.text s)

/-- Replace a setting by the integer of a variable, if that is set. -/
def overrideInteger (env : Environment) (name var : String) (d : Draft) : Except Error Draft :=
  match env.get? var with
  | none => .ok d
  | some s => do
    let n ← (Text.Integer.ofSetting s).mapError .malformedVariable
    d.set name (.int n)

end Draft

open Schema (Checked Part)

/-- A setting that has a default. -/
def setting {α : Type} (entries : List (Yaml.Value × Yaml.Value)) (name : String) (default : α)
    (check : Yaml.Value → Checked α) : Checked α :=
  match Yaml.Value.find? name entries with
  | none => .ok default
  | some value => (check value).under (.member name)

/-- An entry must have one of some names as its key. -/
def checkKey (names : List String) (entry : Yaml.Value × Yaml.Value) : Checked Unit :=
  match entry.1 with
  | .text name =>
    if names.contains name then .ok () else (Checked.fault .unknownMember).under (.member name)
  | key => (Checked.fault .keyNotText).under key.keyPart

/-- No entries besides those with some names. -/
def checkKeys (names : List String) (entries : List (Yaml.Value × Yaml.Value)) : Checked Unit :=
  (Checked.all (checkKey names) entries).map (fun _ => ())

/-- Whether a key is text with half of a surrogate pair in it. -/
def hasBrokenKey (entries : List (Yaml.Value × Yaml.Value)) : Bool :=
  entries.any (fun e =>
    match e.1 with
    | .text name => Text.hasHalf name
    | _ => false)

/-- The check of entries, of which nothing is said if one has a broken key. -/
def unlessBroken {α : Type} (entries : List (Yaml.Value × Yaml.Value)) (checked : Checked α) :
    Checked α :=
  if hasBrokenKey entries then .fault .textUndecodable else checked

/-- A value that a rule accepts, or the reason against it. -/
def accept {α : Type} (reason? : α → Option String) (a : α) : Checked α :=
  match reason? a with
  | none => .ok a
  | some reason => .fault (.refused reason)

/-- A text. -/
def text (value : Yaml.Value) : Checked String := value.scalar.checkText

/-- A text or null. -/
def textOrNull (value : Yaml.Value) : Checked (Option String) :=
  value.scalar.orNull Schema.Scalar.checkText

/-- A whole number. -/
def integer (value : Yaml.Value) : Checked Int := value.scalar.checkInteger

/-- The entries of a draft, which must have names. -/
def entriesOf {α : Type} (d : Draft) (check : List (Yaml.Value × Yaml.Value) → Checked α) :
    Checked α :=
  match d with
  | .named entries => unlessBroken entries (check entries)
  | .nameless _ => .fault .recordExpected

namespace VaultSettings

/-- Settings that no one has changed. -/
def default : VaultSettings :=
  ⟨"https://api.bitwarden.com", "https://identity.bitwarden.com", "/var/bitwarden_state"⟩

/-- The addresses. -/
def endpoints (s : VaultSettings) : Vault.Endpoints := ⟨s.apiUrl, s.identityUrl⟩

/-- A text without slashes at its end. -/
def dropSlashes (s : String) : String :=
  String.ofList ((s.toList.reverse.dropWhile (· == '/')).reverse)

/-- The address of a service, without slashes at its end. -/
def checkUrl (value : Yaml.Value) : Checked String :=
  (text value).andThen (fun s =>
    match Net.Url.isService s with
    | .ok true => .ok (dropSlashes s)
    | .ok false => .fault (.refused ("'" ++ s ++ "' is not a valid http(s) URL"))
    | .error e => .fault (.refused e.message))

/-- A path that is not blank. -/
def checkStatePath (value : Yaml.Value) : Checked String :=
  (text value).andThen (accept (fun s =>
    if Text.isBlankText s then some "state_path must not be empty" else none))

/-- Check the entries of the section. -/
def check (entries : List (Yaml.Value × Yaml.Value)) : Checked VaultSettings :=
  (fun apiUrl identityUrl statePath _ => (⟨apiUrl, identityUrl, statePath⟩ : VaultSettings))
  <$> setting entries "api_url" default.apiUrl checkUrl
  <*> setting entries "identity_api_url" default.identityUrl checkUrl
  <*> setting entries "state_path" default.statePath checkStatePath
  <*> checkKeys ["api_url", "identity_api_url", "state_path"] entries

/-- The settings of a section of a file and of the environment. -/
def load (env : Environment) (value : Yaml.Value) : Except Error VaultSettings := do
  let d ← Draft.ofValue value
  let d ← d.overrideText env "api_url" "BW_API_URL"
  let d ← d.overrideText env "identity_api_url" "BW_IDENTITY_API_URL"
  let d ← d.overrideText env "state_path" "BW_SECRETS_MANAGER_STATE_PATH"
  ((entriesOf d check).run "BitwardenConfig").mapError .rejected

end VaultSettings

namespace ClusterSettings

/-- Settings that no one has changed. -/
def default : ClusterSettings := ⟨none, none, none, 30, 3⟩

/-- A path with the home directory put in, or the reason against it. -/
def expandPath (env : Environment) (path : String) : Except Error (Checked String) :=
  match FilePath.expand env path with
  | .ok path => .ok (.ok path)
  | .error .unknownHome => .error .unknownHome
  | .error .embeddedNul => .ok (.fault (.refused "embedded null byte"))

/-- The path of the credentials, or null. -/
def checkKubeconfig (env : Environment) (value : Yaml.Value) :
    Except Error (Checked (Option String)) :=
  match textOrNull value with
  | .ok (some path) => do return (← expandPath env path).map some
  | .ok none => .ok (.ok none)
  | .bad i is => .ok (.bad i is)

/-- Check the entries of the section, of which the path of the credentials has been checked. -/
def check (kubeconfig : Checked (Option String)) (entries : List (Yaml.Value × Yaml.Value)) :
    Checked ClusterSettings :=
  (fun kubeconfig context ns timeout attempts _ =>
    (⟨kubeconfig, context, ns, timeout, attempts⟩ : ClusterSettings))
  <$> kubeconfig.under (.member "kubeconfig")
  <*> setting entries "context" none textOrNull
  <*> setting entries "namespace" none textOrNull
  <*> setting entries "timeout" default.timeout (fun v => (integer v).andThen (accept (fun n =>
      if n ≤ 0 then some "timeout must be positive" else none)))
  <*> setting entries "retry_attempts" default.retryAttempts (fun v =>
      (integer v).andThen (accept (fun n =>
        if n < 1 then some "retry_attempts must be at least 1" else none)))
  <*> checkKeys ["kubeconfig", "context", "namespace", "timeout", "retry_attempts"] entries

/-- The path of the credentials in a draft. -/
def kubeconfigOf (env : Environment) : Draft → Except Error (Checked (Option String))
  | .named entries => checkKubeconfig env ((Yaml.Value.find? "kubeconfig" entries).getD .null)
  | .nameless _ => .ok (.ok none)

/-- The settings of a section of a file and of the environment. -/
def load (env : Environment) (value : Yaml.Value) : Except Error ClusterSettings := do
  let d ← Draft.ofValue value
  let d ← d.overrideText env "kubeconfig" "BW_K8S_KUBECONFIG"
  let d ← d.overrideText env "context" "BW_K8S_CONTEXT"
  let d ← d.overrideText env "namespace" "WATCH_NAMESPACE"
  let d ← d.overrideInteger env "timeout" "BW_K8S_TIMEOUT"
  let d ← d.overrideInteger env "retry_attempts" "BW_K8S_RETRY_ATTEMPTS"
  let kubeconfig ← kubeconfigOf env d
  ((entriesOf d (check kubeconfig)).run "KubernetesConfig").mapError .rejected

end ClusterSettings

namespace OperatorSettings

/-- Seconds between two attempts, unless set otherwise. -/
def defaultRefresh : Int := 300

/-- The least number of seconds between two attempts. -/
def minimumRefresh : Int := 180

/-- The number of seconds between two attempts that is asked for. -/
def checkRefresh (entries : List (Yaml.Value × Yaml.Value)) : Checked (Option Int) :=
  setting entries "refresh_interval" none (fun v => (integer v).map some)

/-- Raise a number of seconds to the minimum. -/
def raised (requested : Option Int) : Int :=
  match requested with
  | none => defaultRefresh
  | some n => if n < minimumRefresh then minimumRefresh else n

/-- Note in the log that a number of seconds is too low. -/
def warnLow (requested : Option Int) : Act Unit :=
  match requested with
  | some n =>
    if n < minimumRefresh then
      Act.log .warning "refresh_interval_below_minimum"
        [("requested", .int n), ("applied", .int minimumRefresh)]
    else pure ()
  | none => pure ()

/-- The sections of the settings, with the entries around them. -/
def sections (env : Environment) (value : Yaml.Value) :
    Except Error (List (Yaml.Value × Yaml.Value) × VaultSettings × ClusterSettings) := do
  let d ← Draft.ofValue value
  let d ← d.overrideInteger env "refresh_interval" "BW_SECRETS_MANAGER_REFRESH_INTERVAL"
  let vault ← VaultSettings.load env (← d.section? "bitwarden")
  let cluster ← ClusterSettings.load env (← d.section? "kubernetes")
  match d with
  | .named entries => return (entries, vault, cluster)
  | .nameless _ => throw .notSearchable

/-- The settings of a file and of the environment. -/
def load (env : Environment) (value : Yaml.Value) : ExceptT Error Act OperatorSettings := do
  match sections env value with
  | .error e => throw e
  | .ok (entries, vault, cluster) =>
    let refresh := checkRefresh entries
    match refresh with
    | .ok requested => warnLow requested
    | .bad _ _ => pure ()
    let checked := (fun requested _ => (⟨raised requested, vault, cluster⟩ : OperatorSettings))
      <$> refresh <*> checkKeys ["refresh_interval", "bitwarden", "kubernetes"] entries
    match (unlessBroken entries checked).run "OperatorConfig" with
    | .ok settings => return settings
    | .error rejection => throw (.rejected rejection)

end OperatorSettings
end SecretSync.Config

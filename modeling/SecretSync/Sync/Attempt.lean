import SecretSync.Cluster.Declarations
import SecretSync.Sync.Failure
import SecretSync.Vault.Pull

/-!
# One attempt to fill a target

An attempt reads the access token, pulls the changes since the watermark and, if there are any,
brings the target up to date: it is created if it does not exist, its values are brought back to
vault ids, the changes are added, the key map is applied, and the result is written.
-/

namespace SecretSync.Sync

/-- What the operator works with. -/
structure Settings where
  access : Cluster.Access
  endpoints : Vault.Endpoints
  /-- Where the vault client keeps its state. -/
  statePath : String
  /-- Time between two attempts for a declaration. -/
  refresh : Time.Duration
  /-- How long behind the watermark an attempt counts as an echo. -/
  guardWindow : Time.Duration

/-- How an attempt that did not fail ended. -/
inductive Progress where
  /-- Nothing had changed. -/
  | unchanged
  /-- The target was written. -/
  | written
  deriving DecidableEq, Repr

/-- The message about an attempt that did not fail. -/
def Progress.message (key : ObjectKey) : Progress → String
  | unchanged => "No changes to " ++ key.text ++ ". Skipping sync."
  | written => "Completed sync for " ++ key.text

/-- What ends an attempt before it is through. -/
inductive Break where
  /-- A failure, which is recorded. -/
  | failed (failure : Failure)
  /-- A value that was pulled cannot be encoded.  Nothing is prepared for that. -/
  | value (error : Text.Utf8.EncodeError)
  deriving Repr

/-- A step of an attempt that may break it off. -/
abbrev Step := ExceptT Break Act

/-- A computation as a step, which fails the attempt if it fails. -/
def Step.adapt {ε α : Type} (failure : ε → Failure) (x : ExceptT ε Act α) : Step α :=
  ExceptT.adapt (fun e => .failed (failure e)) x

/-- A result as a step. -/
def Step.ofResult {ε α : Type} (failure : ε → Failure) (result : Except ε α) : Step α :=
  Step.adapt failure (ExceptT.mk (pure result))

/-- The access token of a declaration. -/
def readToken (settings : Settings) (key : ObjectKey) (spec : Spec) : Step String := do
  let secret ← Step.adapt .tokenSecret
    (Cluster.Secrets.fetch settings.access key.ns spec.authToken.secretName)
  match secret.value? spec.authToken.secretKey with
  | none => throw (.failed (.tokenMissing spec.authToken))
  | some octets => Step.ofResult .tokenUndecodable (Text.Utf8.decode octets)

/-- What a pull that yields nothing does to an attempt for a declaration. -/
def Break.ofPull (settings : Settings) (d : Declaration) : Vault.PullError → Break
  | .vault error =>
    failed (.pull settings.endpoints settings.statePath d.spec.organizationId error)
  | .value error => value error

/-- The changes since the watermark of a declaration. -/
def pullChanges (settings : Settings) (d : Declaration) (token : String) : Step Vault.Delta :=
  ExceptT.adapt (Break.ofPull settings d)
    (Vault.pull settings.endpoints d.spec.organizationId token d.status.lastSync settings.statePath)

/-- Create the target of a declaration, empty and under its control. -/
def createTarget (settings : Settings) (d : Declaration) : Step Secret := do
  let shell ← Step.ofResult .ownership ((Secret.shell d).own d)
  Step.adapt .creation (Cluster.Secrets.create settings.access shell)

/-- The target of a declaration, created if it does not exist. -/
def readTarget (settings : Settings) (key : ObjectKey) (d : Declaration) : Step Secret := do
  match ← (Cluster.Secrets.fetch settings.access key.ns d.spec.secretName).run with
  | .ok secret => return secret
  | .error e =>
    if e.isNotFound then createTarget settings d
    else throw (.failed (.reading d.spec.secretName e))

/-- The target with changed values taken over under the key map of a declaration, as of a time. -/
def refill (mapFault : Option String) (key : ObjectKey) (d : Declaration) (values : Data)
    (now : Time.Instant) (restored : Secret) : Except Failure Secret :=
  (((restored.addValues values).applyMap d.spec.map).annotate mapFault d.spec.map now).mapError
    (.annotationWrite key)

/-- A target with its values brought back to vault ids.  The text of a key map that has halves of
surrogate pairs in it is not read. -/
def restored (target : Secret) : Except AnnotationError Secret :=
  match (target.annotations.get? Annotation.customMap).filter Text.hasHalf with
  | some _ => .error (.unreadable ⟨KeyMap.title, ⟨[], .textUndecodable⟩, []⟩)
  | none => target.restoreIds

/-- Fill the target of a declaration with changed values. -/
def fillTarget (settings : Settings) (key : ObjectKey) (d : Declaration) (values : Data) :
    Step Unit := do
  let target ← readTarget settings key d
  let source ← Step.ofResult (.annotationRead d.spec.secretName) (restored target)
  let now ← Act.now
  let filled ← Step.ofResult id (refill ((← get).writeFault d.spec.map) key d values now source)
  let _ ← Step.adapt (.update key) (Cluster.Secrets.update settings.access filled)

/-- Try to fill the target of a declaration. -/
def attempt (settings : Settings) (key : ObjectKey) (d : Declaration) : Step Progress := do
  let token ← readToken settings key d.spec
  let delta ← pullChanges settings d token
  if delta.hasChanges then
    fillTarget settings key d delta.values
    return .written
  else
    Act.log .info "no_changes" [("namespace", .str key.ns), ("name", .str key.name)]
    return .unchanged

end SecretSync.Sync

import SecretSync.Schema.Record
import SecretSync.World.Basic

/-!
# The client of the vault

A client is built for one session.  It logs in with an access token and asks for the secrets
that have changed since an instant.
-/

namespace SecretSync.Vault

/-- The sorts of vault errors. -/
inductive ErrorKind where
  /-- An error of no particular sort. -/
  | general
  /-- No client, or a closed one. -/
  | client
  /-- The login was not accepted. -/
  | login
  /-- The changes could not be fetched. -/
  | sync
  deriving DecidableEq, Repr

/-- A failure of the vault. -/
structure Error where
  kind : ErrorKind
  summary : String
  /-- The text of what led to it. -/
  cause : Option String
  deriving DecidableEq, Repr

/-- The text of an error: the summary, and the cause behind it. -/
def Error.message (e : Error) : String :=
  match e.cause with
  | some cause => e.summary ++ ": " ++ cause
  | none => e.summary

/-- One secret of the vault. -/
structure Entry where
  id : String
  value : String
  deriving DecidableEq, Repr

/-- What has changed in the vault. -/
structure Changes where
  /-- Whether anything has. -/
  any : Bool
  entries : List Entry
  deriving DecidableEq, Repr

/-- Why an answer of the vault cannot be read. -/
inductive AnswerError where
  /-- The secrets are of a kind without items. -/
  | noItems (kind : String)
  /-- A secret of this kind has no such member. -/
  | noMember (kind name : String)
  /-- The value of a secret is no text. -/
  | rejected (rejection : Schema.Rejection)
  deriving DecidableEq, Repr

/-- The text of an answer error. -/
def AnswerError.message : AnswerError → String
  | noItems kind => "'" ++ kind ++ "' object is not iterable"
  | noMember kind name => "'" ++ kind ++ "' object has no attribute '" ++ name ++ "'"
  | rejected rejection => rejection.message

/-- The kind of a part of an answer: records are not dictionaries there. -/
def answerKind : Json → String
  | .obj _ => "types.SimpleNamespace"
  | value => value.kindName

namespace Changes

/-- A member of a secret. -/
def entryMember (name : String) (item : Json) : Except AnswerError Json :=
  match item.member? name with
  | some value => .ok value
  | none => .error (.noMember (answerKind item) name)

/-- A secret. -/
def readEntry (item : Json) : Except AnswerError Entry := do
  let id ← entryMember "id" item
  let value ← entryMember "value" item
  match (Schema.text value).under (.member "value") with
  | .ok text => return ⟨id.plain, text⟩
  | .bad i is => .error (.rejected ⟨"SecretValue", i, is⟩)

/-- The items of the list of secrets. -/
def items (secrets : Json) : Except AnswerError (List Json) :=
  if !secrets.isTruthy then .ok []
  else
    match secrets with
    | .arr items => .ok items
    | .str s => .ok (s.toList.map (fun c => .str (String.singleton c)))
    | value => .error (.noItems (answerKind value))

/-- The changes that an answer tells. -/
def ofAnswer (data : Json) : Except AnswerError Changes := do
  let items ← items ((data.member? "secrets").getD .null)
  let entries ← items.mapM readEntry
  return ⟨((data.member? "has_changes").getD (.bool false)).isTruthy, entries⟩

end Changes

/-- Why the changes are not there. -/
inductive FetchError where
  /-- The vault failed. -/
  | vault (error : Error)
  /-- The vault answered what cannot be read. -/
  | answer (error : AnswerError)
  deriving DecidableEq, Repr

/-- The text of a fetch error. -/
def FetchError.message : FetchError → String
  | vault error => error.message
  | answer error => error.message

/-- A client: its session, if it is not closed. -/
structure Client where
  session : Option Session
  deriving Repr

/-- The name by which the operator introduces itself. -/
def userAgent : String := "bw-secrets-operator"

/-- The next session of the vault. -/
def nextSession : Act Session := do
  let w ← get
  match w.sessions with
  | [] => return Session.quiet
  | session :: rest =>
    set { w with sessions := rest }
    return session

namespace Client

/-- Build a client for the vault at some addresses. -/
def build (endpoints : Endpoints) : ExceptT Error Act Client := do
  Act.yieldToOthers
  Act.note (.openVault endpoints)
  let session ← nextSession
  match session.constructFailure with
  | some text => throw ⟨.client, "Failed to create Secrets Manager client", some text⟩
  | none =>
    modify (fun w => { w with openClients := w.openClients + 1 })
    Act.log .debug "created_secrets_manager_client" [("api_url", .str endpoints.apiUrl)]
    return ⟨some session⟩

/-- The session of a client that is not closed. -/
def open? (c : Client) : Except Error Session :=
  match c.session with
  | some session => .ok session
  | none => .error ⟨.client, "Secrets Manager client is closed", none⟩

/-- Log in with an access token. -/
def login (c : Client) (token statePath : String) : ExceptT Error Act Unit := do
  match c.open? with
  | .error e => throw e
  | .ok session =>
    Act.yieldToOthers
    Act.note (.login token statePath)
    modify (World.advance session.login.delay)
    match session.login.failure with
    | some text => throw ⟨.login, "Access token login failed", some text⟩
    | none =>
      match session.login.success with
      | some (.bool false) =>
        let reason := (session.login.errorMessage.getD (.str "unknown error")).plain
        throw ⟨.login, "Access token login failed: " ++ reason, none⟩
      | _ => return ()

/-- Ask for the secrets of an organisation that have changed since an instant, or for all. -/
def sync (c : Client) (organization : String) (since : Option Time.Instant) :
    ExceptT FetchError Act Changes := do
  match c.open? with
  | .error e => throw (.vault e)
  | .ok session =>
    Act.yieldToOthers
    Act.note (.sync organization since)
    modify (World.advance session.sync.delay)
    match session.sync.failure with
    | some text => throw (.vault ⟨.sync, "Secrets sync request failed", some text⟩)
    | none =>
      match session.sync.data.getD .null with
      | .null =>
        let reason := (session.sync.errorMessage.getD .null).plain
        throw (.vault ⟨.sync, "Secrets sync returned no data: " ++ reason, none⟩)
      | data =>
        match Changes.ofAnswer data with
        | .error e => throw (.answer e)
        | .ok changes => return changes

/-- Close the client; a closed one stays as it is. -/
def close (c : Client) : Act Client := do
  if c.session.isSome then modify (fun w => { w with openClients := w.openClients - 1 })
  return ⟨none⟩

end Client
end SecretSync.Vault

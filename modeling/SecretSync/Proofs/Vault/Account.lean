import SecretSync.Proofs.Vault.Answer
import SecretSync.Proofs.Vault.Pull

/-!
# The account of a pull

Whatever the vault does, a pull builds one client, logs in at most once, and asks for the changes
only behind an accepted login; no client is left open.  It yields all that was answered, or an error
of the vault that tells at which step it ended.  Only a value with a half of a surrogate pair in it
makes it end otherwise: nothing is prepared for values that cannot be encoded.
-/

namespace SecretSync

namespace World

/-- Calls are made between two worlds, and the count of open clients is the same in both. -/
structure Engages (v : World) (calls : List Call) (u : World) : Prop where
  calls : u.calls = v.calls ++ calls
  openClients : u.openClients = v.openClients

namespace Engages

variable {u v w : World} {calls calls' : List Call}

/-- Calls of two stretches engage one behind the other. -/
theorem trans (h : u.Engages calls v) (h' : v.Engages calls' w) :
    u.Engages (calls ++ calls') w where
  calls := by rw [h'.calls, h.calls, List.append_assoc]
  openClients := h'.openClients.trans h.openClients

/-- Time that passes makes no calls. -/
theorem advanced (h : u.Engages calls v) (d : Time.Duration) : u.Engages calls (v.advance d) :=
  ⟨h.calls, h.openClients⟩

end Engages

private theorem account_disturb (w : World) (deed : Disturbance) :
    (w.disturb deed).calls = w.calls ∧ (w.disturb deed).openClients = w.openClients := by
  cases deed with
  | editDeclaration key changes generation =>
    simp only [disturb]
    split
    · exact ⟨rfl, rfl⟩
    · exact ⟨rfl, rfl⟩
  | _ => exact ⟨rfl, rfl⟩

/-- Others make no calls in the name of the operator, and open no clients. -/
theorem engages_noted (call : Call) (w : World) : w.Engages [call] (w.interlude.noted call) := by
  have hturn : w.interlude.calls = w.calls ∧ w.interlude.openClients = w.openClients :=
    interlude_of_disturb
      (R := fun v u => u.calls = v.calls ∧ u.openClients = v.openClients) (fun _ => ⟨rfl, rfl⟩)
      (fun h h' => ⟨h'.1.trans h.1, h'.2.trans h.2⟩) (fun _ _ => ⟨rfl, rfl⟩) account_disturb w
  exact ⟨congrArg (· ++ [call]) hturn.1, hturn.2⟩

end World

namespace Vault

open Act

/-- An answer tells records, and the value of one of them has a half of a surrogate pair in it. -/
def SyncAnswer.Garbles (answer : SyncAnswer) : Prop :=
  ∃ data items, answer.failure = none ∧ answer.data = some data ∧ data.isNull = false ∧
    Tells data items ∧ Garbled items

/-- Whether a login is accepted: it does not fail, and is not answered as unsuccessful. -/
def LoginAnswer.accepted (answer : LoginAnswer) : Bool :=
  answer.failure.isNone &&
    match answer.success with
    | some (.bool false) => false
    | _ => true

namespace Session

/-- The calls that a session of the vault sees of a pull. -/
def heard (session : Session) (endpoints : Endpoints) (organization token : String)
    (since : Option Time.Instant) (statePath : String) : List Call :=
  if session.constructFailure.isSome then [.openVault endpoints]
  else if session.login.accepted then
    [.openVault endpoints, .login token statePath, .sync organization since]
  else [.openVault endpoints, .login token statePath]

/-- The sort of the error at the step that a pull comes to. -/
def reached (session : Session) : ErrorKind :=
  if session.constructFailure.isSome then .client
  else if session.login.accepted then .sync
  else .login

/-- A client can be built, the login is accepted, and the request is answered with data. -/
structure Answers (session : Session) (data : Json) : Prop where
  built : session.constructFailure = none
  accepted : session.login.accepted = true
  answered : session.sync.failure = none
  told : session.sync.data = some data
  given : data.isNull = false

/-- A session offers changed values: they gather what its data tells. -/
def Delivers (session : Session) (delta : Delta) : Prop :=
  ∃ data items, session.Answers data ∧ delta.Gathers data items

/-- A client can be built, the login is accepted, and a value that is answered has a half of a
surrogate pair in it. -/
def Garbles (session : Session) : Prop :=
  session.constructFailure = none ∧ session.login.accepted = true ∧ session.sync.Garbles

end Session

variable {w w' : World} {endpoints : Endpoints} {organization token statePath : String}
  {since : Option Time.Instant} {session : Session}

/-! ### The steps -/

private theorem build_engages {r : Except Error Client}
    (h : Ends (Client.build endpoints).run w r w') :
    w'.calls = w.calls ++ [.openVault endpoints] ∧
      ((w.session.constructFailure.isSome = true ∧ w'.openClients = w.openClients ∧
          ∃ e, r = .error e ∧ e.kind = .client) ∨
        w.session.constructFailure = none ∧ w'.openClients = w.openClients + 1 ∧
          r = .ok ⟨some w.session⟩) := by
  rcases ends_run_lift_bind.mp h with ⟨_, _, hyield, h⟩
  cases ends_modify.mp hyield
  rcases ends_run_lift_bind.mp h with ⟨_, _, hnote, h⟩
  cases ends_modify.mp hnote
  rcases ends_run_lift_bind.mp h with ⟨session, v, hsession, h⟩
  rcases nextSession_ends hsession with ⟨rfl, rfl⟩
  have hcall := World.engages_noted (.openVault endpoints) w
  have hsame : (w.interlude.noted (.openVault endpoints)).session = w.session :=
    congrArg (List.headD · Session.quiet) (World.sameInside_interlude w).sessions
  rw [hsame] at h
  cases hfailure : w.session.constructFailure with
  | some text =>
    rw [hfailure] at h
    rcases ends_run_throw.mp h with ⟨rfl, rfl⟩
    exact ⟨hcall.calls, Or.inl ⟨rfl, hcall.openClients, _, rfl, rfl⟩⟩
  | none =>
    rw [hfailure, ends_run_modify_bind] at h
    rcases ends_run_lift_bind.mp h with ⟨_, _, hlog, h⟩
    cases ends_modify.mp hlog
    rcases ends_run_pure.mp h with ⟨rfl, rfl⟩
    exact ⟨hcall.calls, Or.inr ⟨rfl, congrArg (· + 1) hcall.openClients, rfl⟩⟩

private theorem login_engages {r : Except Error Unit}
    (h : Ends (Client.login ⟨some session⟩ token statePath).run w r w') :
    w.Engages [.login token statePath] w' ∧
      if session.login.accepted then r = .ok () else ∃ e, r = .error e ∧ e.kind = .login := by
  rcases ends_run_lift_bind.mp h with ⟨_, _, hyield, h⟩
  cases ends_modify.mp hyield
  rcases ends_run_lift_bind.mp h with ⟨_, _, hnote, h⟩
  cases ends_modify.mp hnote
  rw [ends_run_modify_bind] at h
  have hcall : w.Engages [.login token statePath]
      ((w.interlude.noted (.login token statePath)).advance session.login.delay) :=
    (World.engages_noted _ w).advanced _
  cases hfailure : session.login.failure with
  | some text =>
    rw [hfailure] at h
    rcases ends_run_throw.mp h with ⟨rfl, rfl⟩
    have hrefused : session.login.accepted = false := by simp [LoginAnswer.accepted, hfailure]
    rw [hrefused]
    exact ⟨hcall, _, rfl, rfl⟩
  | none =>
    rw [hfailure] at h
    dsimp only at h
    split at h
    · next hsuccess =>
      rcases ends_run_throw.mp h with ⟨rfl, rfl⟩
      have hrefused : session.login.accepted = false := by
        simp [LoginAnswer.accepted, hfailure, hsuccess]
      rw [hrefused]
      exact ⟨hcall, _, rfl, rfl⟩
    · next hsuccess =>
      rcases ends_run_pure.mp h with ⟨rfl, rfl⟩
      have haccepted : session.login.accepted = true := by
        rw [LoginAnswer.accepted, hfailure]
        split
        · next hfalse => exact absurd hfalse hsuccess
        · rfl
      rw [haccepted]
      exact ⟨hcall, rfl⟩

private theorem isNull_eq_false {data : Json} (h : data ≠ .null) : data.isNull = false := by
  cases data with
  | null => exact absurd rfl h
  | _ => rfl

private theorem sync_engages {r : Except FetchError Changes}
    (h : Ends (Client.sync ⟨some session⟩ organization since).run w r w') :
    w.Engages [.sync organization since] w' ∧
      ((∃ changes, session.sync.changes? = some changes ∧ r = .ok changes) ∨
        session.sync.changes? = none ∧ ∃ e, r = .error e ∧ e.toError.kind = .sync) := by
  rcases ends_run_lift_bind.mp h with ⟨_, _, hyield, h⟩
  cases ends_modify.mp hyield
  rcases ends_run_lift_bind.mp h with ⟨_, _, hnote, h⟩
  cases ends_modify.mp hnote
  rw [ends_run_modify_bind] at h
  have hcall : w.Engages [.sync organization since]
      ((w.interlude.noted (.sync organization since)).advance session.sync.delay) :=
    (World.engages_noted _ w).advanced _
  cases hfailure : session.sync.failure with
  | some text =>
    rw [hfailure] at h
    rcases ends_run_throw.mp h with ⟨rfl, rfl⟩
    have hnone : session.sync.changes? = none := by simp [SyncAnswer.changes?, hfailure]
    exact ⟨hcall, Or.inr ⟨hnone, _, rfl, rfl⟩⟩
  | none =>
    rw [hfailure] at h
    dsimp only at h
    split at h
    · next hnull =>
      rcases ends_run_throw.mp h with ⟨rfl, rfl⟩
      have hnone : session.sync.changes? = none := by
        simp [SyncAnswer.changes?, hnull, Json.isNull]
      exact ⟨hcall, Or.inr ⟨hnone, _, rfl, rfl⟩⟩
    · next hdata =>
      have hread : session.sync.changes? =
          (Changes.ofAnswer (session.sync.data.getD .null)).toOption := by
        simp [SyncAnswer.changes?, hfailure, isNull_eq_false hdata]
      cases hchanges : Changes.ofAnswer (session.sync.data.getD .null) with
      | error e =>
        rw [hchanges] at h hread
        rcases ends_run_throw.mp h with ⟨rfl, rfl⟩
        exact ⟨hcall, Or.inr ⟨hread, _, rfl, rfl⟩⟩
      | ok changes =>
        rw [hchanges] at h hread
        rcases ends_run_pure.mp h with ⟨rfl, rfl⟩
        exact ⟨hcall, Or.inl ⟨changes, hread, rfl⟩⟩

private theorem close_engages {client : Client}
    (h : Ends (Client.close ⟨some session⟩) w client w') :
    w'.calls = w.calls ∧ w'.openClients = w.openClients - 1 := by
  cases h
  exact ⟨rfl, rfl⟩

/-- The calls behind the building of a client. -/
theorem fetch_engages {r : Except FetchError Changes}
    (h : Ends (fetch ⟨some session⟩ organization token since statePath).run w r w') :
    (session.login.accepted = false ∧ w.Engages [.login token statePath] w' ∧
      ∃ e, r = .error e ∧ e.toError.kind = .login) ∨
    session.login.accepted = true ∧
      w.Engages [.login token statePath, .sync organization since] w' ∧
      ((∃ changes, session.sync.changes? = some changes ∧ r = .ok changes) ∨
        session.sync.changes? = none ∧ ∃ e, r = .error e ∧ e.toError.kind = .sync) := by
  rcases ends_run_bind.mp h with ⟨e, hlogin, rfl⟩ | ⟨_, v, hlogin, hsync⟩
  · rcases ends_run_adapt.mp hlogin with ⟨answer, hlogin, hmapped⟩
    rcases login_engages hlogin with ⟨hcall, hanswer⟩
    cases haccepted : session.login.accepted with
    | true =>
      rw [haccepted, if_pos rfl] at hanswer
      rw [hanswer] at hmapped
      cases hmapped
    | false =>
      rw [haccepted, if_neg Bool.false_ne_true] at hanswer
      rcases hanswer with ⟨e', rfl, hkind⟩
      cases hmapped
      exact Or.inl ⟨rfl, hcall, _, rfl, hkind⟩
  · rcases ends_run_adapt.mp hlogin with ⟨answer, hlogin, hmapped⟩
    rcases login_engages hlogin with ⟨hcall, hanswer⟩
    rcases sync_engages hsync with ⟨hcall', hchanges⟩
    cases haccepted : session.login.accepted with
    | true => exact Or.inr ⟨rfl, hcall.trans hcall', hchanges⟩
    | false =>
      rw [haccepted, if_neg Bool.false_ne_true] at hanswer
      rcases hanswer with ⟨e', rfl, -⟩
      cases hmapped

/-! ### What a session offers -/

/-- Data is offered as it is read. -/
theorem changes?_eq_some_iff {answer : SyncAnswer} {changes : Changes} :
    answer.changes? = some changes ↔ ∃ data, answer.failure = none ∧ answer.data = some data ∧
      data.isNull = false ∧ Changes.ofAnswer data = .ok changes := by
  unfold SyncAnswer.changes?
  rcases answer with ⟨delay, failure, message, given⟩
  constructor
  · intro h
    cases failure with
    | some text => cases h
    | none =>
      cases given with
      | none => cases h
      | some data =>
        dsimp only [Option.getD_some] at h
        split at h
        · cases h
        · next hnull =>
          refine ⟨data, rfl, rfl, by simpa using hnull, ?_⟩
          cases hread : Changes.ofAnswer data with
          | error e =>
            rw [hread] at h
            cases h
          | ok changes' =>
            rw [hread] at h
            cases h
            rfl
  · rintro ⟨data, hfailure, hgiven, hnull, hread⟩
    cases hfailure
    cases hgiven
    simp [hnull, hread, Except.toOption]

/-- Data is read and cannot be encoded exactly if it tells a value with a half in it. -/
theorem garbles_iff {answer : SyncAnswer} :
    answer.Garbles ↔ ∃ changes e, answer.changes? = some changes ∧
      Delta.ofChanges changes = .error e := by
  constructor
  · rintro ⟨data, items, hfailure, hdata, hgiven, htells, hgarbled⟩
    rcases Changes.exists_ofAnswer_iff.mpr ⟨items, htells⟩ with ⟨changes, hread⟩
    refine ⟨changes, ?_⟩
    cases hvalues : Delta.ofChanges changes with
    | error e =>
      exact ⟨e, changes?_eq_some_iff.mpr ⟨data, hfailure, hdata, hgiven, hread⟩, rfl⟩
    | ok delta =>
      rcases Changes.gathers_ofAnswer hread hvalues with ⟨items', hgathers⟩
      obtain rfl := Changes.lists_unique hgathers.tells.lists htells.lists
      exact absurd hgarbled hgathers.whole
  · rintro ⟨changes, e, hchanges, hvalues⟩
    rcases changes?_eq_some_iff.mp hchanges with ⟨data, hfailure, hdata, hgiven, hread⟩
    rcases Changes.garbled_ofAnswer hread hvalues with ⟨items, htells, hgarbled⟩
    exact ⟨data, items, hfailure, hdata, hgiven, htells, hgarbled⟩

namespace Session

/-- The values that a session tells cannot be encoded exactly if one of them has a half in it. -/
theorem garbled?_ne_none_iff : session.garbled? ≠ none ↔ session.sync.Garbles := by
  rw [garbles_iff, garbled?]
  cases session.sync.changes? with
  | none => simp
  | some changes => cases hvalues : Delta.ofChanges changes <;> simp [hvalues]

private theorem delivers_ofChanges {changes : Changes} {delta : Delta}
    (built : session.constructFailure = none) (accepted : session.login.accepted = true)
    (h : session.sync.changes? = some changes) (hvalues : Delta.ofChanges changes = .ok delta) :
    session.Delivers delta := by
  rcases changes?_eq_some_iff.mp h with ⟨data, hfailure, hdata, hgiven, hread⟩
  rcases Changes.gathers_ofAnswer hread hvalues with ⟨items, hgathers⟩
  exact ⟨data, items, ⟨built, accepted, hfailure, hdata, hgiven⟩, hgathers⟩

/-- Of two records for one id the last counts. -/
example : Session.Delivers
    ⟨none, accepted, ⟨.zero, none, none, some (.obj [("has_changes", .bool true),
      ("secrets", .arr [.obj [("id", .str "a"), ("value", .str "1")],
        .obj [("id", .str "a"), ("value", .str "2")]])])⟩⟩
    ⟨true, Dict.ofList [("a", Text.Utf8.encode "2")]⟩ :=
  @delivers_ofChanges _ ⟨true, [⟨"a", "1"⟩, ⟨"a", "2"⟩]⟩ _ rfl rfl rfl rfl

/-- A session tells no records if one of its steps fails. -/
theorem not_tells (h : session.constructFailure.isSome = true ∨
    session.login.accepted = false ∨ session.sync.changes? = none) {data : Json}
    {items : List Json} (hanswers : session.Answers data) : ¬ Tells data items := by
  intro htells
  rcases h with hfails | hrefused | hnone
  · rw [hanswers.built] at hfails
    cases hfails
  · rw [hanswers.accepted] at hrefused
    cases hrefused
  · rcases Changes.exists_ofAnswer_iff.mpr ⟨items, htells⟩ with ⟨changes, hread⟩
    have hsome : session.sync.changes? = some changes := changes?_eq_some_iff.mpr
      ⟨data, hanswers.answered, hanswers.told, hanswers.given, hread⟩
    rw [hnone] at hsome
    cases hsome

/-- What a session tells is delivered or garbled, not both. -/
theorem not_garbles_of_delivers {delta : Delta} (h : session.Delivers delta) :
    ¬ session.Garbles := by
  rcases h with ⟨data, items, hanswers, hgathers⟩
  rintro ⟨-, -, data', items', -, hdata, -, htells, hgarbled⟩
  obtain rfl : data = data' := Option.some.inj (hanswers.told.symm.trans hdata)
  obtain rfl := Changes.lists_unique hgathers.tells.lists htells.lists
  exact hgathers.whole hgarbled

end Session

/-- The ending that a pull owes to what it has fetched. -/
def fetched : Except FetchError Changes → Except PullError Delta
  | .ok changes => (Delta.ofChanges changes).mapError .value
  | .error e => .error (.vault e.toError)

/-- A pull fails to build a client, or fetches with it and closes it in any case. -/
theorem pull_steps {r : Except PullError Delta}
    (h : Ends (pull endpoints organization token since statePath).run w r w') :
    (w.session.constructFailure.isSome = true ∧ w'.calls = w.calls ++ [.openVault endpoints] ∧
      w'.openClients = w.openClients ∧ ∃ e, r = .error (.vault e) ∧ e.kind = .client) ∨
    ∃ result v u, w.session.constructFailure = none ∧
      v.calls = w.calls ++ [.openVault endpoints] ∧ v.openClients = w.openClients + 1 ∧
      Ends (fetch ⟨some w.session⟩ organization token since statePath).run v result u ∧
      w'.calls = u.calls ∧ w'.openClients = u.openClients - 1 ∧ r = fetched result := by
  rcases ends_run_bind.mp h with ⟨e, hbuild, rfl⟩ | ⟨client, v, hbuild, h⟩
  · rcases ends_run_adapt.mp hbuild with ⟨built, hbuild, hmapped⟩
    rcases build_engages hbuild with ⟨hcalls, ⟨hfails, hclients, e', rfl, hkind⟩ | ⟨-, -, rfl⟩⟩
    · cases hmapped
      exact Or.inl ⟨hfails, hcalls, hclients, e', rfl, hkind⟩
    · cases hmapped
  · rcases ends_run_adapt.mp hbuild with ⟨built, hbuild, hmapped⟩
    rcases build_engages hbuild with ⟨hcalls, ⟨-, -, e', rfl, -⟩ | ⟨hbuilt, hclients, rfl⟩⟩
    · cases hmapped
    · cases hmapped
      rcases ends_run_lift_bind.mp h with ⟨result, u, hfetch, h⟩
      refine Or.inr ⟨result, v, u, hbuilt, hcalls, hclients, hfetch, ?_⟩
      cases result with
      | error e =>
        rcases ends_run_lift_bind.mp h with ⟨_, _, hlog, h⟩
        cases ends_modify.mp hlog
        rcases ends_run_lift_bind.mp h with ⟨_, _, hclose, h⟩
        rcases ends_run_throw.mp h with ⟨rfl, rfl⟩
        rcases close_engages hclose with ⟨hcalls, hclients⟩
        exact ⟨hcalls, hclients, rfl⟩
      | ok changes =>
        rcases ends_run_lift_bind.mp h with ⟨_, v', hclose, h⟩
        rcases close_engages hclose with ⟨hcalls, hclients⟩
        rcases readValues_ends h with ⟨rfl | ⟨record, rfl⟩, rfl⟩
        · exact ⟨hcalls, hclients, rfl⟩
        · exact ⟨hcalls, hclients, rfl⟩

/-- However a pull ends, it accounts for its steps. -/
theorem pull_accounted {r : Except PullError Delta}
    (h : Ends (pull endpoints organization token since statePath).run w r w') :
    w'.calls = w.calls ++ w.session.heard endpoints organization token since statePath ∧
      w'.openClients = w.openClients ∧
      ((∃ delta, r = .ok delta ∧ w.session.Delivers delta ∧ ¬ w.session.Garbles) ∨
        ((∃ e, r = .error (.vault e) ∧ e.kind = w.session.reached) ∧
          (∀ delta, ¬ w.session.Delivers delta) ∧ ¬ w.session.Garbles) ∨
        (∃ e, r = .error (.value e)) ∧ w.session.Garbles) := by
  have hfailed (hstep : w.session.constructFailure.isSome = true ∨
      w.session.login.accepted = false ∨ w.session.sync.changes? = none) :
      (∀ delta, ¬ w.session.Delivers delta) ∧ ¬ w.session.Garbles := by
    constructor
    · rintro delta ⟨data, items, hanswers, hgathers⟩
      exact Session.not_tells hstep hanswers hgathers.tells
    · rintro ⟨hbuilt, haccepted, data, items, hfailure, hdata, hgiven, htells, -⟩
      exact Session.not_tells hstep ⟨hbuilt, haccepted, hfailure, hdata, hgiven⟩ htells
  rcases pull_steps h with ⟨hfails, hcalls, hclients, e, rfl, hkind⟩ |
    ⟨result, v, u, hbuilt, hcalls, hclients, hfetch, hcalls', hclients', rfl⟩
  · refine ⟨?_, hclients, Or.inr (Or.inl ⟨⟨e, rfl, ?_⟩, hfailed (Or.inl hfails)⟩)⟩
    · rw [hcalls, Session.heard, if_pos hfails]
    · rw [hkind, Session.reached, if_pos hfails]
  · have hstands : ¬ w.session.constructFailure.isSome = true := by simp [hbuilt]
    have hclosed {calls : List Call} (hcall : v.Engages calls u) :
        w'.calls = w.calls ++ .openVault endpoints :: calls ∧ w'.openClients = w.openClients := by
      constructor
      · rw [hcalls', hcall.calls, hcalls, List.append_assoc, List.singleton_append]
      · rw [hclients', hcall.openClients, hclients, Nat.add_sub_cancel]
    rcases fetch_engages hfetch with ⟨hrefused, hcall, e, rfl, hkind⟩ |
      ⟨haccepted, hcall, hanswer⟩
    · rcases hclosed hcall with ⟨hall, hopen⟩
      refine ⟨?_, hopen, Or.inr (Or.inl ⟨⟨e.toError, rfl, ?_⟩,
        hfailed (Or.inr (Or.inl hrefused))⟩)⟩
      · rw [hall, Session.heard, if_neg hstands, hrefused]
        rfl
      · rw [hkind, Session.reached, if_neg hstands, hrefused]
        rfl
    · rcases hclosed hcall with ⟨hall, hopen⟩
      refine ⟨by rw [hall, Session.heard, if_neg hstands, if_pos haccepted], hopen, ?_⟩
      rcases hanswer with ⟨changes, hread, rfl⟩ | ⟨hnone, e, rfl, hkind⟩
      · cases hvalues : Delta.ofChanges changes with
        | ok delta =>
          have hdelivers := Session.delivers_ofChanges hbuilt haccepted hread hvalues
          exact Or.inl ⟨delta, by rw [fetched, hvalues]; rfl, hdelivers,
            Session.not_garbles_of_delivers hdelivers⟩
        | error e =>
          exact Or.inr (Or.inr ⟨⟨e, by rw [fetched, hvalues]; rfl⟩,
            hbuilt, haccepted, garbles_iff.mpr ⟨changes, e, hread, hvalues⟩⟩)
      · refine Or.inr (Or.inl ⟨⟨e.toError, rfl, ?_⟩, hfailed (Or.inr (Or.inr hnone))⟩)
        rw [hkind, Session.reached, if_neg hstands, if_pos haccepted]

/-- A session that tells half of a surrogate pair as the value of a secret. -/
def Sample.garbledSession : Session :=
  let secret : Json :=
    .obj [("id", .str "a"), ("value", .str (String.singleton (Text.half 0xd800)))]
  ⟨none, Session.accepted, ⟨.zero, none, none,
    some (.obj [("has_changes", .bool true), ("secrets", .arr [secret])])⟩⟩

end Vault
end SecretSync

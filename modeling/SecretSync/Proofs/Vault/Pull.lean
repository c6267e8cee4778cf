import SecretSync.Proofs.World.Passage
import SecretSync.Vault.Pull

/-!
# What a pull brings

A pull opens a session, logs in and asks for the changes, and ends at the first of these steps that
fails.  It brings the changes that the session offers, all of them or none.  Where one of the values
that were answered cannot be encoded, it ends behind all steps with an error of another sort.
-/

namespace SecretSync

/-- The changes that an answer tells, if it tells any. -/
def Vault.SyncAnswer.changes? (answer : Vault.SyncAnswer) : Option Vault.Changes :=
  let data := answer.data.getD .null
  if answer.failure.isSome || data.isNull then none else (Vault.Changes.ofAnswer data).toOption

/-- The values that a session offers, if it offers any. -/
def Vault.Session.delta? (session : Vault.Session) : Option Vault.Delta :=
  session.sync.changes?.bind (fun changes => (Vault.Delta.ofChanges changes).toOption)

/-- Why the values that a session tells cannot be encoded, if they cannot. -/
def Vault.Session.garbled? (session : Vault.Session) : Option Text.Utf8.EncodeError :=
  session.sync.changes?.bind (fun changes => match Vault.Delta.ofChanges changes with
    | .ok _ => none
    | .error e => some e)

namespace Vault

open Act

variable {v w w' : World} {endpoints : Endpoints} {organization token statePath : String}
  {since : Option Time.Instant} {session : Session}

/-- The steps of a pull. -/
def pullMoments (endpoints : Endpoints) (organization token : String)
    (since : Option Time.Instant) (statePath : String) (opened loggedIn asked : Time.Instant) :
    List Moment :=
  [.call (.openVault endpoints) opened, .call (.login token statePath) loggedIn,
    .call (.sync organization since) asked]

/-- A session is taken from those that wait. -/
theorem nextSession_ends (h : Ends nextSession w session w') :
    session = w.session ∧ w' = w.sessionTaken := by
  unfold nextSession at h
  rw [ends_get_bind] at h
  split at h
  · next hnone =>
    obtain ⟨rfl, rfl⟩ := ends_pure.mp h
    refine ⟨?_, ?_⟩
    · rw [World.session, hnone]
      rfl
    · rw [World.sessionTaken, hnone, List.tail_nil, ← hnone]
  · next first rest hsome =>
    rw [ends_set_bind] at h
    obtain ⟨rfl, rfl⟩ := ends_pure.mp h
    refine ⟨?_, ?_⟩
    · rw [World.session, hsome]
      rfl
    · rw [World.sessionTaken, hsome]
      rfl

private theorem build_ends {r : Except Error Client}
    (h : Ends (Client.build endpoints).run w r w') :
    ∃ t, Passage w [.call (.openVault endpoints) t] w' ∧
      ∀ client, r = .ok client → client = ⟨some w.session⟩ := by
  obtain ⟨_, _, hyield, h⟩ := ends_run_lift_bind.mp h
  cases ends_modify.mp hyield
  obtain ⟨_, _, hnote, h⟩ := ends_run_lift_bind.mp h
  cases ends_modify.mp hnote
  obtain ⟨session, v, hsession, h⟩ := ends_run_lift_bind.mp h
  obtain ⟨rfl, rfl⟩ := nextSession_ends hsession
  have hopened : Passage w [.call (.openVault endpoints) w.interlude.clock]
      (w.interlude.noted (.openVault endpoints)).sessionTaken :=
    ((Passage.refl w).others).opening endpoints
  have hsame : (w.interlude.noted (.openVault endpoints)).session = w.session :=
    congrArg (List.headD · Session.quiet) (World.sameInside_interlude w).sessions
  rw [hsame] at h
  split at h
  · obtain ⟨rfl, rfl⟩ := ends_run_throw.mp h
    exact ⟨_, hopened, fun _ he => nomatch he⟩
  · rw [ends_run_modify_bind] at h
    obtain ⟨_, _, hlog, h⟩ := ends_run_lift_bind.mp h
    cases ends_modify.mp hlog
    obtain ⟨rfl, rfl⟩ := ends_run_pure.mp h
    refine ⟨_, hopened.aside ⟨rfl, rfl, rfl, rfl, rfl, rfl, rfl⟩, ?_⟩
    intro client he
    cases he
    rfl

private theorem login_ends {r : Except Error Unit}
    (h : Ends (Client.login ⟨some session⟩ token statePath).run w r w') :
    ∃ t, Passage w [.call (.login token statePath) t] w' := by
  obtain ⟨_, _, hyield, h⟩ := ends_run_lift_bind.mp h
  cases ends_modify.mp hyield
  obtain ⟨_, _, hnote, h⟩ := ends_run_lift_bind.mp h
  cases ends_modify.mp hnote
  rw [ends_run_modify_bind] at h
  have hcall : Passage w [.call (.login token statePath) w.interlude.clock]
      ((w.interlude.noted (.login token statePath)).advance session.login.delay) :=
    (((Passage.refl w).others).call _ rfl).advanced _
  split at h
  · obtain ⟨-, rfl⟩ := ends_run_throw.mp h
    exact ⟨_, hcall⟩
  · split at h
    · obtain ⟨-, rfl⟩ := ends_run_throw.mp h
      exact ⟨_, hcall⟩
    · obtain ⟨-, rfl⟩ := ends_run_pure.mp h
      exact ⟨_, hcall⟩

private theorem sync_ends {r : Except FetchError Changes}
    (h : Ends (Client.sync ⟨some session⟩ organization since).run w r w') :
    ∃ t, Passage w [.call (.sync organization since) t] w' ∧
      (∀ e, r = .error e → session.sync.changes? = none) ∧
      ∀ changes, r = .ok changes → session.sync.changes? = some changes := by
  obtain ⟨_, _, hyield, h⟩ := ends_run_lift_bind.mp h
  cases ends_modify.mp hyield
  obtain ⟨_, _, hnote, h⟩ := ends_run_lift_bind.mp h
  cases ends_modify.mp hnote
  rw [ends_run_modify_bind] at h
  have hcall : Passage w [.call (.sync organization since) w.interlude.clock]
      ((w.interlude.noted (.sync organization since)).advance session.sync.delay) :=
    (((Passage.refl w).others).call _ rfl).advanced _
  cases hfailure : session.sync.failure with
  | some text =>
    rw [hfailure] at h
    obtain ⟨rfl, rfl⟩ := ends_run_throw.mp h
    refine ⟨_, hcall, fun _ _ => ?_, ?_⟩
    · simp [SyncAnswer.changes?, hfailure]
    · intro _ he
      cases he
  | none =>
    rw [hfailure] at h
    dsimp only at h
    split at h
    · next hnull =>
      obtain ⟨rfl, rfl⟩ := ends_run_throw.mp h
      refine ⟨_, hcall, fun _ _ => ?_, ?_⟩
      · simp [SyncAnswer.changes?, hnull, Json.isNull]
      · intro _ he
        cases he
    · next hdata =>
      have hnull : (session.sync.data.getD .null).isNull = false := by
        cases hd : session.sync.data.getD .null with
        | null => exact (hdata hd).elim
        | _ => rfl
      cases hchanges : Changes.ofAnswer (session.sync.data.getD .null) with
      | error e =>
        rw [hchanges] at h
        obtain ⟨rfl, rfl⟩ := ends_run_throw.mp h
        refine ⟨_, hcall, fun _ _ => ?_, ?_⟩
        · rw [SyncAnswer.changes?, hfailure, hnull, hchanges]
          rfl
        · intro _ he
          cases he
      | ok changes =>
        rw [hchanges] at h
        obtain ⟨rfl, rfl⟩ := ends_run_pure.mp h
        refine ⟨_, hcall, ?_, ?_⟩
        · intro _ he
          cases he
        · intro changes' he
          cases he
          rw [SyncAnswer.changes?, hfailure, hnull, hchanges]
          rfl

private theorem close_ends {client closed : Client} {ms : List Moment} (passage : Passage w ms v)
    (h : Ends client.close v closed w') : Passage w ms w' := by
  unfold Client.close at h
  split at h
  · rw [ends_modify_bind] at h
    obtain ⟨-, rfl⟩ := ends_pure.mp h
    exact passage.aside ⟨rfl, rfl, rfl, rfl, rfl, rfl, rfl⟩
  · obtain ⟨-, rfl⟩ := ends_pure.mp h
    exact passage

private theorem fetch_ends {r : Except FetchError Changes}
    (h : Ends (fetch ⟨some session⟩ organization token since statePath).run w r w') :
    ∃ t₂ t₃ ms, ms <+: [.call (.login token statePath) t₂, .call (.sync organization since) t₃] ∧
      Passage w ms w' ∧
      (∀ e, r = .error e → ms.length = 2 → session.sync.changes? = none) ∧
      ∀ changes, r = .ok changes → ms.length = 2 ∧ session.sync.changes? = some changes := by
  rcases ends_run_bind.mp h with ⟨e, hlogin, rfl⟩ | ⟨_, v, hlogin, h⟩
  · obtain ⟨_, hlogin, -⟩ := ends_run_adapt.mp hlogin
    obtain ⟨t₂, hpass⟩ := login_ends hlogin
    exact ⟨t₂, default, _, List.prefix_append _ [_], hpass, fun _ _ => nofun,
      fun _ he => nomatch he⟩
  · obtain ⟨_, hlogin, -⟩ := ends_run_adapt.mp hlogin
    obtain ⟨t₂, hpass⟩ := login_ends hlogin
    obtain ⟨t₃, hpass', hfailed, hchanges⟩ := sync_ends h
    exact ⟨t₂, t₃, _, List.prefix_rfl, hpass.trans hpass', fun e he _ => hfailed e he,
      fun c he => ⟨rfl, hchanges c he⟩⟩

/-- Values are encoded without a call; at most a log record is written. -/
theorem readValues_ends {changes : Changes} {r : Except PullError Delta}
    (h : Ends (readValues organization changes).run w r w') :
    (w' = w ∨ ∃ record, w' = w.logged record) ∧ r = (Delta.ofChanges changes).mapError .value := by
  unfold readValues at h
  split at h
  · next hvalues =>
    obtain ⟨rfl, rfl⟩ := ends_run_throw.mp h
    exact ⟨Or.inl rfl, by rw [hvalues]; rfl⟩
  · next hvalues =>
    obtain ⟨_, _, hlog, h⟩ := ends_run_lift_bind.mp h
    cases ends_modify.mp hlog
    obtain ⟨rfl, rfl⟩ := ends_run_pure.mp h
    exact ⟨Or.inr ⟨_, rfl⟩, by rw [hvalues]; rfl⟩

private theorem delta_or_garbled {changes : Changes} {r : Except PullError Delta}
    (hchanges : session.sync.changes? = some changes)
    (hr : r = (Delta.ofChanges changes).mapError .value) :
    (∃ delta, r = .ok delta ∧ session.delta? = some delta) ∨
      ∃ e, r = .error (.value e) ∧ session.garbled? = some e := by
  cases hvalues : Delta.ofChanges changes with
  | ok delta =>
    rw [hvalues] at hr
    refine Or.inl ⟨delta, hr, ?_⟩
    rw [Session.delta?, hchanges, Option.bind_some, hvalues]
    rfl
  | error e =>
    rw [hvalues] at hr
    refine Or.inr ⟨e, hr, ?_⟩
    rw [Session.garbled?, hchanges, Option.bind_some, hvalues]

/-- A pull ends at the first of its steps that fails, and else brings what the session offers,
unless a value cannot be encoded. -/
theorem pull_ends {r : Except PullError Delta}
    (h : Ends (pull endpoints organization token since statePath).run w r w') :
    ∃ opened loggedIn asked ms,
      ms <+: pullMoments endpoints organization token since statePath opened loggedIn asked ∧
      Passage w ms w' ∧
      match r with
      | .ok delta =>
        ms = pullMoments endpoints organization token since statePath opened loggedIn asked ∧
          w.session.delta? = some delta
      | .error (.vault _) =>
        ms = pullMoments endpoints organization token since statePath opened loggedIn asked →
          w.session.sync.changes? = none
      | .error (.value e) =>
        ms = pullMoments endpoints organization token since statePath opened loggedIn asked ∧
          w.session.garbled? = some e := by
  rcases ends_run_bind.mp h with ⟨e, hbuild, rfl⟩ | ⟨client, v, hbuild, h⟩
  · obtain ⟨built, hbuild, he⟩ := ends_run_adapt.mp hbuild
    obtain ⟨t₁, hpass, -⟩ := build_ends hbuild
    cases built with
    | ok client => cases he
    | error e' =>
      cases he
      exact ⟨t₁, default, default, _, List.prefix_append _ [_, _], hpass, nofun⟩
  · obtain ⟨built, hbuild, he⟩ := ends_run_adapt.mp hbuild
    obtain ⟨t₁, hpass, hclient⟩ := build_ends hbuild
    cases built with
    | error e' => cases he
    | ok client =>
      cases he
      obtain rfl := hclient client rfl
      obtain ⟨result, v₁, hfetch, h⟩ := ends_run_lift_bind.mp h
      obtain ⟨t₂, t₃, ms, hms, hpass', hfailed, hchanges⟩ := fetch_ends hfetch
      have hprefix : .call (.openVault endpoints) t₁ :: ms <+:
          pullMoments endpoints organization token since statePath t₁ t₂ t₃ :=
        List.cons_prefix_cons.mpr ⟨rfl, hms⟩
      cases result with
      | error e =>
        obtain ⟨_, _, hlog, h⟩ := ends_run_lift_bind.mp h
        cases ends_modify.mp hlog
        obtain ⟨closed, v₂, hclose, h⟩ := ends_run_lift_bind.mp h
        obtain ⟨rfl, rfl⟩ := ends_run_throw.mp h
        have hall := close_ends ((hpass.trans hpass').logged _) hclose
        refine ⟨t₁, t₂, t₃, _, hprefix, hall, fun hms => ?_⟩
        exact hfailed e rfl (congrArg List.length (List.cons.inj hms).2)
      | ok changes =>
        obtain ⟨hlength, hchanges⟩ := hchanges changes rfl
        obtain ⟨closed, v₂, hclose, h⟩ := ends_run_lift_bind.mp h
        obtain ⟨hread, hresult⟩ := readValues_ends h
        have hclosed := close_ends (hpass.trans hpass') hclose
        have hall : Passage w (.call (.openVault endpoints) t₁ :: ms) w' := by
          obtain rfl | ⟨record, rfl⟩ := hread
          · exact hclosed
          · exact hclosed.logged record
        have hmoments := congrArg (.call (.openVault endpoints) t₁ :: ·) (hms.eq_of_length hlength)
        obtain ⟨delta, rfl, hdelta⟩ | ⟨e, rfl, hgarbled⟩ := delta_or_garbled hchanges hresult
        · exact ⟨t₁, t₂, t₃, _, hprefix, hall, hmoments, hdelta⟩
        · exact ⟨t₁, t₂, t₃, _, hprefix, hall, hmoments, hgarbled⟩

end Vault
end SecretSync

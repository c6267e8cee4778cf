import SecretSync.Proofs.World.Coupling
import SecretSync.Proofs.World.Turns
import SecretSync.Vault.Pull

/-!
# Relations that the operator keeps without its requests

Apart from its requests to the cluster and the opening of sessions, what the operator does touches
neither the stored objects nor what waits to go wrong.  A relation between worlds that every single
such step keeps is kept by all of them, up to the use of a client of the vault.
-/

namespace SecretSync

/-- A relation between worlds of one time that is kept when others get their turn and time passes,
and when calls, readings of the clock, log records and open clients are put on record. -/
structure Steady (R : World → World → Prop) : Prop where
  clock : ∀ ⦃w v : World⦄, R w v → w.clock = v.clock
  interlude : ∀ ⦃w v : World⦄, R w v → R w.interlude v.interlude
  advance : ∀ (time : Time.Duration) ⦃w v : World⦄, R w v → R (w.advance time) (v.advance time)
  noted : ∀ (c : Call) ⦃w v : World⦄, R w v → R (w.noted c) (v.noted c)
  clockRead : ∀ ⦃w v : World⦄, R w v → R w.clockRead v.clockRead
  logged : ∀ (record : LogRecord) ⦃w v : World⦄, R w v → R (w.logged record) (v.logged record)
  clients : ∀ (f : Nat → Nat) ⦃w v : World⦄, R w v →
    R { w with openClients := f w.openClients } { v with openClients := f v.openClients }

namespace Steady

open Act

variable {R : World → World → Prop}

/-- The turn of others respects a steady relation. -/
theorem yieldToOthers_respects (hR : Steady R) : Respects R yieldToOthers :=
  respects_modify hR.interlude

/-- A noted call respects a steady relation. -/
theorem note_respects (hR : Steady R) (c : Call) : Respects R (note c) :=
  respects_modify (hR.noted c)

/-- A log record respects a steady relation. -/
theorem log_respects (hR : Steady R) (level : LogLevel) (event : String)
    (fields : List (String × Json)) : Respects R (log level event fields) :=
  respects_modify (hR.logged _)

private theorem advance_respects (hR : Steady R) (time : Time.Duration) :
    Respects R (modify (World.advance time)) :=
  respects_modify (hR.advance time)

/-- A reading of the clock respects a steady relation. -/
theorem now_respects (hR : Steady R) : Respects R now := by
  refine hR.yieldToOthers_respects.bind (fun _ => ?_)
  refine (respects_modify hR.clockRead).bind (fun _ => ?_)
  exact respects_get_bind (fun _ _ h => congrArg pure (hR.clock h)) (fun _ => respects_pure _)

end Steady

/-- What was written to the log matters to nothing but the log. -/
theorem steady_sameButLogs : Steady World.SameButLogs where
  clock := by
    rintro w _ ⟨logs, rfl⟩
    rfl
  interlude := World.SameButLogs.interlude
  advance := by
    rintro time w _ ⟨logs, rfl⟩
    exact ⟨logs, rfl⟩
  noted := by
    rintro call w _ ⟨logs, rfl⟩
    exact ⟨logs, rfl⟩
  clockRead := by
    rintro w _ ⟨logs, rfl⟩
    exact ⟨logs, rfl⟩
  logged := by
    rintro record w _ ⟨logs, rfl⟩
    exact ⟨_, rfl⟩
  clients := by
    rintro f w _ ⟨logs, rfl⟩
    exact ⟨logs, rfl⟩

/-! ### Clients of the vault -/

namespace Vault

open Act

variable {R : World → World → Prop}

/-- What a pull does with its client. -/
def useClient (organization token : String) (since : Option Time.Instant) (statePath : String)
    (client : Client) : ExceptT PullError Act Delta := do
  let result ← (fetch client organization token since statePath).run
  match result with
  | .ok _ => pure ()
  | .error e =>
    Act.log .error "secrets_pull_failed"
      [("organization_id", .str organization), ("error", .str e.message)]
  let _ ← client.close
  match result with
  | .ok changes => readValues organization changes
  | .error e => throw (.vault e.toError)

/-- A pull builds a client and uses it. -/
theorem pull_eq (endpoints : Endpoints) (organization token : String)
    (since : Option Time.Instant) (statePath : String) :
    pull endpoints organization token since statePath =
      ExceptT.adapt .vault (Client.build endpoints) >>=
        useClient organization token since statePath := rfl

private theorem login_respects (hR : Steady R) (client : Client) (token statePath : String) :
    Respects R (client.login token statePath).run := by
  unfold Client.login
  split
  · exact respects_run_throw _
  · refine hR.yieldToOthers_respects.run_lift_bind (fun _ => ?_)
    refine (hR.note_respects _).run_lift_bind (fun _ => ?_)
    refine (hR.advance_respects _).run_lift_bind (fun _ => ?_)
    split
    · exact respects_run_throw _
    · split
      · exact respects_run_throw _
      · exact respects_run_pure _

private theorem sync_respects (hR : Steady R) (client : Client) (organization : String)
    (since : Option Time.Instant) : Respects R (client.sync organization since).run := by
  unfold Client.sync
  split
  · exact respects_run_throw _
  · refine hR.yieldToOthers_respects.run_lift_bind (fun _ => ?_)
    refine (hR.note_respects _).run_lift_bind (fun _ => ?_)
    refine (hR.advance_respects _).run_lift_bind (fun _ => ?_)
    split
    · exact respects_run_throw _
    · split
      · exact respects_run_throw _
      · split
        · exact respects_run_throw _
        · exact respects_run_pure _

private theorem close_respects (hR : Steady R) (client : Client) : Respects R client.close := by
  unfold Client.close
  split
  · exact (respects_modify (hR.clients (· - 1))).bind (fun _ => respects_pure _)
  · exact respects_pure _

private theorem readValues_respects (hR : Steady R) (organization : String) (changes : Changes) :
    Respects R (readValues organization changes).run := by
  unfold readValues
  split
  · exact respects_run_throw _
  · exact (hR.log_respects _ _ _).run_lift_bind (fun _ => respects_run_pure _)

/-- Using a client keeps what is kept without requests. -/
theorem useClient_respects (hR : Steady R) (organization token : String)
    (since : Option Time.Instant) (statePath : String) (client : Client) :
    Respects R (useClient organization token since statePath client).run := by
  have hfetch : Respects R (fetch client organization token since statePath).run :=
    ((login_respects hR _ _ _).run_adapt _).run_bind (fun _ => sync_respects hR _ _ _)
  refine hfetch.run_lift_bind (fun result => ?_)
  cases result with
  | ok changes =>
    exact (close_respects hR _).run_lift_bind (fun _ => readValues_respects hR _ _)
  | error e =>
    refine (hR.log_respects _ _ _).run_lift_bind (fun _ => ?_)
    exact (close_respects hR _).run_lift_bind (fun _ => respects_run_throw _)

end Vault
end SecretSync

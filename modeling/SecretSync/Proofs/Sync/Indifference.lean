import SecretSync.Proofs.World.Passage
import SecretSync.Proofs.World.Steady
import SecretSync.Sync.Reconcile

/-!
# Faults that strike later

The faults that wait for one sort of request do not matter to the steps that send no such request.
An attempt writes no status, so it goes on alike whatever waits for the writes of statuses.
-/

namespace SecretSync

namespace World

/-- The world with other faults waiting. -/
def withFaults (faults : Dict Api (List (Option Fault))) (w : World) : World :=
  { w with faults := faults }

/-- Two worlds differ at most in the faults that wait for one sort of request. -/
def SameButFaults (api : Api) (w v : World) : Prop :=
  ∃ faults, v = w.withFaults faults ∧ ∀ other, other ≠ api → faults.get? other = w.faults.get? other

/-- A step that has nothing to do with faults leads on alike. -/
theorem SameButFaults.step {api : Api} {f : World → World}
    (hf : ∀ w faults, f (withFaults faults w) = (f w).withFaults faults)
    (hkept : ∀ w, (f w).faults = w.faults) ⦃w v : World⦄ (h : w.SameButFaults api v) :
    (f w).SameButFaults api (f v) := by
  obtain ⟨faults, rfl, hsame⟩ := h
  refine ⟨faults, hf w faults, ?_⟩
  rw [hkept]
  exact hsame

private theorem disturb_withFaults (w : World) (faults : Dict Api (List (Option Fault)))
    (deed : Disturbance) :
    (w.withFaults faults).disturb deed = (w.disturb deed).withFaults faults := by
  cases deed with
  | editDeclaration key changes generation =>
    simp only [disturb, withFaults]
    split <;> rfl
  | _ => rfl

private theorem interlude_withFaults (w : World) (faults : Dict Api (List (Option Fault))) :
    (w.withFaults faults).interlude = w.interlude.withFaults faults :=
  interlude_related (R := fun w v => v = w.withFaults faults) (g := id)
    (by rintro w _ rfl; simp [withFaults]) (by rintro w _ rest rfl; simp [withFaults])
    (by rintro w _ deed rfl; exact disturb_withFaults w faults deed) rfl

end World

open Act World

variable {api other : Api}

/-- What has nothing to do with faults is the same. -/
theorem same_of_withFaults {α : Type} {f : World → α}
    (hf : ∀ w faults, f (withFaults faults w) = f w) ⦃w v : World⦄
    (h : w.SameButFaults api v) : f w = f v := by
  obtain ⟨faults, rfl, -⟩ := h
  exact (hf w faults).symm

/-- The faults that wait matter to requests only. -/
theorem steady_sameButFaults : Steady (SameButFaults api) where
  clock := same_of_withFaults (fun _ _ => rfl)
  interlude := SameButFaults.step interlude_withFaults interlude_faults
  advance _ := SameButFaults.step (fun _ _ => rfl) (fun _ => rfl)
  noted _ := SameButFaults.step (fun _ _ => rfl) (fun _ => rfl)
  clockRead := SameButFaults.step (fun _ _ => rfl) (fun _ => rfl)
  logged _ := SameButFaults.step (fun _ _ => rfl) (fun _ => rfl)
  clients f := SameButFaults.step (f := fun w => { w with openClients := f w.openClients })
    (fun _ _ => rfl) (fun _ => rfl)

/-! ### Requests -/

namespace Cluster

private theorem takeFault_respects (hne : other ≠ api) :
    Respects (SameButFaults api) (takeFault other) := by
  rintro w v w' f ⟨faults, rfl, hsame⟩ hends
  have hqueue : (w.withFaults faults).faults.get? other = w.faults.get? other := hsame other hne
  unfold takeFault at hends ⊢
  rw [ends_get_bind] at hends
  simp only [ends_get_bind, hqueue]
  split at hends
  · next fault rest _ =>
    rw [ends_set_bind] at hends
    obtain ⟨rfl, rfl⟩ := ends_pure.mp hends
    refine ⟨w.withFaults (faults.insert other rest), ?_, faults.insert other rest, rfl, ?_⟩
    · rfl
    · intro third hthird
      rw [Dict.get?_insert, Dict.get?_insert, hsame third hthird]
  · obtain ⟨rfl, rfl⟩ := ends_pure.mp hends
    exact ⟨_, ends_pure.mpr ⟨rfl, rfl⟩, faults, rfl, hsame⟩

private theorem send_respects (hne : other ≠ api) (c : Call) :
    Respects (SameButFaults api) (send other c).run := by
  refine steady_sameButFaults.yieldToOthers_respects.run_lift_bind (fun _ => ?_)
  refine (steady_sameButFaults.note_respects c).run_lift_bind (fun _ => ?_)
  refine (takeFault_respects hne).run_lift_bind (fun fault => ?_)
  cases fault with
  | none => exact respects_run_pure _
  | some fault => exact respects_run_throw _

private theorem nextVersion_respects : Respects (SameButFaults api) nextVersion := by
  refine Respects.bind (respects_modify (SameButFaults.step (fun _ _ => rfl) (fun _ => rfl)))
    (fun _ => ?_)
  exact respects_get_bind (same_of_withFaults (fun _ _ => rfl)) (fun _ => respects_pure _)

private theorem getDeclaration_respects (hne : Api.getDeclaration ≠ api) (key : ObjectKey)
    (timeout : Int) : Respects (SameButFaults api) (getDeclaration key timeout).run := by
  refine (send_respects hne _).run_bind (fun _ => ?_)
  refine respects_run_get_bind (same_of_withFaults (fun _ _ => rfl)) (fun w => ?_)
  split
  · exact respects_run_pure _
  · exact respects_run_throw _

private theorem readSecret_respects (hne : Api.readSecret ≠ api) (key : ObjectKey) (timeout : Int) :
    Respects (SameButFaults api) (readSecret key timeout).run := by
  refine (send_respects hne _).run_bind (fun _ => ?_)
  refine respects_run_get_bind (same_of_withFaults (fun _ _ => rfl)) (fun w => ?_)
  split
  · exact respects_run_pure _
  · exact respects_run_throw _

private theorem write_respects (key : ObjectKey) (object : SecretObject) :
    Respects (SameButFaults api)
      (modify (fun w : World => { w with secrets := w.secrets.insert key object })) :=
  respects_modify (SameButFaults.step (fun _ _ => rfl) (fun _ => rfl))

private theorem createSecret_respects (hne : Api.createSecret ≠ api) (ns : String)
    (body : SecretObject)
    (timeout : Int) : Respects (SameButFaults api) (createSecret ns body timeout).run := by
  refine (send_respects hne _).run_bind (fun _ => ?_)
  refine respects_run_get_bind (same_of_withFaults (fun _ _ => rfl)) (fun w => ?_)
  split
  · exact respects_run_throw _
  · refine nextVersion_respects.run_lift_bind (fun version => ?_)
    refine (write_respects _ _).run_lift_bind (fun _ => ?_)
    exact respects_run_pure _

private theorem replaceSecret_respects (hne : Api.replaceSecret ≠ api) (key : ObjectKey)
    (body : SecretObject) (timeout : Int) :
    Respects (SameButFaults api) (replaceSecret key body timeout).run := by
  refine (send_respects hne _).run_bind (fun _ => ?_)
  refine respects_run_get_bind (same_of_withFaults (fun _ _ => rfl)) (fun w => ?_)
  split
  · exact respects_run_throw _
  · split
    · exact respects_run_throw _
    · refine nextVersion_respects.run_lift_bind (fun version => ?_)
      refine (write_respects _ _).run_lift_bind (fun _ => ?_)
      exact respects_run_pure _

namespace Secrets

variable {access : Access}

/-- Faults of another call do not touch the reading of a secret. -/
theorem fetch_respects (hne : Api.readSecret ≠ api) (ns name : String) :
    Respects (SameButFaults api) (fetch access ns name).run := by
  refine (steady_sameButFaults.log_respects _ _ _).run_lift_bind (fun _ => ?_)
  exact (readSecret_respects hne _ _).run_lift_bind (fun _ => respects_pure _)

private theorem logWrite_respects (event ns name : String) (answer : Except Fault SecretObject) :
    Respects (SameButFaults api) (logWrite event ns name answer) := by
  cases answer with
  | ok object => exact steady_sameButFaults.log_respects _ _ _
  | error fault => exact respects_pure _

private theorem create_respects (hne : Api.createSecret ≠ api) (s : Secret) :
    Respects (SameButFaults api) (create access s).run := by
  refine (steady_sameButFaults.log_respects _ _ _).run_lift_bind (fun _ => ?_)
  refine (createSecret_respects hne _ _ _).run_lift_bind (fun answer => ?_)
  exact (logWrite_respects _ _ _ _).run_lift_bind (fun _ => respects_pure _)

private theorem update_respects (hne : Api.replaceSecret ≠ api) (s : Secret) :
    Respects (SameButFaults api) (update access s).run := by
  refine (steady_sameButFaults.log_respects _ _ _).run_lift_bind (fun _ => ?_)
  refine (replaceSecret_respects hne _ _ _).run_lift_bind (fun answer => ?_)
  exact (logWrite_respects _ _ _ _).run_lift_bind (fun _ => respects_pure _)

end Secrets

/-- Faults of another call do not touch the reading of a declaration. -/
theorem Declarations.fetch_respects {access : Access} (hne : Api.getDeclaration ≠ api)
    (key : ObjectKey) : Respects (SameButFaults api) (Declarations.fetch access key).run := by
  refine (steady_sameButFaults.log_respects _ _ _).run_lift_bind (fun _ => ?_)
  exact (getDeclaration_respects hne _ _).run_lift_bind (fun _ => respects_pure _)

end Cluster

/-! ### Pulls -/

namespace Vault

private theorem nextSession_respects : Respects (SameButFaults api) nextSession := by
  rintro w v w' session ⟨faults, rfl, hsame⟩ hends
  have hsessions : (w.withFaults faults).sessions = w.sessions := rfl
  unfold nextSession at hends ⊢
  rw [ends_get_bind] at hends
  simp only [ends_get_bind, hsessions]
  split at hends
  · obtain ⟨rfl, rfl⟩ := ends_pure.mp hends
    exact ⟨_, ends_pure.mpr ⟨rfl, rfl⟩, faults, rfl, hsame⟩
  · next first rest _ =>
    rw [ends_set_bind] at hends
    obtain ⟨rfl, rfl⟩ := ends_pure.mp hends
    exact ⟨World.withFaults faults { w with sessions := rest }, rfl, faults, rfl, hsame⟩

private theorem build_respects (endpoints : Endpoints) :
    Respects (SameButFaults api) (Client.build endpoints).run := by
  refine steady_sameButFaults.yieldToOthers_respects.run_lift_bind (fun _ => ?_)
  refine (steady_sameButFaults.note_respects _).run_lift_bind (fun _ => ?_)
  refine nextSession_respects.run_lift_bind (fun session => ?_)
  split
  · exact respects_run_throw _
  · refine Respects.run_lift_bind
      (respects_modify (SameButFaults.step (fun _ _ => rfl) (fun _ => rfl))) (fun _ => ?_)
    exact (steady_sameButFaults.log_respects _ _ _).run_lift_bind (fun _ => respects_run_pure _)

private theorem pull_respects (endpoints : Endpoints) (organization token : String)
    (since : Option Time.Instant) (statePath : String) :
    Respects (SameButFaults api) (pull endpoints organization token since statePath).run := by
  rw [pull_eq]
  exact ((build_respects _).run_adapt _).run_bind (useClient_respects steady_sameButFaults _ _ _ _)

end Vault

/-! ### Attempts -/

namespace Sync

variable {settings : Settings} {key : ObjectKey} {d : Declaration}

private theorem ofResult_respects {ε α : Type} (failure : ε → Failure) (result : Except ε α) :
    Respects (SameButFaults api) (Step.ofResult failure result).run := respects_pure _

private theorem readToken_respects (hread : Api.readSecret ≠ api) (spec : Spec) :
    Respects (SameButFaults api) (readToken settings key spec).run := by
  refine ((Cluster.Secrets.fetch_respects hread _ _).run_adapt _).run_bind (fun secret => ?_)
  split
  · exact respects_run_throw _
  · exact ofResult_respects _ _

private theorem readTarget_respects (hread : Api.readSecret ≠ api)
    (hcreate : Api.createSecret ≠ api) :
    Respects (SameButFaults api) (readTarget settings key d).run := by
  refine (Cluster.Secrets.fetch_respects hread _ _).run_lift_bind (fun answer => ?_)
  split
  · exact respects_run_pure _
  · split
    · refine (ofResult_respects _ _).run_bind (fun shell => ?_)
      exact (Cluster.Secrets.create_respects hcreate _).run_adapt _
    · exact respects_run_throw _

private theorem fillTarget_respects (hread : Api.readSecret ≠ api)
    (hcreate : Api.createSecret ≠ api) (hreplace : Api.replaceSecret ≠ api) (values : Data) :
    Respects (SameButFaults api) (fillTarget settings key d values).run := by
  refine (readTarget_respects hread hcreate).run_bind (fun target => ?_)
  refine (ofResult_respects _ _).run_bind (fun restored => ?_)
  refine steady_sameButFaults.now_respects.run_lift_bind (fun now => ?_)
  refine respects_run_get_bind (same_of_withFaults (fun _ _ => rfl)) (fun w => ?_)
  refine (ofResult_respects _ _).run_bind (fun filled => ?_)
  refine ((Cluster.Secrets.update_respects hreplace _).run_adapt _).run_bind (fun _ => ?_)
  exact respects_run_pure _

/-- An attempt reads, creates and replaces secrets, and sends no other request. -/
theorem attempt_respects (hread : Api.readSecret ≠ api) (hcreate : Api.createSecret ≠ api)
    (hreplace : Api.replaceSecret ≠ api) :
    Respects (SameButFaults api) (attempt settings key d).run := by
  refine (readToken_respects hread _).run_bind (fun token => ?_)
  refine ((Vault.pull_respects _ _ _ _ _).run_adapt _).run_bind (fun delta => ?_)
  split
  · exact (fillTarget_respects hread hcreate hreplace _).run_bind (fun _ => respects_run_pure _)
  · exact (steady_sameButFaults.log_respects _ _ _).run_lift_bind (fun _ => respects_run_pure _)

end Sync
end SecretSync

import SecretSync.Cluster.Requests
import SecretSync.Proofs.World.Passage

/-!
# What requests do

A request is a passage with one call.  A read finds what is stored when it is answered.  A write is
either refused, and then nothing has changed, or it is the one change of the stored objects behind
the passage.
-/

namespace SecretSync

namespace World

/-- The version that the next write gets. -/
def newVersion (w : World) : String := toString (w.version + 1)

/-- A secret written. -/
def withSecret (key : ObjectKey) (object : SecretObject) (w : World) : World :=
  { w with version := w.version + 1, secrets := w.secrets.insert key object }

/-- A declaration written. -/
def withDeclaration (key : ObjectKey) (object : Json) (w : World) : World :=
  { w with version := w.version + 1, declarations := w.declarations.insert key object }

end World

namespace Cluster

open Act

variable {w w' : World}

private theorem takeFault_ends {api : Api} {f : Option Fault} (h : Ends (takeFault api) w f w') :
    w.SameAccount w' := by
  unfold takeFault at h
  rw [ends_get_bind] at h
  split at h
  · rw [ends_set_bind] at h
    obtain ⟨-, rfl⟩ := ends_pure.mp h
    exact ⟨rfl, rfl, rfl, rfl, rfl, rfl, rfl⟩
  · obtain ⟨-, rfl⟩ := ends_pure.mp h
    exact ⟨rfl, rfl, rfl, rfl, rfl, rfl, rfl⟩

/-- A request is answered in the world that others have left. -/
theorem send_meets {api : Api} {c : Call} {r : Except Fault Unit}
    (h : Ends (send api c).run w r w') : (w.interlude.noted c).SameAccount w' := by
  unfold send at h
  obtain ⟨_, _, hyield, h⟩ := ends_run_lift_bind.mp h
  cases ends_modify.mp hyield
  obtain ⟨_, _, hnote, h⟩ := ends_run_lift_bind.mp h
  cases ends_modify.mp hnote
  obtain ⟨f, v, hfault, h⟩ := ends_run_lift_bind.mp h
  have hsame := takeFault_ends hfault
  cases f with
  | some fault =>
    obtain ⟨-, rfl⟩ := ends_run_throw.mp h
    exact hsame
  | none =>
    obtain ⟨-, rfl⟩ := ends_run_pure.mp h
    exact hsame

private theorem send_ends {api : Api} {c : Call} {r : Except Fault Unit} (hc : c.opensVault = false)
    (h : Ends (send api c).run w r w') : ∃ t, Passage w [.call c t] w' :=
  ⟨_, (((Passage.refl w).others).call c hc).aside (send_meets h)⟩

/-- A declaration that is read is one that others have left. -/
theorem getDeclaration_reads {key : ObjectKey} {timeout : Int} {object : Json}
    (h : Ends (getDeclaration key timeout).run w (.ok object) w') :
    w.interlude.declarations.get? key = some object := by
  rcases ends_run_bind.mp h with ⟨_, -, he⟩ | ⟨_, v, hsend, h⟩
  · cases he
  · have hleft : v.declarations = w.interlude.declarations := (send_meets hsend).declarations
    rw [← hleft]
    rw [ends_run_get_bind] at h
    split at h
    · next stored hstored =>
      obtain ⟨he, -⟩ := ends_run_pure.mp h
      cases he
      exact hstored
    · obtain ⟨he, -⟩ := ends_run_throw.mp h
      cases he

/-- What follows the sending of a request starts behind a passage with its call. -/
theorem send_bind_ends {α : Type} {api : Api} {c : Call} {f : Unit → Request α}
    {r : Except Fault α} (hc : c.opensVault = false) (h : Ends (send api c >>= f).run w r w') :
    ∃ t v, Passage w [.call c t] v ∧
      ((∃ fault, r = .error fault ∧ w' = v) ∨ Ends (f ()).run v r w') := by
  rcases ends_run_bind.mp h with ⟨fault, hsend, rfl⟩ | ⟨_, v, hsend, h⟩
  · obtain ⟨t, hpass⟩ := send_ends hc hsend
    exact ⟨t, w', hpass, Or.inl ⟨fault, rfl, rfl⟩⟩
  · obtain ⟨t, hpass⟩ := send_ends hc hsend
    exact ⟨t, v, hpass, Or.inr h⟩

/-- A secret that is read is stored. -/
theorem readSecret_ends {key : ObjectKey} {timeout : Int} {r : Except Fault SecretObject}
    (h : Ends (readSecret key timeout).run w r w') :
    (∃ t, Passage w [.call (.readSecret key timeout) t] w') ∧
      ∀ object, r = .ok object → w'.secrets.get? key = some object := by
  obtain ⟨t, v, hpass, ⟨fault, rfl, rfl⟩ | h⟩ := send_bind_ends rfl h
  · exact ⟨⟨t, hpass⟩, fun _ he => nomatch he⟩
  · rw [ends_run_get_bind] at h
    cases hobject : v.secrets.get? key with
    | none =>
      rw [hobject] at h
      obtain ⟨rfl, rfl⟩ := ends_run_throw.mp h
      exact ⟨⟨t, hpass⟩, fun _ he => nomatch he⟩
    | some object =>
      rw [hobject] at h
      obtain ⟨rfl, rfl⟩ := ends_run_pure.mp h
      refine ⟨⟨t, hpass⟩, ?_⟩
      intro object' he
      cases he
      exact hobject

/-- A declaration that is read is stored. -/
theorem getDeclaration_ends {key : ObjectKey} {timeout : Int} {r : Except Fault Json}
    (h : Ends (getDeclaration key timeout).run w r w') :
    (∃ t, Passage w [.call (.getDeclaration key timeout) t] w') ∧
      ∀ object, r = .ok object → w'.declarations.get? key = some object := by
  obtain ⟨t, v, hpass, ⟨fault, rfl, rfl⟩ | h⟩ := send_bind_ends rfl h
  · exact ⟨⟨t, hpass⟩, fun _ he => nomatch he⟩
  · rw [ends_run_get_bind] at h
    cases hobject : v.declarations.get? key with
    | none =>
      rw [hobject] at h
      obtain ⟨rfl, rfl⟩ := ends_run_throw.mp h
      exact ⟨⟨t, hpass⟩, fun _ he => nomatch he⟩
    | some object =>
      rw [hobject] at h
      obtain ⟨rfl, rfl⟩ := ends_run_pure.mp h
      refine ⟨⟨t, hpass⟩, ?_⟩
      intro object' he
      cases he
      exact hobject

private theorem nextVersion_ends {version : String} (h : Ends nextVersion w version w') :
    version = w.newVersion ∧ w' = { w with version := w.version + 1 } := by
  unfold nextVersion at h
  rw [ends_modify_bind, ends_get_bind] at h
  exact ends_pure.mp h

/-- A secret is created where there is none. -/
theorem createSecret_ends {ns : String} {body : SecretObject} {timeout : Int}
    {r : Except Fault SecretObject} (h : Ends (createSecret ns body timeout).run w r w') :
    ∃ t v, Passage w [.call (.createSecret ns body timeout) t] v ∧
      ((∃ fault, r = .error fault ∧ w' = v) ∨
        v.secrets.get? ⟨ns, body.fields.name.getD ""⟩ = none ∧
          ∃ object, object = body.stored (some ns) (some ("uid-" ++ v.newVersion)) v.newVersion ∧
            r = .ok object ∧ w' = v.withSecret ⟨ns, body.fields.name.getD ""⟩ object) := by
  obtain ⟨t, v, hpass, ⟨fault, rfl, rfl⟩ | h⟩ := send_bind_ends rfl h
  · exact ⟨t, _, hpass, Or.inl ⟨fault, rfl, rfl⟩⟩
  · refine ⟨t, v, hpass, ?_⟩
    rw [ends_run_get_bind] at h
    dsimp only at h
    split at h
    · obtain ⟨rfl, rfl⟩ := ends_run_throw.mp h
      exact Or.inl ⟨_, rfl, rfl⟩
    · next hfree =>
      have hnone : v.secrets.get? ⟨ns, body.fields.name.getD ""⟩ = none := by
        rw [Dict.contains, Option.isSome_iff_ne_none, ne_eq, Classical.not_not] at hfree
        exact hfree
      obtain ⟨_, _, hversion, h⟩ := ends_run_lift_bind.mp h
      obtain ⟨rfl, rfl⟩ := nextVersion_ends hversion
      rw [ends_run_modify_bind] at h
      obtain ⟨rfl, rfl⟩ := ends_run_pure.mp h
      exact Or.inr ⟨hnone, _, rfl, rfl, rfl⟩

/-- A secret that is there is not created. -/
theorem createSecret_refused {ns : String} {body : SecretObject} {timeout : Int}
    {r : Except Fault SecretObject} (h : Ends (createSecret ns body timeout).run w r w')
    (there : w.interlude.secrets.get? ⟨ns, body.fields.name.getD ""⟩ ≠ none) :
    (∃ fault, r = .error fault) ∧
      (w.interlude.noted (.createSecret ns body timeout)).SameAccount w' := by
  rcases ends_run_bind.mp h with ⟨fault, hsend, rfl⟩ | ⟨_, v, hsend, h⟩
  · exact ⟨⟨fault, rfl⟩, send_meets hsend⟩
  · have hmeets := send_meets hsend
    have hcontains : v.secrets.contains ⟨ns, body.fields.name.getD ""⟩ = true := by
      rw [hmeets.secrets]
      exact Option.isSome_iff_ne_none.mpr there
    rw [ends_run_get_bind] at h
    dsimp only at h
    rw [if_pos hcontains] at h
    obtain ⟨rfl, rfl⟩ := ends_run_throw.mp h
    exact ⟨⟨_, rfl⟩, hmeets⟩

/-- A secret is replaced that has the version of the body, if the body says one. -/
theorem replaceSecret_ends {key : ObjectKey} {body : SecretObject} {timeout : Int}
    {r : Except Fault SecretObject} (h : Ends (replaceSecret key body timeout).run w r w') :
    ∃ t v, Passage w [.call (.replaceSecret key body timeout) t] v ∧
      ((∃ fault, r = .error fault ∧ w' = v) ∨
        ∃ old, v.secrets.get? key = some old ∧
          (body.resourceVersion.isSome → body.resourceVersion = old.resourceVersion) ∧
          ∃ object, object = body.stored (some key.ns) old.fields.uid v.newVersion ∧
            r = .ok object ∧ w' = v.withSecret key object) := by
  obtain ⟨t, v, hpass, ⟨fault, rfl, rfl⟩ | h⟩ := send_bind_ends rfl h
  · exact ⟨t, _, hpass, Or.inl ⟨fault, rfl, rfl⟩⟩
  · refine ⟨t, v, hpass, ?_⟩
    rw [ends_run_get_bind] at h
    cases hold : v.secrets.get? key with
    | none =>
      rw [hold] at h
      obtain ⟨rfl, rfl⟩ := ends_run_throw.mp h
      exact Or.inl ⟨_, rfl, rfl⟩
    | some old =>
      rw [hold] at h
      dsimp only at h
      split at h
      · obtain ⟨rfl, rfl⟩ := ends_run_throw.mp h
        exact Or.inl ⟨_, rfl, rfl⟩
      · next hversions =>
        obtain ⟨_, _, hversion, h⟩ := ends_run_lift_bind.mp h
        obtain ⟨rfl, rfl⟩ := nextVersion_ends hversion
        rw [ends_run_modify_bind] at h
        obtain ⟨rfl, rfl⟩ := ends_run_pure.mp h
        refine Or.inr ⟨old, rfl, ?_, _, rfl, rfl, rfl⟩
        intro hsome
        apply Classical.byContradiction
        exact fun hne => hversions ⟨hsome, hne⟩

/-- A secret that is gone, or has another version than the body says, is not replaced. -/
theorem replaceSecret_refused {key : ObjectKey} {body : SecretObject} {timeout : Int}
    {version : String} {r : Except Fault SecretObject}
    (h : Ends (replaceSecret key body timeout).run w r w')
    (expects : body.resourceVersion = some version)
    (changed : (w.interlude.secrets.get? key).map (·.resourceVersion) ≠ some (some version)) :
    (∃ fault, r = .error fault) ∧
      (w.interlude.noted (.replaceSecret key body timeout)).SameAccount w' := by
  rcases ends_run_bind.mp h with ⟨fault, hsend, rfl⟩ | ⟨_, v, hsend, h⟩
  · exact ⟨⟨fault, rfl⟩, send_meets hsend⟩
  · have hmeets := send_meets hsend
    have hsecrets : v.secrets = w.interlude.secrets := hmeets.secrets
    rw [← hsecrets] at changed
    rw [ends_run_get_bind] at h
    cases hold : v.secrets.get? key with
    | none =>
      rw [hold] at h
      obtain ⟨rfl, rfl⟩ := ends_run_throw.mp h
      exact ⟨⟨_, rfl⟩, hmeets⟩
    | some old =>
      have hother : body.resourceVersion.isSome ∧ body.resourceVersion ≠ old.resourceVersion := by
        rw [expects]
        refine ⟨rfl, fun hsame => changed ?_⟩
        rw [hold, hsame]
        rfl
      rw [hold] at h
      dsimp only at h
      rw [if_pos hother] at h
      obtain ⟨rfl, rfl⟩ := ends_run_throw.mp h
      exact ⟨⟨_, rfl⟩, hmeets⟩

/-- The status of a declaration that is there is written. -/
theorem patchStatus_ends {key : ObjectKey} {body : Json} {timeout : Int} {r : Except Fault Json}
    (h : Ends (patchStatus key body timeout).run w r w') :
    ∃ t v, Passage w [.call (.patchStatus key body timeout) t] v ∧
      ((∃ fault, r = .error fault ∧ w' = v) ∨
        ∃ old, v.declarations.get? key = some old ∧
          ∃ object, object = patched old body v.newVersion ∧
            r = .ok object ∧ w' = v.withDeclaration key object) := by
  obtain ⟨t, v, hpass, ⟨fault, rfl, rfl⟩ | h⟩ := send_bind_ends rfl h
  · exact ⟨t, _, hpass, Or.inl ⟨fault, rfl, rfl⟩⟩
  · refine ⟨t, v, hpass, ?_⟩
    rw [ends_run_get_bind] at h
    cases hold : v.declarations.get? key with
    | none =>
      rw [hold] at h
      obtain ⟨rfl, rfl⟩ := ends_run_throw.mp h
      exact Or.inl ⟨_, rfl, rfl⟩
    | some old =>
      rw [hold] at h
      dsimp only at h
      obtain ⟨_, _, hversion, h⟩ := ends_run_lift_bind.mp h
      obtain ⟨rfl, rfl⟩ := nextVersion_ends hversion
      rw [ends_run_modify_bind] at h
      obtain ⟨rfl, rfl⟩ := ends_run_pure.mp h
      exact Or.inr ⟨old, rfl, _, rfl, rfl, rfl⟩

end Cluster
end SecretSync

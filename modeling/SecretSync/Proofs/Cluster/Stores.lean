import SecretSync.Cluster.Declarations
import SecretSync.Proofs.Cluster.Requests
import SecretSync.Proofs.Secret.Object

/-!
# What the stores do

Reading, creating and replacing a secret, and reading a declaration and writing its status, in terms
of what is stored.  What has been written always reads back.
-/

namespace SecretSync.Cluster

open Act

variable {w w' : World} {access : Access}

namespace Secrets

/-- A secret that is fetched is that of a stored object. -/
theorem fetch_ends {ns name : String} {r : Except ClusterError Secret}
    (h : Ends (fetch access ns name).run w r w') :
    (∃ t, Passage w [.call (.readSecret ⟨ns, name⟩ access.timeout) t] w') ∧
      ∀ s, r = .ok s →
        ∃ object, w'.secrets.get? ⟨ns, name⟩ = some object ∧ Secret.ofObject object = .ok s := by
  obtain ⟨_, _, hlog, h⟩ := ends_run_lift_bind.mp h
  cases ends_modify.mp hlog
  obtain ⟨answer, v, hread, h⟩ := ends_run_lift_bind.mp h
  obtain ⟨rfl, rfl⟩ := ends_pure.mp (ends_run_mk.mp h)
  obtain ⟨⟨t, hpass⟩, hstored⟩ := readSecret_ends hread
  refine ⟨⟨t, hpass.behindLog _⟩, ?_⟩
  intro s hs
  cases answer with
  | error fault => cases hs
  | ok object => exact ⟨object, hstored object rfl, mapError_eq_ok_iff.mp hs⟩

private theorem logWrite_ends {event ns name : String} {answer : Except Fault SecretObject}
    {u : Unit} (h : Ends (logWrite event ns name answer) w u w') : Passage w [] w' := by
  unfold logWrite at h
  split at h
  · cases ends_modify.mp h
    exact (Passage.refl w).logged _
  · obtain ⟨-, rfl⟩ := ends_pure.mp h
    exact Passage.refl _

private theorem read_stored (subject : Subject) (s : Secret) (ns uid : Option String)
    (version : String) :
    read subject (.ok (s.toObject.stored ns uid version)) =
      .ok { s with ns := ns, uid := uid, resourceVersion := some version } := by
  rw [read, Secret.ofObject_stored]
  rfl

/-- A secret is created where there is none; the answer is what is stored then. -/
theorem create_ends {s : Secret} {r : Except ClusterError Secret}
    (h : Ends (create access s).run w r w') :
    ∃ t v, Passage w [.call (.createSecret (s.ns.getD "") s.toObject access.timeout) t] v ∧
      ((∃ e, r = .error e ∧ Passage v [] w') ∨
        v.secrets.get? ⟨s.ns.getD "", s.name⟩ = none ∧
          ∃ uid, r = .ok { s with
              ns := some (s.ns.getD ""), uid := uid, resourceVersion := some v.newVersion } ∧
            Passage (v.withSecret ⟨s.ns.getD "", s.name⟩
              (s.toObject.stored (some (s.ns.getD "")) uid v.newVersion)) [] w') := by
  obtain ⟨_, _, hstart, h⟩ := ends_run_lift_bind.mp h
  cases ends_modify.mp hstart
  obtain ⟨answer, v₁, hcreate, h⟩ := ends_run_lift_bind.mp h
  obtain ⟨_, v₂, hlog, h⟩ := ends_run_lift_bind.mp h
  obtain ⟨rfl, rfl⟩ := ends_pure.mp (ends_run_mk.mp h)
  have hlogged := logWrite_ends hlog
  obtain ⟨t, v, hpass, ⟨fault, rfl, rfl⟩ | ⟨hfree, object, rfl, rfl, rfl⟩⟩ :=
    createSecret_ends hcreate
  · exact ⟨t, _, hpass.behindLog _, Or.inl ⟨_, rfl, hlogged⟩⟩
  · exact ⟨t, v, hpass.behindLog _, Or.inr ⟨hfree, _, read_stored _ s _ _ _, hlogged⟩⟩

/-- A secret is replaced that has the version of the new one, if that has one; the answer is what is
stored then. -/
theorem update_ends {s : Secret} {r : Except ClusterError Secret}
    (h : Ends (update access s).run w r w') :
    ∃ t v, Passage w
        [.call (.replaceSecret ⟨s.ns.getD "", s.name⟩ s.toObject access.timeout) t] v ∧
      ((∃ e, r = .error e ∧ Passage v [] w') ∨
        ∃ old, v.secrets.get? ⟨s.ns.getD "", s.name⟩ = some old ∧
          (s.resourceVersion.isSome → s.resourceVersion = old.resourceVersion) ∧
          r = .ok { s with
            ns := some (s.ns.getD ""), uid := old.fields.uid,
            resourceVersion := some v.newVersion } ∧
          Passage (v.withSecret ⟨s.ns.getD "", s.name⟩
            (s.toObject.stored (some (s.ns.getD "")) old.fields.uid v.newVersion)) [] w') := by
  obtain ⟨_, _, hstart, h⟩ := ends_run_lift_bind.mp h
  cases ends_modify.mp hstart
  obtain ⟨answer, v₁, hreplace, h⟩ := ends_run_lift_bind.mp h
  obtain ⟨_, v₂, hlog, h⟩ := ends_run_lift_bind.mp h
  obtain ⟨rfl, rfl⟩ := ends_pure.mp (ends_run_mk.mp h)
  have hlogged := logWrite_ends hlog
  obtain ⟨t, v, hpass, ⟨fault, rfl, rfl⟩ | ⟨old, hold, hversion, object, rfl, rfl, rfl⟩⟩ :=
    replaceSecret_ends hreplace
  · exact ⟨t, _, hpass.behindLog _, Or.inl ⟨_, rfl, hlogged⟩⟩
  · exact ⟨t, v, hpass.behindLog _, Or.inr ⟨old, hold, hversion, read_stored _ s _ _ _, hlogged⟩⟩

/-- A secret that is there is not created. -/
theorem create_refused {s : Secret} {r : Except ClusterError Secret}
    (h : Ends (create access s).run w r w')
    (there : w.interlude.secrets.get? ⟨s.ns.getD "", s.name⟩ ≠ none) :
    (∃ e, r = .error e) ∧ (w.interlude.noted
      (.createSecret (s.ns.getD "") s.toObject access.timeout)).SameAccount w' := by
  obtain ⟨_, _, hstart, h⟩ := ends_run_lift_bind.mp h
  cases ends_modify.mp hstart
  obtain ⟨answer, v, hcreate, h⟩ := ends_run_lift_bind.mp h
  rw [← World.secrets_interlude_logged] at there
  obtain ⟨⟨fault, rfl⟩, hsame⟩ := createSecret_refused hcreate there
  obtain ⟨_, _, hlog, h⟩ := ends_run_lift_bind.mp h
  obtain ⟨-, rfl⟩ := ends_pure.mp hlog
  obtain ⟨rfl, rfl⟩ := ends_pure.mp (ends_run_mk.mp h)
  exact ⟨⟨_, rfl⟩, hsame.behindLog⟩

/-- A secret that is gone, or has another version than the new one, is not replaced. -/
theorem update_refused {s : Secret} {version : String} {r : Except ClusterError Secret}
    (h : Ends (update access s).run w r w') (expects : s.resourceVersion = some version)
    (changed : (w.interlude.secrets.get? ⟨s.ns.getD "", s.name⟩).map (·.resourceVersion) ≠
      some (some version)) :
    (∃ e, r = .error e) ∧ (w.interlude.noted
      (.replaceSecret ⟨s.ns.getD "", s.name⟩ s.toObject access.timeout)).SameAccount w' := by
  obtain ⟨_, _, hstart, h⟩ := ends_run_lift_bind.mp h
  cases ends_modify.mp hstart
  obtain ⟨answer, v, hreplace, h⟩ := ends_run_lift_bind.mp h
  rw [← World.secrets_interlude_logged] at changed
  obtain ⟨⟨fault, rfl⟩, hsame⟩ := replaceSecret_refused hreplace expects changed
  obtain ⟨_, _, hlog, h⟩ := ends_run_lift_bind.mp h
  obtain ⟨-, rfl⟩ := ends_pure.mp hlog
  obtain ⟨rfl, rfl⟩ := ends_pure.mp (ends_run_mk.mp h)
  exact ⟨⟨_, rfl⟩, hsame.behindLog⟩

end Secrets

namespace Declarations

/-- A declaration that is fetched is that of a stored object. -/
theorem fetch_ends {key : ObjectKey} {r : Except ClusterError Declaration}
    (h : Ends (fetch access key).run w r w') :
    (∃ t, Passage w [.call (.getDeclaration key access.timeout) t] w') ∧
      ∀ d, r = .ok d →
        ∃ object, w'.declarations.get? key = some object ∧ Declaration.ofObject object = .ok d := by
  obtain ⟨_, _, hlog, h⟩ := ends_run_lift_bind.mp h
  cases ends_modify.mp hlog
  obtain ⟨answer, v, hget, h⟩ := ends_run_lift_bind.mp h
  obtain ⟨rfl, rfl⟩ := ends_pure.mp (ends_run_mk.mp h)
  obtain ⟨⟨t, hpass⟩, hstored⟩ := getDeclaration_ends hget
  refine ⟨⟨t, hpass.behindLog _⟩, ?_⟩
  intro d hd
  cases answer with
  | error fault => cases hd
  | ok object => exact ⟨object, hstored object rfl, mapError_eq_ok_iff.mp hd⟩

/-- A declaration that is fetched is that of an object that others have left. -/
theorem fetch_reads {key : ObjectKey} {d : Declaration}
    (h : Ends (fetch access key).run w (.ok d) w') :
    ∃ object, w.interlude.declarations.get? key = some object ∧
      Declaration.ofObject object = .ok d := by
  obtain ⟨_, _, hlog, h⟩ := ends_run_lift_bind.mp h
  cases ends_modify.mp hlog
  obtain ⟨answer, v, hget, h⟩ := ends_run_lift_bind.mp h
  obtain ⟨hread, -⟩ := ends_pure.mp (ends_run_mk.mp h)
  cases answer with
  | error fault => cases hread
  | ok object =>
    have hleft := getDeclaration_reads hget
    rw [World.declarations_interlude_logged] at hleft
    exact ⟨object, hleft, mapError_eq_ok_iff.mp hread.symm⟩

/-- The body of the request that writes the status of a declaration. -/
def statusBody (d : Declaration) : Json := .obj [("status", d.status.toJson)]

private theorem logPatch_ends {d : Declaration} {answer : Except Fault Json} {u : Unit}
    (h : Ends (logPatch d answer) w u w') : Passage w [] w' := by
  unfold logPatch at h
  split at h
  · cases ends_modify.mp h
    exact (Passage.refl w).logged _
  · obtain ⟨-, rfl⟩ := ends_pure.mp h
    exact Passage.refl _

/-- The status of a declaration is written where its metadata say that it is stored. -/
theorem updateStatus_ends {d : Declaration} {r : Except ClusterError Declaration}
    (h : Ends (updateStatus access d).run w r w') :
    ∃ t v, Passage w [.call (.patchStatus d.key (statusBody d) access.timeout) t] v ∧
      (((∃ e, r = .error e) ∧ Passage v [] w') ∨
        ∃ old, v.declarations.get? d.key = some old ∧
          Passage (v.withDeclaration d.key (patched old (statusBody d) v.newVersion)) [] w') := by
  obtain ⟨_, _, hstart, h⟩ := ends_run_lift_bind.mp h
  cases ends_modify.mp hstart
  obtain ⟨answer, v₁, hpatch, h⟩ := ends_run_lift_bind.mp h
  obtain ⟨_, v₂, hlog, h⟩ := ends_run_lift_bind.mp h
  obtain ⟨rfl, rfl⟩ := ends_pure.mp (ends_run_mk.mp h)
  have hlogged := logPatch_ends hlog
  obtain ⟨t, v, hpass, ⟨fault, rfl, rfl⟩ | ⟨old, hold, object, rfl, rfl, rfl⟩⟩ :=
    patchStatus_ends hpatch
  · exact ⟨t, _, hpass.behindLog _, Or.inl ⟨⟨_, rfl⟩, hlogged⟩⟩
  · exact ⟨t, v, hpass.behindLog _, Or.inr ⟨old, hold, hlogged⟩⟩

end Declarations
end SecretSync.Cluster

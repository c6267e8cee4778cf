import SecretSync.Proofs.Sync.Scope

/-!
# A reconcile looks at its scope only

Reconciles of a declaration in two worlds that agree on its scope end alike: with the same result,
the same status, and the same target up to the uid and the version.  Between the reading of the
target and its replacement, each world holds the target under the version that was read there, so
the replacement conflicts in neither of them.
-/

namespace SecretSync

open Act World

variable {s : Scope} {S : World → World → Prop}

/-! ### Requests -/

namespace Cluster

private theorem takeFault_agree (hS : Lasting s S) (api : Api) :
    Paired (AgreeWith s S) (· = ·) (takeFault api) (takeFault api) := by
  refine coupled_get_bind (fun w v h => ?_)
  have hfaults : w.faults = v.faults := congrArg Footprint.faults h.agree.footprint
  rw [hfaults]
  split
  · next fault rest _ =>
    refine coupled_set_bind (coupled_pure (fun _ _ hp => ⟨rfl, hp⟩)) ?_
    refine h.step hS ?_ rfl rfl rfl rfl rfl rfl
    exact congrArg (fun f : Footprint => { f with faults := v.faults.insert api rest })
      h.agree.footprint
  · exact (paired_pure rfl).known h

/-- A request fails alike, whatever it carries. -/
theorem send_agree (hS : Lasting s S) (api : Api) (c c' : Call) :
    PairedRun (AgreeWith s S) (· = ·) (send api c) (send api c') := by
  refine (steady_agreeWith hS).yieldToOthers_respects.paired.lift_bind (fun _ _ _ => ?_)
  refine Paired.lift_bind (V := (· = ·)) (paired_modify (fun _ _ h =>
    h.aside hS ⟨rfl, rfl, rfl, rfl⟩ ⟨rfl, rfl, rfl, rfl⟩)) (fun _ _ _ => ?_)
  refine (takeFault_agree hS api).lift_bind ?_
  rintro fault _ rfl
  cases fault with
  | none => exact pairedRun_pure rfl
  | some fault => exact pairedRun_throw fault

/-- The versions of new writes differ. -/
theorem nextVersion_agree (hS : Lasting s S) :
    Paired (AgreeWith s S) (fun _ _ => True) nextVersion nextVersion := by
  refine Paired.bind (paired_modify (fun _ _ h =>
    h.aside hS ⟨rfl, rfl, rfl, rfl⟩ ⟨rfl, rfl, rfl, rfl⟩)) (fun _ _ _ => ?_)
  exact paired_get_bind (fun _ _ _ => paired_pure trivial)

private theorem getDeclaration_agree (hS : Lasting s S) (timeout : Int) :
    PairedRun (AgreeWith s S) (· = ·) (getDeclaration s.key timeout)
      (getDeclaration s.key timeout) := by
  refine (send_agree hS _ _ _).bind (fun _ _ _ => ?_)
  refine pairedRun_get_bind (fun w v h => ?_)
  have hdeclaration : w.declarations.get? s.key = v.declarations.get? s.key :=
    congrArg Footprint.declaration h.agree.footprint
  rw [hdeclaration]
  split
  · exact pairedRun_pure rfl
  · exact pairedRun_throw _

/-- What requests to a place of the scope answer is what lies there. -/
def Finds (s : Scope) (S : World → World → Prop) (place : ObjectKey) (o : SecretObject) (w : World)
    (o' : SecretObject) (v : World) : Prop :=
  AgreeWith s S w v ∧ w.secrets.get? place = some o ∧ v.secrets.get? place = some o'

variable {place : ObjectKey}

private theorem readSecret_agree (hS : Lasting s S) (hplace : place = s.token ∨ place = s.target)
    (timeout : Int) :
    Coupled (AgreeWith s S) (readSecret place timeout).run (readSecret place timeout).run
      (settled (AgreeWith s S) (Finds s S place)) := by
  refine Coupled.run_bind (send_agree hS _ _ _) (fun _ _ => ?_)
  refine coupled_run_get_bind (fun w v h => ?_)
  have hsame := h.2.agree.get?_secrets hplace
  cases hw : w.secrets.get? place with
  | none =>
    cases hv : v.secrets.get? place with
    | none => exact (coupled_run_throw (fun _ _ h => h)).known h.2
    | some object => rw [hw, hv] at hsame; cases hsame
  | some object =>
    cases hv : v.secrets.get? place with
    | none => rw [hw, hv] at hsame; cases hsame
    | some object' =>
      have hfinds : Finds s S place object w object' v := ⟨h.2, hw, hv⟩
      exact (coupled_run_pure (fun _ _ h => h)).known hfinds

/-- The target is written alike, up to the uid and the version. -/
theorem write_agree {o o' : SecretObject} (hsame : o.unversioned = o'.unversioned)
    (hname : o.fields.name = some s.target.name) (hns : o.fields.ns = some s.target.ns) :
    Coupled (AgreeWith s S)
      (modify (fun w : World => { w with secrets := w.secrets.insert s.target o }))
      (modify (fun w : World => { w with secrets := w.secrets.insert s.target o' }))
      (fun _ w _ v => Finds s Always s.target o w o' v) := by
  refine coupled_modify (fun w v h => ⟨⟨h.agree.withTarget hsame hname hns, trivial⟩, ?_, ?_⟩)
  · rw [Dict.get?_insert, if_pos rfl]
  · rw [Dict.get?_insert, if_pos rfl]

/-- A secret is created at the target alike. -/
theorem createSecret_agree {body : SecretObject} {ns : String} (timeout : Int)
    (hns : ns = s.target.ns) (hname : body.fields.name = some s.target.name) :
    Coupled (AgreeWith s Always) (createSecret ns body timeout).run
      (createSecret ns body timeout).run
      (settled (AgreeWith s Always) (Finds s Always s.target)) := by
  subst hns
  refine Coupled.run_bind (send_agree lasting_always _ _ _) (fun _ _ => ?_)
  refine coupled_run_get_bind (fun w v h => ?_)
  have hkey : (⟨s.target.ns, body.fields.name.getD ""⟩ : ObjectKey) = s.target := by
    rw [hname]
    rfl
  have hfree : w.secrets.contains s.target = v.secrets.contains s.target := by
    have hsome := congrArg Option.isSome (h.2.agree.get?_secrets (Or.inr rfl))
    rw [Option.isSome_map, Option.isSome_map] at hsome
    exact hsome
  dsimp only
  rw [hkey, hfree]
  split
  · exact (coupled_run_throw (fun _ _ h => h)).known h.2
  · refine Coupled.run_lift_bind ((nextVersion_agree lasting_always).known h.2)
      (fun version version' => ?_)
    refine Coupled.run_lift_bind ((write_agree (SecretObject.unversioned_stored rfl _ _ _ _ _)
      hname rfl).mono (fun _ _ hp => hp.2) (fun _ _ _ _ hq => hq)) (fun _ _ => ?_)
    exact coupled_run_pure (fun _ _ hq => hq)

/-- The target is replaced alike if both worlds hold it under the version of the body. -/
theorem replaceSecret_agree {body body' : SecretObject} (timeout : Int)
    (hsame : body.unversioned = body'.unversioned)
    (hname : body.fields.name = some s.target.name) :
    Coupled (AgreeWith s (Current s body.resourceVersion body'.resourceVersion))
      (replaceSecret s.target body timeout).run (replaceSecret s.target body' timeout).run
      (settled (AgreeWith s Always) (Finds s Always s.target)) := by
  refine Coupled.run_bind ((send_agree lasting_current _ _ _).weaken
    (fun _ _ h => h.forget)) (fun _ _ => ?_)
  refine coupled_run_get_bind (fun w v h => ?_)
  obtain ⟨old, hw, hversion⟩ := Option.map_eq_some_iff.mp h.2.further.1
  obtain ⟨old', hv, hversion'⟩ := Option.map_eq_some_iff.mp h.2.further.2
  rw [hw, hv]
  dsimp only
  rw [if_neg (fun hne => hne.2 hversion.symm), if_neg (fun hne => hne.2 hversion'.symm)]
  refine Coupled.run_lift_bind ((nextVersion_agree lasting_current).known h.2)
    (fun version version' => ?_)
  refine Coupled.run_lift_bind ((write_agree (SecretObject.unversioned_stored hsame _ _ _ _ _)
    hname rfl).mono (fun _ _ hp => hp.2) (fun _ _ _ _ hq => hq)) (fun _ _ => ?_)
  exact coupled_run_pure (fun _ _ hq => hq)

namespace Secrets

variable {access : Access}

/-- What the store yields at a place is what lies there, and the same up to the uid and the
version. -/
def Yields (s : Scope) (S : World → World → Prop) (place : ObjectKey) (a : Secret) (w : World)
    (b : Secret) (v : World) : Prop :=
  a.unversioned = b.unversioned ∧ ∃ o o', Finds s S place o w o' v ∧
    Secret.ofObject o = .ok a ∧ Secret.ofObject o' = .ok b

/-- Answers are read alike. -/
theorem read_agree (hplace : place = s.token ∨ place = s.target) (subject : Subject)
    (o o' : SecretObject) :
    Coupled (fun w v => Finds s S place o w o' v)
      (ExceptT.mk (pure (read subject (.ok o))) : ExceptT ClusterError Act Secret).run
      (ExceptT.mk (pure (read subject (.ok o')))).run
      (settled (AgreeWith s S) (Yields s S place)) := by
  intro w v w' v' a b hfinds hx hy
  obtain ⟨rfl, rfl⟩ := ends_pure.mp hx
  obtain ⟨rfl, rfl⟩ := ends_pure.mp hy
  have hsame := hfinds.1.agree.get?_secrets hplace
  rw [hfinds.2.1, hfinds.2.2] at hsame
  have hread : (Secret.ofObject o).map Secret.unversioned =
      (Secret.ofObject o').map Secret.unversioned := by
    rw [← Secret.ofObject_unversioned, ← Secret.ofObject_unversioned, Option.some.inj hsame]
  unfold read
  obtain ⟨e, ho, ho'⟩ | ⟨a, b, ho, ho', hab⟩ := map_eq_map_cases hread
  · simp only [ho, ho']
    exact ⟨rfl, hfinds.1⟩
  · simp only [ho, ho']
    exact ⟨hab, o, o', hfinds, ho, ho'⟩

private theorem fetch_agree (hS : Lasting s S) {ns name : String}
    (hplace : (⟨ns, name⟩ : ObjectKey) = s.token ∨ (⟨ns, name⟩ : ObjectKey) = s.target) :
    Coupled (AgreeWith s S) (fetch access ns name).run (fetch access ns name).run
      (settled (AgreeWith s S) (Yields s S ⟨ns, name⟩)) := by
  refine ((steady_agreeWith hS).log_respects _ _ _).before ?_
  refine Coupled.run_lift_bind (readSecret_agree hS hplace _) (fun r r' => coupled_settled ?_ ?_)
  · rintro o o' rfl rfl
    exact read_agree hplace _ o o'
  · rintro e rfl rfl
    exact coupled_run_throw (fun _ _ h => h)

/-- What a write of the target comes to is noted and read. -/
theorem finish_agree {P : World → World → Prop} (event ns name : String)
    {request request' : Request SecretObject} (h : Coupled P request.run request'.run
      (settled (AgreeWith s Always) (Finds s Always s.target))) :
    Coupled P
      (do
        let answer ← request.run
        logWrite event ns name answer
        ExceptT.mk (pure (read (subject ns name) answer)) : ExceptT ClusterError Act Secret).run
      (do
        let answer ← request'.run
        logWrite event ns name answer
        ExceptT.mk (pure (read (subject ns name) answer)) : ExceptT ClusterError Act Secret).run
      (settled (AgreeWith s Always) (Yields s Always s.target)) := by
  refine Coupled.run_lift_bind h (fun r r' => coupled_settled ?_ ?_)
  · rintro o o' rfl rfl
    refine Coupled.run_lift_bind (Q := fun _ w _ v => Finds s Always s.target o w o' v)
      (coupled_modify (fun w v hfinds => ⟨?_, hfinds.2⟩)) (fun _ _ => ?_)
    · exact hfinds.1.aside lasting_always ⟨rfl, rfl, rfl, rfl⟩ ⟨rfl, rfl, rfl, rfl⟩
    · exact read_agree (Or.inr rfl) _ o o'
  · rintro e rfl rfl
    refine Coupled.run_lift_bind (Q := fun _ w _ v => AgreeWith s Always w v)
      (coupled_pure (fun _ _ h => h)) (fun _ _ => ?_)
    exact coupled_run_throw (fun _ _ h => h)

private theorem create_agree {a : Secret} (hplace : a.place = s.target) :
    Coupled (AgreeWith s Always) (create access a).run (create access a).run
      (settled (AgreeWith s Always) (Yields s Always s.target)) := by
  refine ((steady_agreeWith lasting_always).log_respects _ _ _).before ?_
  exact finish_agree _ _ _ (createSecret_agree _ (congrArg ObjectKey.ns hplace)
    (congrArg (fun place : ObjectKey => some place.name) hplace))

private theorem update_agree {a b : Secret} (hsame : a.unversioned = b.unversioned)
    (hplace : a.place = s.target) :
    Coupled (AgreeWith s (Current s a.resourceVersion b.resourceVersion)) (update access a).run
      (update access b).run (settled (AgreeWith s Always) (Yields s Always s.target)) := by
  have hname : b.name = a.name := (congrArg Secret.name hsame :).symm
  have hns : b.ns = a.ns := (congrArg Secret.ns hsame :).symm
  have hkey : (⟨a.ns.getD "", a.name⟩ : ObjectKey) = s.target := hplace
  unfold update
  rw [hname, hns]
  dsimp only
  rw [hkey]
  refine ((steady_agreeWith lasting_current).log_respects _ _ _).before ?_
  exact finish_agree _ _ _ (replaceSecret_agree _ (Secret.toObject_unversioned hsame)
    (congrArg (fun place : ObjectKey => some place.name) hplace))

end Secrets

namespace Declarations

variable {access : Access}

/-- A declaration is read alike, and it is one that others have left. -/
theorem fetch_agree (hS : Lasting s S) :
    Coupled (AgreeWith s S) (fetch access s.key).run (fetch access s.key).run
      (settled (AgreeWith s S) (both (· = ·) (AgreeWith s S))) := by
  refine ((steady_agreeWith hS).log_respects _ _ _).before ?_
  refine Coupled.run_lift_bind (getDeclaration_agree hS _) (fun r r' => coupled_settled ?_ ?_)
  · rintro o o' rfl rfl
    refine coupled_of ?_
    rintro rfl
    exact pairedRun_mapError (V := (· = ·)) _ (map_eq_map_cases (f := id) (g := id) rfl)
  · rintro e rfl rfl
    exact coupled_run_throw (fun _ _ h => h)

end Declarations
end Cluster

/-! ### Pulls -/

namespace Vault

private theorem build_agree (endpoints : Endpoints) :
    Coupled (AgreeWith s SameSession) (Client.build endpoints).run (Client.build endpoints).run
      (settled (AgreeWith s Always) (both (· = ·) (AgreeWith s Always))) := by
  have hsteady := steady_agreeWith (s := s) lasting_sameSession
  refine Coupled.run_lift_bind hsteady.yieldToOthers_respects.paired (fun _ _ => ?_)
  refine Coupled.run_lift_bind ((hsteady.note_respects _).paired.mono (fun _ _ h => h.2)
    (fun _ _ _ _ hq => hq)) (fun _ _ => ?_)
  refine Coupled.run_lift_bind (Q := both (· = ·) (AgreeWith s Always)) ?_
    (fun session session' => coupled_of ?_)
  · intro w v w' v' session session' h hx hy
    obtain ⟨rfl, rfl⟩ := nextSession_ends hx
    obtain ⟨rfl, rfl⟩ := nextSession_ends hy
    exact ⟨h.2.further, h.2.agree.step h.2.agree.footprint rfl rfl rfl, trivial⟩
  · rintro rfl
    split
    · exact coupled_run_throw (fun _ _ h => h)
    · have hkept := steady_agreeWith (s := s) lasting_always
      refine (respects_modify (hkept.clients (· + 1))).before ?_
      refine (hkept.log_respects _ _ _).before ?_
      exact coupled_run_pure (fun _ _ h => ⟨rfl, h⟩)

/-- A pull tells the same where the next session is the same. -/
theorem pull_agree (endpoints : Endpoints) (organization token : String)
    (since : Option Time.Instant) (statePath : String) :
    Coupled (AgreeWith s SameSession) (pull endpoints organization token since statePath).run
      (pull endpoints organization token since statePath).run
      (settled (AgreeWith s Always) (both (· = ·) (AgreeWith s Always))) := by
  rw [pull_eq]
  refine Coupled.run_bind ((build_agree endpoints).run_adapt _) (fun client client' =>
    coupled_of ?_)
  rintro rfl
  exact (useClient_respects (steady_agreeWith lasting_always) _ _ _ _ _).pairedRun

end Vault

/-! ### Attempts -/

/-- Targets that are the same up to the uid, each under a version of its own. -/
structure Secret.Twins (s : Scope) (version version' : Option String) (a b : Secret) : Prop where
  same : a.unversioned = b.unversioned
  place : a.place = s.target
  version : a.resourceVersion = version
  version' : b.resourceVersion = version'

namespace Secret

variable {version version' : Option String} {a b : Secret}

private theorem restoreIds_unversioned (a : Secret) :
    a.unversioned.restoreIds = a.restoreIds.map Secret.unversioned := by
  have hannotations : a.unversioned.annotations = a.annotations := rfl
  unfold restoreIds
  rw [hannotations]
  split
  · rfl
  · next text _ => cases KeyMap.ofAnnotation text <;> rfl

private theorem refill_unversioned (mapFault : Option String) (key : ObjectKey) (d : Declaration)
    (values : Data) (now : Time.Instant) (a : Secret) :
    Sync.refill mapFault key d values now a.unversioned =
      (Sync.refill mapFault key d values now a).map Secret.unversioned := by
  unfold Sync.refill annotate
  cases d.spec.map.mapM (KeyMap.write mapFault) <;> rfl

private theorem restored_unversioned (a : Secret) :
    Sync.restored a.unversioned = (Sync.restored a).map Secret.unversioned := by
  have hannotations : a.unversioned.annotations = a.annotations := rfl
  unfold Sync.restored
  rw [hannotations]
  split
  · rfl
  · exact restoreIds_unversioned a

/-- The ids are restored in both twins, or in neither. -/
theorem Twins.restored (h : Twins s version version' a b) :
    (∃ e, Sync.restored a = .error e ∧ Sync.restored b = .error e) ∨
      ∃ a' b', Sync.restored a = .ok a' ∧ Sync.restored b = .ok b' ∧
        Twins s version version' a' b' := by
  have hrestored : (Sync.restored a).map Secret.unversioned =
      (Sync.restored b).map Secret.unversioned := by
    rw [← restored_unversioned, h.same, restored_unversioned]
  refine (map_eq_map_cases hrestored).imp_right ?_
  rintro ⟨a', b', ha, hb, hsame⟩
  refine ⟨a', b', ha, hb, hsame, ?_, ?_, ?_⟩
  · rw [Sync.restored_cases ha]
    exact h.place
  · rw [Sync.restored_cases ha]
    exact h.version
  · rw [Sync.restored_cases hb]
    exact h.version'

/-- Both twins are refilled, or neither. -/
theorem Twins.refill (h : Twins s version version' a b) (mapFault : Option String)
    (key : ObjectKey) (d : Declaration) (values : Data) (now : Time.Instant) :
    (∃ e, Sync.refill mapFault key d values now a = .error e ∧
      Sync.refill mapFault key d values now b = .error e) ∨
    ∃ a' b', Sync.refill mapFault key d values now a = .ok a' ∧
      Sync.refill mapFault key d values now b = .ok b' ∧ Twins s version version' a' b' := by
  have hrefilled : (Sync.refill mapFault key d values now a).map Secret.unversioned =
      (Sync.refill mapFault key d values now b).map Secret.unversioned := by
    rw [← refill_unversioned, h.same, refill_unversioned]
  refine (map_eq_map_cases hrefilled).imp_right ?_
  rintro ⟨a', b', ha, hb, hsame⟩
  refine ⟨a', b', ha, hb, hsame, ?_, ?_, ?_⟩
  · rw [(Sync.refill_cases ha).2.2]
    exact h.place
  · rw [(Sync.refill_cases ha).2.2]
    exact h.version
  · rw [(Sync.refill_cases hb).2.2]
    exact h.version'

end Secret

namespace Sync

open Cluster.Secrets (Yields)

variable {settings : Settings} {d : Declaration}

/-- Both worlds hold the target under the version that was read there. -/
def Held (s : Scope) (a : Secret) (w : World) (b : Secret) (v : World) : Prop :=
  Secret.Twins s a.resourceVersion b.resourceVersion a b ∧
    AgreeWith s (Current s a.resourceVersion b.resourceVersion) w v

private theorem held_of_yields {a b : Secret} {w v : World}
    (h : Yields s Always s.target a w b v) : Held s a w b v := by
  obtain ⟨hsame, o, o', ⟨hagree, hw, hv⟩, ha, hb⟩ := h
  have hversion : a.resourceVersion = o.resourceVersion :=
    congrArg Secret.resourceVersion (Secret.ofObject_fields ha)
  have hversion' : b.resourceVersion = o'.resourceVersion :=
    congrArg Secret.resourceVersion (Secret.ofObject_fields hb)
  refine ⟨⟨hsame, ?_, rfl, rfl⟩, hagree.agree, ?_, ?_⟩
  · obtain ⟨hname, hns⟩ := hagree.agree.named o hw
    rw [Secret.place, Secret.ofObject_fields ha, hname, hns]
    rfl
  · rw [hw, Option.map_some, hversion]
  · rw [hv, Option.map_some, hversion']

private theorem readToken_agree (hd : d.LiesIn s) :
    PairedRun (AgreeWith s SameSession) (· = ·) (readToken settings s.key d.spec)
      (readToken settings s.key d.spec) := by
  refine Coupled.run_bind (Coupled.run_adapt
    (Cluster.Secrets.fetch_agree lasting_sameSession (Or.inl hd.token.symm)) _) (fun a b => ?_)
  refine (coupled_of (p := a.unversioned = b.unversioned) (P := AgreeWith s SameSession)
    (fun hsame => ?_)).mono ?_ (fun _ _ _ _ hq => hq)
  · have hvalue : a.value? d.spec.authToken.secretKey = b.value? d.spec.authToken.secretKey :=
      congrArg (Dict.get? · _) (congrArg Secret.data hsame :)
    rw [hvalue]
    split
    · exact coupled_run_throw (fun _ _ h => h)
    · exact pairedRun_mapError (V := (· = ·)) _ (map_eq_map_cases (f := id) (g := id) rfl)
  · rintro w v ⟨hsame, o, o', ⟨hagree, -⟩, -⟩
    exact ⟨hsame, hagree⟩

private theorem createTarget_agree (hd : d.LiesIn s) :
    Coupled (AgreeWith s Always) (createTarget settings d).run (createTarget settings d).run
      (settled (AgreeWith s Always) (Held s)) := by
  unfold createTarget
  cases hown : (Secret.shell d).own d with
  | error e => exact coupled_run_throw (fun _ _ h => h)
  | ok shell =>
    have hplace : shell.place = s.target := by
      rw [Secret.own_cases hown, ← hd.targetKey]
      rfl
    refine Coupled.run_bind (Q := both (fun a b => a = shell ∧ b = shell) (AgreeWith s Always))
      (coupled_run_pure (fun _ _ h => ⟨⟨rfl, rfl⟩, h⟩)) (fun a b => coupled_of ?_)
    rintro ⟨rfl, rfl⟩
    exact Coupled.run_adapt ((Cluster.Secrets.create_agree hplace).mono (fun _ _ h => h)
      (settled_mono (fun _ _ h => h) (fun _ _ _ _ h => held_of_yields h))) _

private theorem readTarget_agree (hd : d.LiesIn s) :
    Coupled (AgreeWith s Always) (readTarget settings s.key d).run
      (readTarget settings s.key d).run (settled (AgreeWith s Always) (Held s)) := by
  refine Coupled.run_lift_bind (Cluster.Secrets.fetch_agree lasting_always
    (Or.inr hd.target.symm)) (fun r r' => coupled_settled ?_ ?_)
  · rintro a b rfl rfl
    refine coupled_run_pure (fun w v h => held_of_yields ?_)
    rw [← hd.target] at h
    exact h
  · rintro e rfl rfl
    dsimp only
    split
    · exact createTarget_agree hd
    · exact coupled_run_throw (fun _ _ h => h)

/-- What has been read of the target in each world is written back there alike. -/
theorem fillTarget_agree (hd : d.LiesIn s) (values : Data) :
    Coupled (AgreeWith s Always) (fillTarget settings s.key d values).run
      (fillTarget settings s.key d values).run
      (settled (AgreeWith s Always) (both (· = ·) (AgreeWith s Always))) := by
  refine Coupled.run_bind (readTarget_agree hd) (fun a b => coupled_of (fun htwins => ?_))
  refine Coupled.run_bind ((pairedRun_mapError _ htwins.restored).weaken
    (fun _ _ h => h.forget)) (fun a' b' => coupled_of (fun htwins' => ?_))
  refine Coupled.run_lift_bind (steady_agreeWith lasting_current).now_respects.paired
    (fun now now' => coupled_of ?_)
  rintro rfl
  refine coupled_run_get_bind (fun w v h => ?_)
  have hfault : w.mapFault = v.mapFault := congrArg Footprint.mapFault h.agree.footprint
  rw [World.writeFault, hfault, ← World.writeFault]
  refine Coupled.run_bind (((pairedRun_mapError _ (htwins'.refill _ _ _ _ _)).weaken
    (fun _ _ h => h.forget)).known h) (fun a'' b'' => coupled_of (fun htwins'' => ?_))
  have hupdate := @Cluster.Secrets.update_agree s settings.access _ _ htwins''.same htwins''.place
  rw [htwins''.version, htwins''.version'] at hupdate
  refine Coupled.run_bind (hupdate.run_adapt _) (fun _ _ => ?_)
  refine coupled_run_pure ?_
  rintro w v ⟨-, o, o', ⟨hagree, -⟩, -⟩
  exact ⟨rfl, hagree⟩

/-- An attempt ends alike. -/
theorem attempt_agree (hd : d.LiesIn s) :
    Coupled (AgreeWith s SameSession) (attempt settings s.key d).run
      (attempt settings s.key d).run
      (settled (AgreeWith s Always) (both (· = ·) (AgreeWith s Always))) := by
  refine Coupled.run_bind ((readToken_agree hd).weaken (fun _ _ h => h.forget))
    (fun token token' => coupled_of ?_)
  rintro rfl
  refine Coupled.run_bind (Coupled.run_adapt (Vault.pull_agree _ _ _ _ _) _)
    (fun delta delta' => coupled_of ?_)
  rintro rfl
  split
  · refine Coupled.run_bind (fillTarget_agree hd _) (fun _ _ => ?_)
    exact coupled_run_pure (fun _ _ h => ⟨rfl, h.2⟩)
  · refine Coupled.run_lift_bind ((steady_agreeWith lasting_always).log_respects _ _ _).paired
      (fun _ _ => ?_)
    exact coupled_run_pure (fun _ _ h => ⟨rfl, h.2⟩)

/-! ### Statuses -/

/-- Two worlds show the same status of a declaration, and the same target up to the uid and the
version. -/
structure LeftAlike (s : Scope) (w v : World) : Prop where
  status : (w.declarations.get? s.key).map (·.member? "status") =
    (v.declarations.get? s.key).map (·.member? "status")
  target : (w.secrets.get? s.target).map SecretObject.unversioned =
    (v.secrets.get? s.target).map SecretObject.unversioned

private theorem leftAlike_of_agree {w v : World} (h : AgreeWith s S w v) : LeftAlike s w v :=
  ⟨congrArg (Option.map (·.member? "status")) (congrArg Footprint.declaration h.agree.footprint),
    h.agree.get?_secrets (Or.inr rfl)⟩

/-- Versions do not matter for a written status. -/
theorem status_of_patched (object body : Json) (version version' : String) :
    (Cluster.patched object body version).member? "status" =
      (Cluster.patched object body version').member? "status" := by
  unfold Cluster.patched
  change Dict.lookup "status" (Dict.put "metadata" _ _) =
    Dict.lookup "status" (Dict.put "metadata" _ _)
  rw [Dict.lookup_put, if_neg (by decide), Dict.lookup_put, if_neg (by decide)]

private theorem patchStatus_agree (body : Json) (timeout : Int) :
    Coupled (AgreeWith s Always) (Cluster.patchStatus s.key body timeout).run
      (Cluster.patchStatus s.key body timeout).run (fun _ w _ v => LeftAlike s w v) := by
  refine (Coupled.run_bind ((Cluster.send_agree lasting_always _ _ _).weaken
    (fun _ _ h => leftAlike_of_agree h)) (fun _ _ => coupled_run_get_bind (fun w v h => ?_))).mono
    (fun _ _ h => h) settled_const
  have hdeclaration : w.declarations.get? s.key = v.declarations.get? s.key :=
    congrArg Footprint.declaration h.2.agree.footprint
  rw [hdeclaration]
  split
  · exact (coupled_run_throw (fun _ _ h => h)).known (leftAlike_of_agree h.2)
  · next object _ =>
    refine Coupled.run_lift_bind ((Cluster.nextVersion_agree lasting_always).known h.2)
      (fun version version' => ?_)
    refine Coupled.run_lift_bind (Q := fun _ w _ v => LeftAlike s w v)
      (coupled_modify (fun w v h => ⟨?_, h.2.agree.get?_secrets (Or.inr rfl)⟩)) (fun _ _ => ?_)
    · rw [Dict.get?_insert, if_pos rfl, Dict.get?_insert, if_pos rfl]
      exact congrArg some (status_of_patched object body version version')
    · exact coupled_run_pure (fun _ _ h => h)

private theorem log_leaves {level : LogLevel} {event : String} {fields : List (String × Json)}
    {w w' : World} {u : Unit} (h : Ends (Act.log level event fields) w u w') :
    w'.declarations = w.declarations ∧ w'.secrets = w.secrets := by
  cases ends_modify.mp h
  exact ⟨rfl, rfl⟩

/-- A status write is its request, with notes in the log around it. -/
theorem writeStatus_cases {key : ObjectKey} {w w' : World} {u : Unit}
    (h : Ends (writeStatus settings key d) w u w') :
    ∃ v x answer, Ends (Cluster.Declarations.log .debug "updating_status"
        [("name", .str d.name), ("namespace", .str d.key.ns)]) w () v ∧
      Ends (Cluster.patchStatus d.key (.obj [("status", d.status.toJson)])
        settings.access.timeout).run v answer x ∧
      w'.declarations = x.declarations ∧ w'.secrets = x.secrets := by
  obtain ⟨answer, y, hupdate, hnoted⟩ := ends_bind.mp h
  obtain ⟨_, v, hlog, hupdate⟩ := ends_run_lift_bind.mp hupdate
  obtain ⟨answer', x, hpatch, hupdate⟩ := ends_run_lift_bind.mp hupdate
  obtain ⟨_, y', hpatched, hread⟩ := ends_run_lift_bind.mp hupdate
  obtain ⟨-, rfl⟩ := ends_pure.mp (ends_run_mk.mp hread)
  refine ⟨v, x, answer', hlog, hpatch, ?_⟩
  have hy : y.declarations = x.declarations ∧ y.secrets = x.secrets := by
    cases answer' with
    | ok object => exact log_leaves hpatched
    | error fault =>
      obtain ⟨-, rfl⟩ := ends_pure.mp hpatched
      exact ⟨rfl, rfl⟩
  cases answer with
  | ok d' =>
    obtain ⟨-, rfl⟩ := ends_pure.mp hnoted
    exact hy
  | error e =>
    obtain ⟨hdeclarations, hsecrets⟩ := log_leaves hnoted
    exact ⟨hdeclarations.trans hy.1, hsecrets.trans hy.2⟩

private theorem writeStatus_agree {key : ObjectKey} (hd : d.key = s.key) :
    Coupled (AgreeWith s Always) (writeStatus settings key d) (writeStatus settings key d)
      (both (· = ·) (LeftAlike s)) := by
  intro w v w' v' _ _ h hx hy
  obtain ⟨x, x', _, hlogx, hx, hdeclarations, hsecrets⟩ := writeStatus_cases hx
  obtain ⟨y, y', _, hlogy, hy, hdeclarations', hsecrets'⟩ := writeStatus_cases hy
  have hlogged := ((steady_agreeWith lasting_always).log_respects _ _ _).paired h hlogx hlogy
  rw [hd] at hx hy
  have hleft := patchStatus_agree _ _ hlogged.2 hx hy
  refine ⟨rfl, ?_, ?_⟩
  · rw [hdeclarations, hdeclarations']
    exact hleft.status
  · rw [hsecrets, hsecrets']
    exact hleft.target

private theorem recordFailure_agree (hd : d.LiesIn s) (failure : Failure) :
    Coupled (AgreeWith s Always) (recordFailure settings s.key d failure)
      (recordFailure settings s.key d failure) (both (· = ·) (LeftAlike s)) := by
  have hsteady := steady_agreeWith (s := s) lasting_always
  refine Coupled.bind (hsteady.log_respects _ _ _).paired (fun _ _ => ?_)
  refine Coupled.bind (hsteady.now_respects.paired.mono (fun _ _ h => h.2)
    (fun _ _ _ _ h => h)) (fun now now' => coupled_of ?_)
  rintro rfl
  refine Coupled.bind (writeStatus_agree hd.key) (fun _ _ => ?_)
  exact coupled_pure (fun _ _ h => ⟨rfl, h.2⟩)

private theorem recordProgress_agree (hd : d.LiesIn s) (progress : Progress) :
    Coupled (AgreeWith s Always) (recordProgress settings s.key d progress)
      (recordProgress settings s.key d progress) (both (· = ·) (LeftAlike s)) := by
  have hsteady := steady_agreeWith (s := s) lasting_always
  refine Coupled.bind hsteady.now_respects.paired (fun now now' => coupled_of ?_)
  rintro rfl
  have hkey : (completed d (progress.message s.key) now).key = s.key := hd.key
  refine Coupled.bind (hsteady.log_respects _ _ _).paired (fun _ _ => ?_)
  refine Coupled.bind ((writeStatus_agree hkey).mono (fun _ _ h => h.2)
    (fun _ _ _ _ h => h)) (fun _ _ => ?_)
  exact coupled_pure (fun _ _ h => ⟨rfl, h.2⟩)

private theorem attemptAndRecord_agree (hd : d.LiesIn s) :
    Coupled (AgreeWith s SameSession) (attemptAndRecord settings s.key d).run
      (attemptAndRecord settings s.key d).run
      (settled (LeftAlike s) (both (· = ·) (LeftAlike s))) := by
  have hsteady := steady_agreeWith (s := s) lasting_sameSession
  refine (hsteady.log_respects _ _ _).before ?_
  refine Coupled.run_lift_bind (attempt_agree hd) (fun r r' => coupled_settled ?_ ?_)
  · rintro progress _ rfl rfl
    refine coupled_of ?_
    rintro rfl
    exact (recordProgress_agree hd progress).run_lift
  · rintro e rfl rfl
    cases e with
    | failed failure => exact (recordFailure_agree hd failure).run_lift
    | value e => exact coupled_run_throw (fun _ _ h => leftAlike_of_agree h)

/-! ### Reconciles -/

private theorem fetch_liesIn :
    Coupled (fun w v => AgreeWith s SameSession w v ∧ World.Declares s w)
      (Cluster.Declarations.fetch settings.access s.key).run
      (Cluster.Declarations.fetch settings.access s.key).run
      (settled (AgreeWith s SameSession)
        (fun d w d' v => (d = d' ∧ d.LiesIn s) ∧ AgreeWith s SameSession w v)) := by
  intro w v w' v' r r' h hx hy
  have hboth := Cluster.Declarations.fetch_agree lasting_sameSession h.1 hx hy
  obtain (e | d) := r
  · obtain (e' | d') := r'
    · exact hboth
    · exact hboth.elim
  · obtain (e' | d') := r'
    · exact hboth.elim
    · obtain ⟨object, hobject, hd⟩ := Cluster.Declarations.fetch_reads hx
      exact ⟨⟨hboth.1, h.2 object d hobject hd⟩, hboth.2⟩

private theorem reportUnread_agree (e : ClusterError) :
    Coupled (AgreeWith s SameSession) (reportUnread settings s.key e)
      (reportUnread settings s.key e) (both (· = ·) (LeftAlike s)) := by
  have hsteady := steady_agreeWith (s := s) lasting_sameSession
  unfold reportUnread
  split
  · refine Coupled.bind (hsteady.log_respects _ _ _).paired (fun _ _ => ?_)
    exact coupled_pure (fun _ _ h => ⟨rfl, leftAlike_of_agree h.2⟩)
  · refine Coupled.bind (hsteady.log_respects _ _ _).paired (fun _ _ => ?_)
    exact coupled_pure (fun _ _ h => ⟨rfl, leftAlike_of_agree h.2⟩)

/-- Reconciles in worlds that agree on the scope of the declaration end alike. -/
theorem reconcile_agree :
    Coupled (fun w v => AgreeWith s SameSession w v ∧ World.Declares s w)
      (reconcile settings s.key).run (reconcile settings s.key).run
      (fun r w r' v => r = r' ∧ LeftAlike s w v) := by
  have hsteady := steady_agreeWith (s := s) lasting_sameSession
  have hrun : Coupled (fun w v => AgreeWith s SameSession w v ∧ World.Declares s w)
      (reconcile settings s.key).run (reconcile settings s.key).run
      (settled (LeftAlike s) (both (· = ·) (LeftAlike s))) := by
    refine Coupled.run_lift_bind fetch_liesIn (fun r r' => coupled_settled ?_ ?_)
    · rintro d d' rfl rfl
      refine coupled_of ?_
      rintro ⟨rfl, hd⟩
      refine Coupled.run_lift_bind hsteady.now_respects.paired (fun now now' => coupled_of ?_)
      rintro rfl
      split
      · exact coupled_run_throw (fun _ _ h => leftAlike_of_agree h)
      · refine (hsteady.log_respects _ _ _).before ?_
        exact coupled_run_pure (fun _ _ h => ⟨rfl, leftAlike_of_agree h⟩)
      · exact attemptAndRecord_agree hd
    · rintro e rfl rfl
      exact (reportUnread_agree e).run_lift
  refine hrun.mono (fun _ _ h => h) ?_
  rintro (e | result) w (e' | result') v h
  · exact ⟨congrArg _ h.1, h.2⟩
  · exact h.elim
  · exact h.elim
  · exact ⟨congrArg _ h.1, h.2⟩

end Sync
end SecretSync

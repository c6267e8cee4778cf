import SecretSync.Proofs.Sync.Unwritten

/-!
# Who owns a target

A reconcile makes its declaration the controller of a target that it creates, and of no other one.
The check for another controller is made there, on a secret without owners, so it never finds one;
a target that is there is taken over with the owners that it has.
-/

namespace SecretSync

open Declaration (targetKey)

/-- The owners of a stored secret; flags that are not set count as false. -/
def SecretObject.ownerRefs (object : SecretObject) : List OwnerRef :=
  (object.fields.owners.getD []).map OwnerRef.ofObject

/-- Among owners there is one controller, with a uid. -/
def ControlledBy (uid : String) (owners : List OwnerRef) : Prop :=
  (owners.filter (·.controller)).map (·.uid) = [uid]

namespace World

/-- The owners of the secret at a place, if there is one. -/
def ownersAt (place : ObjectKey) (w : World) : Option (List OwnerRef) :=
  (w.secrets.get? place).map SecretObject.ownerRefs

/-- Every secret carries the name and the namespace that it is stored under. -/
def NamesPlaces (w : World) : Prop :=
  ∀ place object, w.secrets.get? place = some object →
    object.fields.name = some place.name ∧ object.fields.ns = some place.ns

private theorem ownersAt_withSecret (place other : ObjectKey) (object : SecretObject) (w : World) :
    (w.withSecret other object).ownersAt place =
      if other = place then some object.ownerRefs else w.ownersAt place := by
  rw [ownersAt, withSecret, Dict.get?_insert]
  split <;> rfl

/-- What is written of a secret where it belongs carries its place. -/
theorem NamesPlaces.withSecret {w : World} (names : w.NamesPlaces) {s : Secret} {other : ObjectKey}
    (hname : s.name = other.name) (uid : Option String) (version : String) :
    (w.withSecret other (s.toObject.stored (some other.ns) uid version)).NamesPlaces := by
  intro place object hobject
  rw [World.withSecret, Dict.get?_insert] at hobject
  split at hobject
  · next heq =>
    cases hobject
    cases heq
    exact ⟨congrArg some hname, rfl⟩
  · exact names place object hobject

end World

namespace Secret

/-- What is read of a secret are its owners, and the place that it carries. -/
theorem owners_ofObject {object : SecretObject} {s : Secret} (h : ofObject object = .ok s) :
    s.owners = object.ownerRefs ∧ s.name = object.fields.name.getD "" ∧
      s.ns = object.fields.ns := by
  rw [ofObject_fields h]
  exact ⟨rfl, rfl, rfl⟩

/-- The owners of a secret are stored with it. -/
theorem ownerRefs_stored (s : Secret) (ns uid : Option String) (version : String) :
    (s.toObject.stored ns uid version).ownerRefs = s.owners :=
  (owners_ofObject (ofObject_stored s ns uid version)).1.symm

/-- A target is created with its declaration as its controller and its only owner. -/
theorem owners_shell {d : Declaration} {shell : Secret} (h : (Secret.shell d).own d = .ok shell) :
    ∃ uid, d.uid = some uid ∧ shell.owners = [controllerRef d uid] := by
  obtain ⟨uid, huid, -, howners⟩ := (isShell_stored h none none "").owner
  refine ⟨uid, huid, ?_⟩
  rw [← ownerRefs_stored shell none none "", SecretObject.ownerRefs, howners]
  rfl

/-- The check for another controller fails on a secret that has one only. -/
theorem own_eq_controlledByOther {d : Declaration} {s : Secret} {secret kind name : String}
    (h : s.own d = .error (.controlledByOther secret kind name)) :
    ∃ o ∈ s.owners, o.controller = true ∧ o.uid ≠ d.uid.getD "" := by
  unfold own at h
  dsimp only at h
  split at h
  · cases h
  · split at h
    · cases h
    · split at h
      · next o hfind =>
        have ho := List.find?_some hfind
        rw [Bool.and_eq_true, decide_eq_true_eq] at ho
        exact ⟨o, List.mem_of_find?_eq_some hfind, ho⟩
      · cases h

/-- It is made on a secret without owners, so it never fails. -/
theorem own_shell_ne_controlledByOther (d : Declaration) (secret kind name : String) :
    (Secret.shell d).own d ≠ .error (.controlledByOther secret kind name) := by
  intro h
  obtain ⟨o, ho, -⟩ := own_eq_controlledByOther h
  cases ho

end Secret

namespace Sync

open Act

/-- A world has come from another one without change to a secret, and all secrets still carry their
places if they did. -/
structure KeepsPlace (place : ObjectKey) (v u : World) : Prop where
  secret : KeepsSecret place v u
  names : v.NamesPlaces → u.NamesPlaces

/-- The owners of a secret are as they were, or a declaration has become the only owner of one that
was not there. -/
def Owned (d : Declaration) (place : ObjectKey) (v u : World) : Prop :=
  u.ownersAt place = v.ownersAt place ∨
    v.ownersAt place = none ∧ d.targetKey = place ∧
      ∃ uid, d.uid = some uid ∧ u.ownersAt place = some [Secret.controllerRef d uid]

variable {key place : ObjectKey} {d : Declaration} {s : Secret} {v u w w' : World}
  {settings : Settings} {ms : List Moment}

/-- Keeping a secret's place can be relied on. -/
theorem keepsPlace_rely : Rely (KeepsPlace place) where
  trans h h' := ⟨keepsSecret_rely.trans h.secret h'.secret, h'.names ∘ h.names⟩
  objects hdeclarations hsecrets := by
    refine ⟨keepsSecret_rely.objects hdeclarations hsecrets, ?_⟩
    unfold World.NamesPlaces
    rw [hsecrets]
    exact id

private theorem KeepsPlace.ownersAt (h : KeepsPlace place v u) :
    u.ownersAt place = v.ownersAt place := by
  rw [World.ownersAt, h.secret, World.ownersAt]

/-! ### Steps of a reconcile -/

/-- A target that was read or created has the owners that are stored at its place. -/
theorem targetRead_owners (hothers : w.OthersKeep (KeepsPlace place))
    (names : w.NamesPlaces) (h : TargetRead settings key d w ms s w') :
    w'.OthersKeep (KeepsPlace place) ∧ w'.NamesPlaces ∧ Owned d place w w' ∧
      (s.place = place → w'.ownersAt place = some s.owners) ∧
      (s.place = ⟨key.ns, d.spec.secretName⟩ ∨ s.place = d.targetKey) := by
  cases h with
  | @found _ object _ read passage stored holds =>
    obtain ⟨hkept, hothers'⟩ := passage.keeps keepsPlace_rely hothers
    have hnames := hkept.names names
    obtain ⟨howners, hname, hns⟩ := Secret.owners_ofObject holds
    have hplace : s.place = ⟨key.ns, d.spec.secretName⟩ := by
      obtain ⟨hstoredName, hstoredNs⟩ := hnames _ _ stored
      rw [Secret.place, hname, hns, hstoredName, hstoredNs]
      rfl
    refine ⟨hothers', hnames, Or.inl hkept.ownersAt, ?_, Or.inl hplace⟩
    rintro rfl
    rw [hplace, World.ownersAt, stored, Option.map_some, howners]
  | @created x _ shell read sent uid passage owned free after =>
    obtain ⟨hx, hothersx⟩ := passage.keeps keepsPlace_rely hothers
    obtain ⟨hw', hothers'⟩ := after.keeps keepsPlace_rely hothersx
    obtain ⟨own, huid, howners⟩ := Secret.owners_shell owned
    have hshell := Secret.own_cases owned
    have hname : shell.name = d.targetKey.name := by
      rw [hshell]
      rfl
    have hplace := (Secret.blank_shell owned uid (some x.newVersion)).2
    have hleft := hw'.ownersAt
    rw [World.ownersAt_withSecret, Secret.ownerRefs_stored] at hleft
    refine ⟨hothers', hw'.names ((hx.names names).withSecret hname uid _), ?_, ?_, Or.inr hplace⟩
    · by_cases heq : d.targetKey = place
      · rw [if_pos heq, howners] at hleft
        refine Or.inr ⟨?_, heq, own, huid, hleft⟩
        rw [← hx.ownersAt, World.ownersAt, ← heq, free, Option.map_none]
      · rw [if_neg heq, hx.ownersAt] at hleft
        exact Or.inl hleft
    · intro heq
      rw [if_pos (hplace.symm.trans heq)] at hleft
      exact hleft

/-- A target is replaced with the owners that it had when it was read. -/
theorem refilled_owners {values : Data} (hothers : w.OthersKeep (KeepsPlace place))
    (names : w.NamesPlaces) (hs : s.place = place → w.ownersAt place = some s.owners)
    (h : Refilled settings key d values s w ms w') :
    w'.OthersKeep (KeepsPlace place) ∧ w'.NamesPlaces ∧ w'.ownersAt place = w.ownersAt place := by
  cases h with
  | @mk x _ restored filled old now sent restores refills passage stored current after =>
    obtain ⟨hx, hothersx⟩ := passage.keeps keepsPlace_rely hothers
    obtain ⟨hw', hothers'⟩ := after.keeps keepsPlace_rely hothersx
    have howners : filled.owners = s.owners := by
      rw [(refill_cases refills).2.2, restored_cases restores]
    refine ⟨hothers', hw'.names ((hx.names names).withSecret rfl _ _), ?_⟩
    rw [hw'.ownersAt, World.ownersAt_withSecret, Secret.ownerRefs_stored, howners]
    split
    · next heq => exact (hs ((place_of_refill restores refills).symm.trans heq)).symm
    · exact hx.ownersAt

/-- An attempt changes no owners; it may create a target with one owner. -/
theorem attempted_owners {ending : Except Failure Progress}
    (hothers : w.OthersKeep (KeepsPlace place)) (names : w.NamesPlaces)
    (h : Attempted settings key d w ms ending w') :
    w'.OthersKeep (KeepsPlace place) ∧ w'.NamesPlaces ∧ Owned d place w w' ∧
      (ending = .ok .written → d.key = key → d.targetKey = place → w'.ownersAt place ≠ none) := by
  cases h with
  | abandoned failure passage =>
    obtain ⟨hkept, hothers'⟩ := passage.keeps keepsPlace_rely hothers
    exact ⟨hothers', hkept.names names, Or.inl hkept.ownersAt, nofun⟩
  | unchanged pulled quiet after =>
    obtain ⟨hv, hothersv⟩ := pulled.toPassage.keeps keepsPlace_rely hothers
    obtain ⟨hw', hothers'⟩ := after.keeps keepsPlace_rely hothersv
    have hkept := keepsPlace_rely.trans hv hw'
    exact ⟨hothers', hkept.names names, Or.inl hkept.ownersAt, nofun⟩
  | unfilled failure pulled changed target after =>
    obtain ⟨hv, hothersv⟩ := pulled.toPassage.keeps keepsPlace_rely hothers
    obtain ⟨hothersu, namesu, howned, -⟩ := targetRead_owners hothersv (hv.names names) target
    obtain ⟨hw', hothers'⟩ := after.keeps keepsPlace_rely hothersu
    refine ⟨hothers', hw'.names namesu, ?_, nofun⟩
    rw [Owned, hw'.ownersAt, ← hv.ownersAt]
    exact howned
  | @written _ x _ _ _ _ _ s pulled changed target refilled =>
    obtain ⟨hv, hothersv⟩ := pulled.toPassage.keeps keepsPlace_rely hothers
    obtain ⟨hothersu, namesu, howned, hstored, hplace⟩ :=
      targetRead_owners hothersv (hv.names names) target
    obtain ⟨hothers', names', hsame⟩ := refilled_owners hothersu namesu hstored refilled
    refine ⟨hothers', names', ?_, ?_⟩
    · rw [Owned, hsame, ← hv.ownersAt]
      exact howned
    · rintro - rfl htarget
      rw [hsame, hstored (hplace.elim (fun h => h.trans htarget) (fun h => h.trans htarget))]
      nofun

/-- Recording the status keeps every place, if others do. -/
theorem recorded_place {record : Time.Instant → Declaration}
    (hothers : w.OthersKeep (KeepsPlace place)) (h : Recorded settings record w ms w') :
    KeepsPlace place w w' := by
  cases h with
  | refused now sent passage => exact (passage.keeps keepsPlace_rely hothers).1
  | written now sent passage stored after =>
    obtain ⟨hx, hothersx⟩ := passage.keeps keepsPlace_rely hothers
    obtain ⟨hu, -⟩ := after.keeps keepsPlace_rely hothersx
    exact keepsPlace_rely.trans hx ⟨hu.secret, hu.names⟩

/-! ### Reconciles -/

/-- A round found a declaration whose target was not there, and left the target with a reference to
this declaration as its only owner. -/
def Round.Founds (key place : ObjectKey) (ref : OwnerRef) (r : Round) : Prop :=
  r.before.ownersAt place = none ∧ r.after.ownersAt place = some [ref] ∧
    ∃ object d uid, r.before.interlude.declarations.get? key = some object ∧
      Declaration.ofObject object = .ok d ∧ d.targetKey = place ∧ d.uid = some uid ∧
      ref = Secret.controllerRef d uid

/-- A reconcile leaves the owners of a secret, or creates it as the target of its declaration.  One
that is written is there. -/
theorem reconcile_owners {ending : Except Escape Result}
    (hothers : w.OthersKeep (KeepsPlace place)) (names : w.NamesPlaces)
    (h : Ends (reconcile settings key).run w ending w') :
    w'.NamesPlaces ∧
      (w'.ownersAt place = w.ownersAt place ∨ ∃ ref, Round.Founds key place ref ⟨w, ending, w'⟩) ∧
      (outcome? ending = some .synced → ∀ object d,
        w.interlude.declarations.get? key = some object → Declaration.ofObject object = .ok d →
        d.key = key → d.targetKey = place → w'.ownersAt place ≠ none) := by
  obtain ⟨_, result, rfl, hpass, houtcome, -⟩ |
    ⟨left, d, asked, now, x, hleft, hd, hfound, hgoes⟩ := reconcile_reads h
  · have hkept := (hpass.keeps keepsPlace_rely hothers).1
    refine ⟨hkept.names names, Or.inl hkept.ownersAt, fun hsynced => ?_⟩
    obtain ho | ho := houtcome <;> cases ho.symm.trans (Option.some.inj hsynced)
  obtain ⟨hx, hothersx⟩ := hfound.toPassage.keeps keepsPlace_rely hothers
  split at hgoes
  · obtain ⟨rfl, rfl⟩ := hgoes
    refine ⟨hx.names names, Or.inl hx.ownersAt, fun hsynced => ?_⟩
    cases hsynced
  · obtain ⟨rfl, rfl⟩ := hgoes
    refine ⟨hx.names names, Or.inl hx.ownersAt, fun hsynced => ?_⟩
    cases hsynced
  · obtain ⟨ending, ms, ms', y, htried, hrecorded, rfl⟩ | ⟨_, _, hgarbled, rfl⟩ := hgoes
    case inr =>
      obtain ⟨hw', -⟩ := hgarbled.toPassage.keeps keepsPlace_rely hothersx
      have hkept := keepsPlace_rely.trans hx hw'
      refine ⟨hkept.names names, Or.inl hkept.ownersAt, fun hsynced => ?_⟩
      cases hsynced
    obtain ⟨hothersy, namesy, howned, hthere⟩ := attempted_owners hothersx (hx.names names) htried
    have hlast := recorded_place hothersy hrecorded
    refine ⟨hlast.names namesy, ?_, ?_⟩
    · obtain hsame | ⟨hfree, htarget, uid, huid, hnew⟩ := howned
      · exact Or.inl (hlast.ownersAt.trans (hsame.trans hx.ownersAt))
      · exact Or.inr ⟨_, hx.ownersAt.symm.trans hfree, hlast.ownersAt.trans hnew, left, d, uid,
          hleft, hd, htarget, huid, rfl⟩
    · intro hsynced object d' hobject hd' hkey htarget
      cases hleft.symm.trans hobject
      cases hd.symm.trans hd'
      rw [hlast.ownersAt]
      refine hthere ?_ hkey htarget
      cases ending with
      | error failure => cases hsynced
      | ok progress =>
        cases progress with
        | unchanged => cases hsynced
        | written => rfl

/-! ### Runs of several declarations -/

/-- Others have left a secret as it was, and will, and store all secrets under their names. -/
structure Untouched (place : ObjectKey) (v u : World) : Prop where
  keeps : KeepsPlace place v u
  others : u.OthersKeep (KeepsPlace place)

/-- A run of reconciles of whatever declarations, while others leave the secret at a place alone. -/
inductive Reconciles (place : ObjectKey) : World → List (ObjectKey × Round) → World → Prop
  | start (w : World) : Reconciles place w [] w
  | round {w v u w' : World} {rounds : List (ObjectKey × Round)} {settings : Settings}
    {key : ObjectKey} {ending : Except Escape Result} (earlier : Reconciles place w rounds v)
    (between : Untouched place v u) (ends : Ends (reconcile settings key).run u ending w') :
    Reconciles place w (rounds ++ [(key, ⟨u, ending, w'⟩)]) w'

/-- Along a run a secret has the owners that it had at the start, or that the round gave it which
created it. -/
theorem Reconciles.owners {rounds : List (ObjectKey × Round)} (names : w.NamesPlaces)
    (run : Reconciles place w rounds w') :
    w'.NamesPlaces ∧ (w'.ownersAt place = w.ownersAt place ∨ w.ownersAt place = none ∧
      ∃ entry ∈ rounds, ∃ ref, entry.2.Founds entry.1 place ref ∧
        w'.ownersAt place = some [ref]) := by
  induction run with
  | start => exact ⟨names, Or.inl rfl⟩
  | @round v u w' rounds settings key ending earlier between ends ih =>
    obtain ⟨namesv, howners⟩ := ih
    have namesu := between.keeps.names namesv
    rw [← between.keeps.ownersAt] at howners
    obtain ⟨names', hstep, -⟩ := reconcile_owners between.others namesu ends
    refine ⟨names', ?_⟩
    obtain hsame | ⟨ref, hfounds⟩ := hstep
    · rw [hsame]
      refine howners.imp_right (fun ⟨hfree, entry, hentry, hrest⟩ => ?_)
      exact ⟨hfree, entry, List.mem_append_left _ hentry, hrest⟩
    · -- A secret that the round creates was not there at the start either: it has never been.
      have hfree : w.ownersAt place = none := by
        obtain hstart | ⟨hfree, -⟩ := howners
        · exact hstart.symm.trans hfounds.1
        · exact hfree
      refine Or.inr ⟨hfree, _, List.mem_append_right _ List.mem_cons_self, ref, hfounds, ?_⟩
      exact hfounds.2.1

/-- In every run of reconciles of whatever declarations, while others leave the target alone: a
reconcile that writes the target of a declaration leaves it with the owners that it has found there,
whoever they are; these are the owners from the start of the run, or the one that an earlier round
gave it which created it.  So the declaration is its one controller exactly if the reconcile has
created the target or the declaration was its one controller before. -/
theorem controlled_alone_iff {rounds : List (ObjectKey × Round)} {result : Result} {object : Json}
    {uid : String} (names : w.NamesPlaces) (run : Reconciles place w rounds v)
    (between : Untouched place v u)
    (ends : Ends (reconcile settings key).run u (.ok result) w')
    (synced : result.outcome = .synced) (found : u.interlude.declarations.get? key = some object)
    (holds : Declaration.ofObject object = .ok d) (own : d.key = key)
    (target : d.targetKey = place) (identified : d.uid = some uid) :
    (u.ownersAt place = w.ownersAt place ∨ w.ownersAt place = none ∧
      ∃ entry ∈ rounds, ∃ ref, entry.2.Founds entry.1 place ref ∧
        u.ownersAt place = some [ref]) ∧
    (u.ownersAt place ≠ none → w'.ownersAt place = u.ownersAt place) ∧
    ((∃ owners, w'.ownersAt place = some owners ∧ ControlledBy uid owners) ↔
      u.ownersAt place = none ∨
        ∃ owners, u.ownersAt place = some owners ∧ ControlledBy uid owners) := by
  obtain ⟨namesv, howners⟩ := run.owners names
  rw [← between.keeps.ownersAt] at howners
  obtain ⟨-, hstep, hthere⟩ :=
    reconcile_owners between.others (between.keeps.names namesv) ends
  have hthere := hthere (congrArg some synced) object d found holds own target
  refine ⟨howners, ?_⟩
  obtain hsame | ⟨ref, hfree, hleft, object', d', uid', hobject', hd', -, huid', rfl⟩ := hstep
  · rw [hsame] at hthere ⊢
    exact ⟨fun _ => rfl, Or.inr, fun h => h.resolve_left hthere⟩
  · cases found.symm.trans hobject'
    cases holds.symm.trans hd'
    cases identified.symm.trans huid'
    exact ⟨fun hne => (hne hfree).elim, fun _ => Or.inl hfree, fun _ => ⟨_, hleft, rfl⟩⟩

namespace Sample

/-- A reference of another declaration to its target. -/
def otherOwner : OwnerObject :=
  ⟨Declaration.groupVersion, Declaration.kind, "other", "u2", some true, some true⟩

/-- The metadata of a secret that another declaration controls, or that has no owners. -/
def metadata (name : String) (owners : Option (List OwnerObject)) : SecretMetadata :=
  ⟨some name, some "default", some "s1", some "7", none, none, owners⟩

/-- The secret with the access token, under its name. -/
def namedAuth : SecretObject :=
  { auth with metadata := some (metadata "auth" none) }

/-- Two values are to be synced, and the target has owners. -/
def targetWorld (owners : Option (List OwnerObject)) : World :=
  { world [] (session .zero [("a", "1")]) with
    secrets := Dict.ofList [(⟨"default", "auth"⟩, namedAuth),
      (⟨"default", "app-env"⟩, ⟨none, some (metadata "app-env" owners), none, none, none⟩)] }

/-- The target of the declaration. -/
def target : ObjectKey := ⟨"default", "app-env"⟩

/-- Another declaration with the same target. -/
def otherKey : ObjectKey := ⟨"default", "other"⟩

/-- Two declarations share a target that is not there yet. -/
def sharedWorld : World :=
  { world [] .quiet with
    declarations := Dict.ofList [(Sample.key, object []),
      (otherKey, (object []).setMember "metadata" (.obj [("name", .str "other"),
        ("namespace", .str "default"), ("uid", .str "u2")]))]
    secrets := Dict.ofList [(⟨"default", "auth"⟩, namedAuth)]
    sessions := [session .zero [("a", "1")], session .zero [("b", "2")]] }

/-- The world behind the reconcile of the first one. -/
def takenWorld : World := (StateT.run (reconcile Sample.settings Sample.key).run sharedWorld).2

/-- What is told of the second one when it is reconciled. -/
def otherRead? : Option (ObjectKey × ObjectKey × Option String) := do
  let object ← takenWorld.interlude.declarations.get? otherKey
  let d ← (Declaration.ofObject object).toOption
  return (d.key, d.targetKey, d.uid)

private theorem namesPlaces_sharedWorld : sharedWorld.NamesPlaces := by
  intro place object hobject
  have hmem := Dict.mem_entries_iff.mpr hobject
  have hentries : sharedWorld.secrets.entries = [(⟨"default", "auth"⟩, namedAuth)] := rfl
  rw [hentries] at hmem
  cases List.mem_singleton.mp hmem
  exact ⟨rfl, rfl⟩

private theorem untouched_of_isEmpty {v : World} (hothers : v.others.isEmpty = true) :
    Untouched target v v :=
  ⟨keepsPlace_rely.refl v, World.othersKeep_of_isEmpty hothers⟩

end Sample

set_option maxRecDepth 10000 in
/-- The statement at two declarations that share their target. -/
theorem controlled_alone_iff_shared_target :
    ∃ (rounds : List (ObjectKey × Round)) (w' : World) (result : Result) (object : Json)
        (d : Declaration),
      let w := Sample.sharedWorld
      let u := Sample.takenWorld
      w.NamesPlaces ∧ Reconciles Sample.target w rounds u ∧ Untouched Sample.target u u ∧
      Ends (reconcile Sample.settings Sample.otherKey).run u (.ok result) w' ∧
      result.outcome = .synced ∧ u.interlude.declarations.get? Sample.otherKey = some object ∧
      Declaration.ofObject object = .ok d ∧ d.key = Sample.otherKey ∧
      d.targetKey = Sample.target ∧ d.uid = some "u2" ∧
      (u.ownersAt Sample.target = w.ownersAt Sample.target ∨ w.ownersAt Sample.target = none ∧
        ∃ entry ∈ rounds, ∃ ref, entry.2.Founds entry.1 Sample.target ref ∧
          u.ownersAt Sample.target = some [ref]) ∧
      (u.ownersAt Sample.target ≠ none →
        w'.ownersAt Sample.target = u.ownersAt Sample.target) ∧
      ((∃ owners, w'.ownersAt Sample.target = some owners ∧ ControlledBy "u2" owners) ↔
        u.ownersAt Sample.target = none ∨
          ∃ owners, u.ownersAt Sample.target = some owners ∧ ControlledBy "u2" owners) := by
  have hrun : Reconciles Sample.target Sample.sharedWorld _ Sample.takenWorld :=
    .round (.start _) (Sample.untouched_of_isEmpty rfl)
      (ends_self (reconcile Sample.settings Sample.key).run Sample.sharedWorld)
  have hbetween : Untouched Sample.target Sample.takenWorld Sample.takenWorld :=
    Sample.untouched_of_isEmpty (by decide +kernel)
  have houtcome : outcome? (StateT.run (reconcile Sample.settings Sample.otherKey).run
      Sample.takenWorld).1 = some .synced := by decide +kernel
  obtain ⟨result, hresult, hends⟩ := exists_result houtcome
  have hread : Sample.otherRead? = some (Sample.otherKey, Sample.target, some "u2") := by
    decide +kernel
  obtain ⟨object, hobject, hread⟩ := Option.bind_eq_some_iff.mp hread
  obtain ⟨d, hd, hread⟩ := Option.bind_eq_some_iff.mp hread
  obtain ⟨hkey, htarget, huid⟩ : d.key = _ ∧ d.targetKey = _ ∧ d.uid = _ := by
    simpa using hread
  have hd := eq_ok_of_toOption hd
  exact ⟨_, _, result, object, d, Sample.namesPlaces_sharedWorld, hrun, hbetween, hends, hresult,
    hobject, hd, hkey, htarget, huid,
    controlled_alone_iff Sample.namesPlaces_sharedWorld hrun hbetween hends hresult hobject hd hkey
      htarget huid⟩

set_option maxRecDepth 10000 in
/-- The target of a declaration is controlled by another one.  A reconcile writes it all the same,
and leaves it with the other controller. -/
theorem foreign_target_written :
    let w := Sample.targetWorld (some [Sample.otherOwner])
    let run := StateT.run (reconcile Sample.settings Sample.key).run w
    w.ownersAt Sample.target = some [OwnerRef.ofObject Sample.otherOwner] ∧
      outcome? run.1 = some .synced ∧
      (run.2.history.any fun m => match m with
        | .call (.replaceSecret place _ _) _ => place = Sample.target
        | _ => false) = true ∧
      run.2.ownersAt Sample.target = some [OwnerRef.ofObject Sample.otherOwner] := by
  decide +kernel

end Sync
end SecretSync

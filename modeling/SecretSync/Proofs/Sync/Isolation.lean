import SecretSync.Proofs.Sync.Advance
import SecretSync.Proofs.Sync.Locality
import SecretSync.Proofs.Sync.Ownership

/-!
# A reconcile changes its own declaration and target only

Of the declaration a reconcile writes the status, and of all secrets the target.  A target that was
there is replaced as a whole: its type, its labels, its owners and the annotations of others are
read and written back, with gaps filled.
-/

namespace SecretSync

open Act World

/-! ### What is written -/

/-- An object differs from an older one at most in its status and in the version of its metadata. -/
structure StatusOnly (old new : Json) : Prop where
  members : ∀ name, name ≠ "status" → name ≠ "metadata" → new.member? name = old.member? name
  metadata : ∀ name, name ≠ "resourceVersion" →
    ((new.member? "metadata").getD .null).member? name =
      ((old.member? "metadata").getD .null).member? name

private theorem statusOnly_patched (object body : Json) (version : String) :
    StatusOnly object (Cluster.patched object body version) := by
  constructor
  · intro name hstatus hmetadata
    rw [Declaration.member?_eq_lookup, Declaration.member?_eq_lookup]
    change Dict.lookup name (Dict.put "metadata" _ (Dict.put "status" _ object.members)) = _
    rw [Dict.lookup_put, if_neg hmetadata.symm, Dict.lookup_put, if_neg hstatus.symm]
  · intro name hversion
    have hwritten : (Cluster.patched object body version).member? "metadata" =
        some (((object.member? "metadata").getD .null).setMember "resourceVersion"
          (.str version)) := by
      change Dict.lookup "metadata" (Dict.put "metadata" _ _) = _
      rw [Dict.lookup_put, if_pos rfl]
    rw [hwritten, Option.getD_some]
    generalize (object.member? "metadata").getD .null = metadata
    rw [Declaration.member?_eq_lookup, Declaration.member?_eq_lookup]
    change Dict.lookup name (Dict.put "resourceVersion" _ metadata.members) = _
    rw [Dict.lookup_put, if_neg hversion.symm]

/-- A stored secret has the type, the labels, the owners and the annotations of an older one, the
annotations of the operator apart; gaps are filled. -/
structure SecretObject.Preserves (old new : SecretObject) : Prop where
  type : new.type = some (old.type.getD Secret.opaqueType)
  labels : new.fields.labels = some (old.fields.labels.getD Dict.empty)
  owners : new.fields.owners.getD [] =
    (old.fields.owners.getD []).map (fun o => (OwnerRef.ofObject o).toObject)
  annotations : ∀ name, name ≠ Annotation.syncTime → name ≠ Annotation.customMap →
    (new.fields.annotations.getD Dict.empty).get? name =
      (old.fields.annotations.getD Dict.empty).get? name

/-- A target that was read, refilled and written preserves what was there. -/
theorem Secret.preserves_stored {old : SecretObject} {a restored filled : Secret}
    {mapFault : Option String} {key : ObjectKey} {d : Declaration} {values : Data}
    {now : Time.Instant} (holds : Secret.ofObject old = .ok a)
    (restores : Sync.restored a = .ok restored)
    (refills : Sync.refill mapFault key d values now restored = .ok filled)
    (ns uid : Option String) (version : String) :
    old.Preserves (filled.toObject.stored ns uid version) := by
  have hread := Secret.ofObject_fields holds
  have hrestored := Sync.restored_cases restores
  have hfilled := (Sync.refill_cases refills).2.2
  refine ⟨?_, ?_, ?_, ?_⟩
  · change some filled.type = _
    rw [hfilled, hrestored, hread]
  · change some filled.labels = _
    rw [hfilled, hrestored, hread]
  · have howners : filled.owners = (old.fields.owners.getD []).map OwnerRef.ofObject := by
      rw [hfilled, hrestored, hread]
    change (if filled.owners.isEmpty then none else some (filled.owners.map OwnerRef.toObject)).getD
      [] = _
    rw [howners]
    cases old.fields.owners.getD [] with
    | nil => rfl
    | cons o owners => exact List.map_map
  · intro name hsync hmap
    change filled.annotations.get? name = _
    have hannotations : a.annotations = old.fields.annotations.getD Dict.empty :=
      congrArg Secret.annotations hread
    rw [Sync.get?_refill refills hsync hmap, hrestored, hannotations]

namespace Sync

variable {s : Scope} {settings : Settings} {d : Declaration} {place key : ObjectKey}
  {v u w w' : World} {ms : List Moment}

/-! ### Declarations -/

/-- Of all declarations a record changes its own, and of that the status. -/
theorem recorded_declaration {ending : Except Failure Progress}
    (hothers : v.OthersKeep (KeepsDeclaration key))
    (h : Recorded settings (recorded s.key d ending) v ms u) :
    KeepsDeclaration key v u ∨ d.key = key ∧ ∃ old new, v.declarations.get? key = some old ∧
      u.declarations.get? key = some new ∧ StatusOnly old new := by
  cases h with
  | refused now sent passage => exact Or.inl (passage.keeps keepsDeclaration_rely hothers).1
  | @written x _ old now sent passage stored after =>
    obtain ⟨hx, hothersx⟩ := passage.keeps keepsDeclaration_rely hothers
    have hu := (after.keeps keepsDeclaration_rely hothersx).1
    rw [key_recorded] at stored hu
    rw [KeepsDeclaration, World.withDeclaration, Dict.get?_insert] at hu
    by_cases heq : d.key = key
    · rw [if_pos heq] at hu
      rw [heq, hx] at stored
      exact Or.inr ⟨heq, old, _, stored, hu, statusOnly_patched _ _ _⟩
    · rw [if_neg heq] at hu
      exact Or.inl (hu.trans hx)

/-- Of all declarations a reconcile changes its own, and of that the status. -/
theorem reconcile_declaration {ending : Except Escape Result} (declares : w.Declares s)
    (hothers : w.OthersKeep (KeepsDeclaration key))
    (h : Ends (reconcile settings s.key).run w ending w') :
    KeepsDeclaration key w w' ∨ s.key = key ∧ ∃ old new, w.declarations.get? key = some old ∧
      w'.declarations.get? key = some new ∧ StatusOnly old new := by
  obtain ⟨_, _, -, hpass, -⟩ | ⟨object, d, _, _, x, hobject, hd, hfound, hgoes⟩ :=
    reconcile_reads h
  · exact Or.inl (hpass.keeps keepsDeclaration_rely hothers).1
  · obtain ⟨hx, hothersx⟩ := hfound.toPassage.keeps keepsDeclaration_rely hothers
    split at hgoes
    · obtain ⟨-, rfl⟩ := hgoes
      exact Or.inl hx
    · obtain ⟨-, rfl⟩ := hgoes
      exact Or.inl hx
    · obtain ⟨ending, ms, ms', y, htried, hrecorded, -⟩ | ⟨_, _, hgarbled, -⟩ := hgoes
      case inr =>
        obtain ⟨hw', -⟩ := hgarbled.toPassage.keeps keepsDeclaration_rely hothersx
        exact Or.inl (keepsDeclaration_rely.trans hx hw')
      obtain ⟨hy, hothersy⟩ :=
        htried.keeps keepsDeclaration_rely keepsDeclaration_withSecret hothersx
      have hkept := keepsDeclaration_rely.trans hx hy
      refine (recorded_declaration hothersy hrecorded).imp (keepsDeclaration_rely.trans hkept) ?_
      rintro ⟨heq, old, new, hold, hnew, hstatus⟩
      exact ⟨(declares object d hobject hd).key.symm.trans heq, old, new, hkept ▸ hold, hnew,
        hstatus⟩

/-! ### Secrets -/

/-- A target is read or created where the scope says. -/
theorem targetRead_place {a : Secret} (hd : d.LiesIn s) (named : w.NamesPlace s.target)
    (untouched : w.OthersKeep (KeepsSecret s.target))
    (h : TargetRead settings s.key d w ms a w') : a.place = s.target := by
  cases h with
  | @found _ object _ read passage stored holds =>
    rw [← hd.target] at stored
    obtain ⟨hname, hns⟩ := named.of_keeps (passage.keeps keepsSecret_rely untouched).1 object stored
    rw [Secret.place, Secret.ofObject_fields holds, hname, hns]
    rfl
  | created read sent uid passage owned free after =>
    exact (Secret.blank_shell owned uid _).2.trans hd.targetKey

private theorem targetRead_elsewhere {a : Secret} (hd : d.LiesIn s) (hne : s.target ≠ place)
    (hothers : w.OthersKeep (KeepsSecret place)) (h : TargetRead settings s.key d w ms a w') :
    KeepsSecret place w w' ∧ w'.OthersKeep (KeepsSecret place) := by
  cases h with
  | found read passage stored holds => exact passage.keeps keepsSecret_rely hothers
  | created read sent uid passage owned free after =>
    obtain ⟨hx, hothersx⟩ := passage.keeps keepsSecret_rely hothers
    obtain ⟨hw', hothers'⟩ := after.keeps keepsSecret_rely hothersx
    rw [hd.targetKey] at hw'
    exact ⟨keepsSecret_rely.trans hx (keepsSecret_rely.trans (keepsSecret_withSecret _ hne _) hw'),
      hothers'⟩

private theorem refilled_elsewhere {a : Secret} {values : Data} (ha : a.place = s.target)
    (hne : s.target ≠ place) (hothers : w.OthersKeep (KeepsSecret place))
    (h : Refilled settings s.key d values a w ms w') :
    KeepsSecret place w w' ∧ w'.OthersKeep (KeepsSecret place) := by
  cases h with
  | mk now sent restores refills passage stored current after =>
    obtain ⟨hx, hothersx⟩ := passage.keeps keepsSecret_rely hothers
    obtain ⟨hw', hothers'⟩ := after.keeps keepsSecret_rely hothersx
    rw [(place_of_refill restores refills).trans ha] at hw'
    exact ⟨keepsSecret_rely.trans hx (keepsSecret_rely.trans (keepsSecret_withSecret _ hne _) hw'),
      hothers'⟩

/-- An attempt writes no secret but the target. -/
theorem attempted_elsewhere {ending : Except Failure Progress} (hd : d.LiesIn s)
    (named : w.NamesPlace s.target) (untouched : w.OthersKeep (KeepsSecret s.target))
    (hne : s.target ≠ place) (hothers : w.OthersKeep (KeepsSecret place))
    (h : Attempted settings s.key d w ms ending w') :
    KeepsSecret place w w' ∧ w'.OthersKeep (KeepsSecret place) := by
  cases h with
  | abandoned failure passage => exact passage.keeps keepsSecret_rely hothers
  | unchanged pulled quiet after =>
    obtain ⟨hv, hothersv⟩ := pulled.toPassage.keeps keepsSecret_rely hothers
    obtain ⟨hw', hothers'⟩ := after.keeps keepsSecret_rely hothersv
    exact ⟨keepsSecret_rely.trans hv hw', hothers'⟩
  | unfilled failure pulled changed target after =>
    obtain ⟨hv, hothersv⟩ := pulled.toPassage.keeps keepsSecret_rely hothers
    obtain ⟨hu, hothersu⟩ := targetRead_elsewhere hd hne hothersv target
    obtain ⟨hw', hothers'⟩ := after.keeps keepsSecret_rely hothersu
    exact ⟨keepsSecret_rely.trans hv (keepsSecret_rely.trans hu hw'), hothers'⟩
  | written pulled changed target refilled =>
    obtain ⟨hv, hothersv⟩ := pulled.toPassage.keeps keepsSecret_rely hothers
    obtain ⟨hkept, untouchedv⟩ := pulled.toPassage.keeps keepsSecret_rely untouched
    obtain ⟨hu, hothersu⟩ := targetRead_elsewhere hd hne hothersv target
    have hplace := targetRead_place hd (named.of_keeps hkept) untouchedv target
    obtain ⟨hw', hothers'⟩ := refilled_elsewhere hplace hne hothersu refilled
    exact ⟨keepsSecret_rely.trans hv (keepsSecret_rely.trans hu hw'), hothers'⟩

/-- A target that was there is written with what was there, its values and the annotations of the
operator apart. -/
theorem attempted_preserves {old : SecretObject} (hd : d.LiesIn s)
    (named : w.NamesPlace s.target) (untouched : w.OthersKeep (KeepsSecret s.target))
    (hold : w.secrets.get? s.target = some old)
    (h : Attempted settings s.key d w ms (.ok .written) w') :
    ∃ new, w'.secrets.get? s.target = some new ∧ old.Preserves new ∧
      w'.OthersKeep (KeepsSecret s.target) := by
  cases h with
  | @written x y _ _ _ _ _ a pulled changed target refilled =>
    obtain ⟨hx, untouchedx⟩ := pulled.toPassage.keeps keepsSecret_rely untouched
    have hplace := targetRead_place hd (named.of_keeps hx) untouchedx target
    cases target with
    | @found _ object _ read passage stored holds =>
      obtain ⟨hy, untouchedy⟩ := passage.keeps keepsSecret_rely untouchedx
      rw [← hd.target, hy, hx, hold] at stored
      cases stored
      cases refilled with
      | mk now sent restores refills passage stored current after =>
        obtain ⟨-, untouchedz⟩ := passage.keeps keepsSecret_rely untouchedy
        obtain ⟨hw', untouched'⟩ := after.keeps keepsSecret_rely untouchedz
        rw [KeepsSecret, World.withSecret, Dict.get?_insert,
          if_pos ((place_of_refill restores refills).trans hplace)] at hw'
        exact ⟨_, hw', Secret.preserves_stored holds restores refills _ _ _, untouched'⟩
    | created read sent uid passage owned free after =>
      have hkept := (passage.keeps keepsSecret_rely untouchedx).1
      rw [hd.targetKey, hkept, hx, hold] at free
      cases free

/-- A reconcile writes no secret but the target, and a target that was there keeps what it had, its
values and the annotations of the operator apart. -/
theorem reconcile_secrets {ending : Except Escape Result} (declares : w.Declares s)
    (named : w.NamesPlace s.target) (untouched : w.OthersKeep (KeepsSecret s.target))
    (h : Ends (reconcile settings s.key).run w ending w') :
    (∀ place, s.target ≠ place → w.OthersKeep (KeepsSecret place) → KeepsSecret place w w') ∧
    ∀ old, outcome? ending = some .synced → w.secrets.get? s.target = some old →
      ∃ new, w'.secrets.get? s.target = some new ∧ old.Preserves new := by
  obtain ⟨_, result, rfl, hpass, houtcome, -⟩ |
    ⟨object, d, _, _, x, hobject, hd, hfound, hgoes⟩ := reconcile_reads h
  · refine ⟨fun place _ hothers => (hpass.keeps keepsSecret_rely hothers).1, fun _ hsynced => ?_⟩
    obtain ho | ho := houtcome <;> cases ho.symm.trans (Option.some.inj hsynced)
  have hlies := declares object d hobject hd
  obtain ⟨hx, untouchedx⟩ := hfound.toPassage.keeps keepsSecret_rely untouched
  split at hgoes
  · obtain ⟨rfl, rfl⟩ := hgoes
    refine ⟨fun place _ hothers => (hfound.toPassage.keeps keepsSecret_rely hothers).1, ?_⟩
    intro old hsynced
    cases hsynced
  · obtain ⟨rfl, rfl⟩ := hgoes
    refine ⟨fun place _ hothers => (hfound.toPassage.keeps keepsSecret_rely hothers).1, ?_⟩
    intro old hsynced
    cases hsynced
  · obtain ⟨ending, ms, ms', y, htried, hrecorded, rfl⟩ | ⟨_, _, hgarbled, rfl⟩ := hgoes
    case inr =>
      have hpass := hfound.toPassage.trans hgarbled.toPassage
      refine ⟨fun place _ hothers => (hpass.keeps keepsSecret_rely hothers).1, ?_⟩
      intro old hsynced
      cases hsynced
    constructor
    · intro place hne hothers
      obtain ⟨hplace, hothersx⟩ := hfound.toPassage.keeps keepsSecret_rely hothers
      obtain ⟨hy, hothersy⟩ :=
        attempted_elsewhere hlies (named.of_keeps hx) untouchedx hne hothersx htried
      exact keepsSecret_rely.trans hplace
        (keepsSecret_rely.trans hy (recorded_keepsSecret hothersy hrecorded))
    · intro old hsynced hold
      obtain (failure | progress) := ending
      · cases hsynced
      · cases progress with
        | unchanged => cases hsynced
        | written =>
          obtain ⟨new, hnew, hpreserves, untouchedy⟩ :=
            attempted_preserves hlies (named.of_keeps hx) untouchedx (hx ▸ hold) htried
          exact ⟨new, (recorded_keepsSecret untouchedy hrecorded).trans hnew, hpreserves⟩

/-! ### Isolation -/

/-- A declaration is reconciled apart from all others.  Its reconcile changes at most its status and
its target, and leaves every other object that others leave alone.  How it ends, the status and the
target that it leaves, up to the uid and the version, rest on its scope alone: the declaration, the
secret with its token, its target, the time, what waits to go wrong, and the next session.  A target
that was there keeps its type, its labels, its owners and the annotations of others when it is
written; a missing type is filled in. -/
theorem reconcile_isolated (settings : Settings) (declares : w.Declares s)
    (named : w.NamesPlace s.target) (untouched : w.OthersKeep (KeepsSecret s.target)) :
    let x := StateT.run (reconcile settings s.key).run w
    (∀ place, s.target ≠ place → w.OthersKeep (KeepsSecret place) → KeepsSecret place w x.2) ∧
    (∀ key, w.OthersKeep (KeepsDeclaration key) → KeepsDeclaration key w x.2 ∨
      s.key = key ∧ ∃ old new, w.declarations.get? key = some old ∧
        x.2.declarations.get? key = some new ∧ StatusOnly old new) ∧
    (∀ v, w.AgreeOn s v → w.session = v.session →
      let y := StateT.run (reconcile settings s.key).run v
      x.1 = y.1 ∧ LeftAlike s x.2 y.2) ∧
    (∀ old, outcome? x.1 = some .synced → w.secrets.get? s.target = some old →
      ∃ new, x.2.secrets.get? s.target = some new ∧ old.Preserves new) := by
  intro x
  have hends := ends_self (reconcile settings s.key).run w
  obtain ⟨hsecrets, hpreserves⟩ := reconcile_secrets declares named untouched hends
  refine ⟨hsecrets, ?_, ?_, hpreserves⟩
  · exact fun key hothers => reconcile_declaration declares hothers hends
  · intro v hagree hsession
    exact reconcile_agree ⟨⟨hagree, hsession⟩, declares⟩ hends (ends_self _ v)

namespace Sample

/-- The scope of the sample declaration. -/
def scope : Scope := ⟨Sample.key, ⟨"default", "auth"⟩, Sample.target⟩

/-- A target to which others have given a type, a label, an annotation and an owner. -/
def adorned (uid version : String) : SecretObject :=
  ⟨none, some ⟨some "app-env", some "default", some uid, some version,
    some (Dict.ofList [("team", " platform ")]), some (Dict.ofList [("note", "kept")]),
    some [otherOwner]⟩, some "custom", none, none⟩

/-- The sample declaration with such a target, and nothing else. -/
def loneWorld : World :=
  { world [] (session .zero [("a", "1")]) with
    secrets := Dict.ofList [(⟨"default", "auth"⟩, namedAuth), (target, adorned "s1" "7")] }

/-- The same among other objects, after some writes, and with a request to stop in between. -/
def crowdedWorld : World :=
  { loneWorld with
    declarations := Dict.ofList [(otherKey, object []), (Sample.key, object [])]
    secrets := Dict.ofList [(⟨"default", "other-env"⟩, adorned "s3" "4"),
      (⟨"default", "auth"⟩, namedAuth), (target, adorned "s2" "9")]
    version := 41
    others := [[.requestStop]] }

private theorem liesIn_object {d : Declaration} (h : Declaration.ofObject (object []) = .ok d) :
    d.LiesIn scope := by
  have hread : (Declaration.ofObject (object [])).toOption.map
      (fun d => (d.key, d.spec.authToken.secretName, d.spec.secretName)) =
      some (Sample.key, "auth", "app-env") := by decide +kernel
  rw [h] at hread
  obtain ⟨hkey, htoken, htarget⟩ : d.key = _ ∧ d.spec.authToken.secretName = _ ∧
      d.spec.secretName = _ := by simpa [Except.toOption] using hread
  exact ⟨hkey, by rw [htoken]; rfl, by rw [htarget]; rfl⟩

private theorem declares_crowdedWorld : crowdedWorld.Declares scope := by
  intro object d hobject hd
  have hstored : crowdedWorld.interlude.declarations.get? scope.key = some (Sample.object []) := rfl
  cases hstored.symm.trans hobject
  exact liesIn_object hd

private theorem namesPlace_crowdedWorld : crowdedWorld.NamesPlace scope.target := by
  intro object hobject
  have hstored : crowdedWorld.secrets.get? scope.target = some (adorned "s2" "9") := rfl
  cases hstored.symm.trans hobject
  exact ⟨rfl, rfl⟩

private theorem untouched_crowdedWorld : crowdedWorld.OthersKeep (KeepsSecret scope.target) := by
  intro deeds hdeeds deed hdeed v
  cases List.mem_singleton.mp hdeeds
  cases List.mem_singleton.mp hdeed
  rfl

private theorem agreeOn_crowdedWorld : crowdedWorld.AgreeOn scope loneWorld where
  footprint := rfl
  deeds n := by cases n <;> rfl
  untouched := untouched_crowdedWorld
  untouched' := World.othersKeep_of_isEmpty rfl
  named := namesPlace_crowdedWorld

end Sample

set_option maxRecDepth 10000 in
/-- The statement at a sync among other secrets and declarations. -/
theorem reconcile_isolated_among_others :
    let s := Sample.scope
    let w := Sample.crowdedWorld
    let v := Sample.loneWorld
    let x := StateT.run (reconcile Sample.settings s.key).run w
    let y := StateT.run (reconcile Sample.settings s.key).run v
    w.Declares s ∧ w.NamesPlace s.target ∧ w.OthersKeep (KeepsSecret s.target) ∧
      w.AgreeOn s v ∧ w.session = v.session ∧ outcome? x.1 = some .synced ∧
      w.secrets.get? s.target = some (Sample.adorned "s2" "9") ∧
      x.1 = y.1 ∧ LeftAlike s x.2 y.2 ∧
      (∃ new, x.2.secrets.get? s.target = some new ∧ (Sample.adorned "s2" "9").Preserves new) ∧
      KeepsSecret ⟨"default", "other-env"⟩ w x.2 ∧ KeepsDeclaration Sample.otherKey w x.2 := by
  intro s w v x y
  have houtcome : outcome? x.1 = some .synced := by decide +kernel
  have hothers : ∀ deeds ∈ w.others, ∀ deed ∈ deeds, deed = Disturbance.requestStop := by
    intro deeds hdeeds deed hdeed
    cases List.mem_singleton.mp hdeeds
    exact List.mem_singleton.mp hdeed
  obtain ⟨hsecrets, hdeclarations, hagrees, hpreserves⟩ := reconcile_isolated Sample.settings
    Sample.declares_crowdedWorld Sample.namesPlace_crowdedWorld Sample.untouched_crowdedWorld
  obtain ⟨hsame, hleft⟩ := hagrees v Sample.agreeOn_crowdedWorld rfl
  have hdeclaration := hdeclarations Sample.otherKey (fun deeds hdeeds deed hdeed u => by
    rw [hothers deeds hdeeds deed hdeed]
    rfl)
  refine ⟨Sample.declares_crowdedWorld, Sample.namesPlace_crowdedWorld,
    Sample.untouched_crowdedWorld, Sample.agreeOn_crowdedWorld, rfl, houtcome, rfl, hsame, hleft,
    hpreserves _ houtcome rfl, ?_, ?_⟩
  · refine hsecrets ⟨"default", "other-env"⟩ (by decide) (fun deeds hdeeds deed hdeed u => ?_)
    rw [hothers deeds hdeeds deed hdeed]
    rfl
  · exact hdeclaration.resolve_right (fun h => absurd h.1 (by decide))

/-- The secret at the place of the target carries the name of another one. -/
def Sample.misnamedWorld : World :=
  { Sample.world [] (Sample.session .zero [("a", "1")]) with
    secrets := Dict.ofList [(⟨"default", "auth"⟩, Sample.namedAuth),
      (Sample.target, ⟨none, some (Sample.metadata "other-env" none), some "Opaque", none, none⟩),
      (⟨"default", "other-env"⟩,
        ⟨none, some (Sample.metadata "other-env" none), some "Opaque", none, none⟩)] }

set_option maxRecDepth 10000 in
/-- A target without a type is written with one, and a target that carries another name than its own
leads the write to another secret. -/
theorem type_filled_and_misnamed_target_left :
    (let w := Sample.targetWorld none
      let x := StateT.run (reconcile Sample.settings Sample.key).run w
      outcome? x.1 = some .synced ∧
        (w.secrets.get? Sample.target).map (·.type) = some none ∧
        (x.2.secrets.get? Sample.target).map (·.type) = some (some "Opaque")) ∧
    (let w := Sample.misnamedWorld
      let x := StateT.run (reconcile Sample.settings Sample.key).run w
      outcome? x.1 = some .synced ∧
        x.2.secrets.get? Sample.target = w.secrets.get? Sample.target ∧
        x.2.secrets.get? ⟨"default", "other-env"⟩ ≠ w.secrets.get? ⟨"default", "other-env"⟩) ∧
    (Declaration.ofObject (Sample.object [])).toOption.map (·.key) = some Sample.key := by
  decide +kernel

end Sync
end SecretSync

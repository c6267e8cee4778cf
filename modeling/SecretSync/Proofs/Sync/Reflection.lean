import SecretSync.Proofs.Sync.Echo
import SecretSync.Proofs.Sync.Ownership

/-!
# Which key map a target reflects

A round that writes the target leaves it as the key map of the declaration that it has found makes
it, with this key map recorded.  A round that pulls no changes records the same success, but it
leaves the target; so what a target reflects is the key map of the last round that wrote it, which
need not be the one at which success was last recorded.
-/

namespace SecretSync

namespace Secret

/-- A secret is as a key map makes it: the annotation holds this key map, and there are no values
but under its keys.  Without a key map there is no annotation. -/
def Reflects (s : Secret) : Option KeyMap → Prop
  | none => s.annotations.get? Annotation.customMap = none
  | some m =>
    (∃ text, s.annotations.get? Annotation.customMap = some text ∧
      KeyMap.ofAnnotation text = .ok m) ∧
    ∀ key, s.value? key ≠ none → ∃ line ∈ m, line.keyName = key

/-- Values that a key map has made reflect it when it is recorded with them. -/
theorem Records.reflects {s : Secret} {m : Option KeyMap} {values : Data} (h : s.Records m)
    (hdata : s.data = KeyMap.applyOptional m values) : s.Reflects m := by
  cases m with
  | none => exact h
  | some m =>
    refine ⟨⟨m.serialize, h, KeyMap.ofAnnotation_serialize m⟩, fun key hvalue => ?_⟩
    rw [value?, hdata, KeyMap.applyOptional, KeyMap.get?_apply] at hvalue
    obtain ⟨v, hv⟩ := Option.ne_none_iff_exists'.mp hvalue
    obtain ⟨line, hline, hkey, -⟩ := KeyMap.exists_of_valueUnder hv
    exact ⟨line, hline, hkey⟩

end Secret

/-- The secret at a place is as a key map makes it. -/
def World.TargetReflects (place : ObjectKey) (m : Option KeyMap) (w : World) : Prop :=
  ∃ object s, w.secrets.get? place = some object ∧ Secret.ofObject object = .ok s ∧ s.Reflects m

namespace Sync

open Act

/-- A round found a declaration. -/
def Round.Finds (key : ObjectKey) (d : Declaration) (r : Round) : Prop :=
  ∃ object, r.before.interlude.declarations.get? key = some object ∧
    Declaration.ofObject object = .ok d

/-- A round that ended well stored success at a generation: it asked for a status whose conditions
the declaration has behind it, and there the condition of success is true and tells the
generation. -/
def Round.StoresSuccess (key : ObjectKey) (generation : Option Int) (r : Round) : Prop :=
  EndsWell r.ending ∧ ∃ (s : Status) (c : Condition) (object : Json) (timeout : Int)
      (t : Time.Instant),
    .call (.patchStatus key (.obj [("status", s.toJson)]) timeout) t ∈ r.moments ∧
    r.after.declarations.get? key = some object ∧
    (Declaration.statusOf object).member? "conditions" =
      some (.arr (s.conditions.map Condition.toJson)) ∧
    s.condition? ConditionType.successfulSync.name = some c ∧ c.status = "True" ∧
    c.observedGeneration = generation

/-- A round wrote the target of a declaration that it found, which is at a place. -/
def Round.Fills (key place : ObjectKey) (d : Declaration) (r : Round) : Prop :=
  r.synced = true ∧ r.Finds key d ∧ d.targetKey = place

/-- A round is the last one that wrote the secret at a place, for a declaration. -/
def LastFilled (key place : ObjectKey) (d : Declaration) (r : Round) (rounds : List Round) : Prop :=
  ∃ before after, rounds = before ++ r :: after ∧ r.Fills key place d ∧
    ∀ later ∈ after, ∀ d', ¬ later.Fills key place d'

/-- Others have left the secret at a place as it was, and will; and the declaration that they leave
under a key carries this key. -/
structure TargetLeft (key place : ObjectKey) (v u : World) : Prop where
  untouched : Untouched place v u
  own : ∀ object d, u.interlude.declarations.get? key = some object →
    Declaration.ofObject object = .ok d → d.key = key

variable {key place : ObjectKey} {d : Declaration} {s : Secret} {v u w w' : World}
  {settings : Settings} {ms : List Moment} {rounds : List Round} {m : Option KeyMap}

private theorem KeepsPlace.targetReflects (hsame : KeepsPlace place v u)
    (h : v.TargetReflects place m) :
    u.TargetReflects place m := by
  obtain ⟨object, s, hobject, hs, hreflects⟩ := h
  exact ⟨object, s, hsame.secret.trans hobject, hs, hreflects⟩

/-! ### Steps of a round -/

/-- A target that is there is read or another one is created; it stays as it is, and what was read
is at its place. -/
theorem targetRead_leaves (hothers : w.OthersKeep (KeepsPlace place))
    (names : w.NamesPlaces)
    (there : (w.secrets.get? place).isSome) (own : d.key = key)
    (h : TargetRead settings key d w ms s w') :
    w'.OthersKeep (KeepsPlace place) ∧ KeepsPlace place w w' ∧
      (s.place = place ↔ d.targetKey = place) := by
  subst own
  cases h with
  | @found _ object _ read passage stored holds =>
    obtain ⟨hkept, hothers'⟩ := passage.keeps keepsPlace_rely hothers
    obtain ⟨hname, hns⟩ := hkept.names names _ _ stored
    obtain ⟨-, hsname, hsns⟩ := Secret.owners_ofObject holds
    have hplace : s.place = d.targetKey := by
      rw [Secret.place, hsname, hsns, hname, hns]
      rfl
    exact ⟨hothers', hkept, by rw [hplace]⟩
  | @created x _ shell read sent uid passage owned free after =>
    obtain ⟨hx, hothersx⟩ := passage.keeps keepsPlace_rely hothers
    obtain ⟨hw', hothers'⟩ := after.keeps keepsPlace_rely hothersx
    have hne : d.targetKey ≠ place := by
      rintro rfl
      rw [← hx.secret, free] at there
      cases there
    have hcreated : KeepsPlace place x (x.withSecret d.targetKey
        (shell.toObject.stored (some (d.ns.getD "")) uid x.newVersion)) := by
      refine ⟨?_, fun hnames => hnames.withSecret ?_ uid _⟩
      · rw [KeepsSecret, World.withSecret, Dict.get?_insert, if_neg hne]
      · rw [Secret.own_cases owned]
        rfl
    refine ⟨hothers', keepsPlace_rely.trans hx (keepsPlace_rely.trans hcreated hw'), ?_⟩
    rw [(Secret.blank_shell owned uid (some x.newVersion)).2]

/-- A target that is refilled reflects the key map of its declaration; another secret stays. -/
theorem refilled_reflects {values : Data} (hothers : w.OthersKeep (KeepsPlace place))
    (names : w.NamesPlaces) (h : Refilled settings key d values s w ms w') :
    w'.OthersKeep (KeepsPlace place) ∧ w'.NamesPlaces ∧
      (s.place = place → w'.TargetReflects place d.spec.map) ∧
      (s.place ≠ place → KeepsPlace place w w') := by
  cases h with
  | @mk x _ restored filled old now sent restores refills passage stored current after =>
    obtain ⟨hx, hothersx⟩ := passage.keeps keepsPlace_rely hothers
    obtain ⟨hw', hothers'⟩ := after.keeps keepsPlace_rely hothersx
    have hplace := place_of_refill restores refills
    have hnames : x.NamesPlaces → (x.withSecret filled.place (filled.toObject.stored
        (some filled.place.ns) old.fields.uid x.newVersion)).NamesPlaces :=
      fun hnames => hnames.withSecret rfl old.fields.uid x.newVersion
    refine ⟨hothers', hw'.names (hnames (hx.names names)), ?_, ?_⟩
    · rintro rfl
      obtain ⟨hdata, hrecords, -⟩ := refill_cases refills
      refine hw'.targetReflects ⟨_, _, ?_, Secret.ofObject_stored filled (some filled.place.ns)
        old.fields.uid x.newVersion, (hrecords.reflects hdata :)⟩
      rw [World.withSecret, Dict.get?_insert, if_pos hplace]
    · intro hne
      refine keepsPlace_rely.trans hx (keepsPlace_rely.trans ⟨?_, hnames⟩ hw')
      rw [KeepsSecret, World.withSecret, Dict.get?_insert, if_neg (hplace ▸ hne)]

/-- An attempt that writes a target leaves it as the key map makes it; all other attempts leave it
as it was. -/
theorem attempted_reflects {ending : Except Failure Progress}
    (hothers : w.OthersKeep (KeepsPlace place)) (names : w.NamesPlaces)
    (there : (w.secrets.get? place).isSome) (own : d.key = key)
    (h : Attempted settings key d w ms ending w') :
    w'.OthersKeep (KeepsPlace place) ∧ w'.NamesPlaces ∧
      (ending = .ok .written → d.targetKey = place → w'.TargetReflects place d.spec.map) ∧
      (ending = .ok .written ∧ d.targetKey = place ∨ KeepsPlace place w w') := by
  cases h with
  | abandoned failure passage =>
    obtain ⟨hkept, hothers'⟩ := passage.keeps keepsPlace_rely hothers
    exact ⟨hothers', hkept.names names, nofun, Or.inr hkept⟩
  | unchanged pulled quiet after =>
    obtain ⟨hv, hothersv⟩ := pulled.toPassage.keeps keepsPlace_rely hothers
    obtain ⟨hw', hothers'⟩ := after.keeps keepsPlace_rely hothersv
    have hkept := keepsPlace_rely.trans hv hw'
    exact ⟨hothers', hkept.names names, nofun, Or.inr hkept⟩
  | unfilled failure pulled changed target after =>
    obtain ⟨hv, hothersv⟩ := pulled.toPassage.keeps keepsPlace_rely hothers
    obtain ⟨hothersu, hu, -⟩ :=
      targetRead_leaves hothersv (hv.names names) (hv.secret ▸ there) own target
    obtain ⟨hw', hothers'⟩ := after.keeps keepsPlace_rely hothersu
    have hkept := keepsPlace_rely.trans hv (keepsPlace_rely.trans hu hw')
    exact ⟨hothers', hkept.names names, nofun, Or.inr hkept⟩
  | written pulled changed target refilled =>
    obtain ⟨hv, hothersv⟩ := pulled.toPassage.keeps keepsPlace_rely hothers
    obtain ⟨hothersu, hu, hplace⟩ :=
      targetRead_leaves hothersv (hv.names names) (hv.secret ▸ there) own target
    obtain ⟨hothers', names', hfilled, hother⟩ :=
      refilled_reflects hothersu (hu.names (hv.names names)) refilled
    refine ⟨hothers', names', fun _ htarget => hfilled (hplace.mpr htarget), ?_⟩
    by_cases htarget : d.targetKey = place
    · exact Or.inl ⟨rfl, htarget⟩
    · have hkept := hother (htarget ∘ hplace.mp)
      exact Or.inr (keepsPlace_rely.trans hv (keepsPlace_rely.trans hu hkept))

/-! ### Rounds -/

/-- A declaration that a round has found is the only one. -/
theorem Round.Finds.unique {r : Round} {d d' : Declaration} (h : r.Finds key d)
    (h' : r.Finds key d') : d = d' := by
  obtain ⟨object, hobject, hd⟩ := h
  obtain ⟨object', hobject', hd'⟩ := h'
  cases hobject.symm.trans hobject'
  cases hd.symm.trans hd'
  rfl

/-- Attempts do not write statuses. -/
theorem not_inAttempt_patchStatus {body : Json} {timeout : Int} {t : Time.Instant} :
    ¬ (Moment.call (.patchStatus key body timeout) t).InAttempt d := id

/-- The generation at which a round stores success is the one at which it has found the
declaration. -/
theorem Round.StoresSuccess.found {ending : Except Escape Result} {generation : Option Int}
    (h : Ends (reconcile settings key).run w ending w')
    (stores : Round.StoresSuccess key generation ⟨w, ending, w'⟩) :
    ∃ d, Round.Finds key d ⟨w, ending, w'⟩ ∧ d.generation = generation := by
  obtain ⟨hwell, s, c, -, timeout, t, hsent, -, -, hc, -, rfl⟩ := stores
  obtain ⟨_, result, rfl, -, houtcome, -⟩ |
    ⟨object, d, asked, now, x, hobject, hd, hfound, hgoes⟩ := reconcile_reads h
  · obtain hnone | hnone := houtcome <;> simp [EndsWell, outcome?, hnone] at hwell
  split at hgoes
  · simp [EndsWell, outcome?, hgoes.1] at hwell
  · simp [EndsWell, outcome?, hgoes.1] at hwell
  · obtain ⟨ending, ms, ms', y, htried, hrecorded, rfl⟩ | ⟨_, _, -, rfl⟩ := hgoes
    case inr => simp [EndsWell, outcome?] at hwell
    obtain ⟨progress, rfl⟩ := (endsWell_reported ending).mp hwell
    refine ⟨d, ⟨object, hobject, hd⟩, ?_⟩
    rw [Round.moments, hrecorded.history, htried.history, hfound.toPassage.history,
      List.append_assoc, List.append_assoc, List.drop_left, List.mem_append, List.mem_append]
      at hsent
    -- Of all that a round does only the last step writes a status.
    obtain hsent | hsent | hsent := hsent
    · simp at hsent
    · exact (not_inAttempt_patchStatus (htried.inAttempt _ hsent)).elim
    · obtain ⟨recordedAt, sent, rfl⟩ := hrecorded.moments
      rw [List.mem_cons, List.mem_singleton] at hsent
      obtain hsent | hsent := hsent
      · cases hsent
      injection hsent with hcall
      injection hcall with _ hbody
      have hstatus : s.toJson = (completed d (progress.message key) recordedAt).status.toJson := by
        simpa [Cluster.Declarations.statusBody, recorded] using hbody
      have hobserved := Report.observed?_congr (Status.conditions_of_toJson_eq hstatus)
      rw [observed?_completed, Report.observed?, ← Status.condition?, hc] at hobserved
      exact (Option.some.inj hobserved).symm

/-- A round that writes the target leaves it as the key map of the declaration that it has found
makes it; all other rounds leave it as it was. -/
theorem reconcile_reflects {ending : Except Escape Result}
    (hothers : w.OthersKeep (KeepsPlace place)) (names : w.NamesPlaces)
    (there : (w.secrets.get? place).isSome)
    (own : ∀ object d, w.interlude.declarations.get? key = some object →
      Declaration.ofObject object = .ok d → d.key = key)
    (h : Ends (reconcile settings key).run w ending w') :
    w'.NamesPlaces ∧
      (∀ d, Round.Fills key place d ⟨w, ending, w'⟩ → w'.TargetReflects place d.spec.map) ∧
      ((∀ d, ¬ Round.Fills key place d ⟨w, ending, w'⟩) →
        w'.secrets.get? place = w.secrets.get? place) := by
  -- What ends without a write keeps the place, and fills nothing.
  have hkept : ¬ Round.synced ⟨w, ending, w'⟩ = true → KeepsPlace place w w' → w'.NamesPlaces ∧
      (∀ d, Round.Fills key place d ⟨w, ending, w'⟩ → w'.TargetReflects place d.spec.map) ∧
      ((∀ d, ¬ Round.Fills key place d ⟨w, ending, w'⟩) →
        w'.secrets.get? place = w.secrets.get? place) := by
    intro hnot hkeeps
    exact ⟨hkeeps.names names, fun d hfills => (hnot hfills.1).elim, fun _ => hkeeps.secret⟩
  obtain ⟨_, result, rfl, hpass, houtcome, -⟩ |
    ⟨object, d, asked, now, x, hobject, hd, hfound, hgoes⟩ := reconcile_reads h
  · refine hkept ?_ (hpass.keeps keepsPlace_rely hothers).1
    obtain hnone | hnone := houtcome <;> simp [Round.synced, outcome?, hnone]
  obtain ⟨hx, hothersx⟩ := hfound.toPassage.keeps keepsPlace_rely hothers
  split at hgoes
  · obtain ⟨rfl, rfl⟩ := hgoes
    exact hkept (by simp [Round.synced, outcome?]) hx
  · obtain ⟨rfl, rfl⟩ := hgoes
    exact hkept (by simp [Round.synced, outcome?]) hx
  · obtain ⟨ending, ms, ms', y, htried, hrecorded, rfl⟩ | ⟨_, _, hgarbled, rfl⟩ := hgoes
    case inr =>
      obtain ⟨hw', -⟩ := hgarbled.toPassage.keeps keepsPlace_rely hothersx
      exact hkept (by simp [Round.synced, outcome?]) (keepsPlace_rely.trans hx hw')
    obtain ⟨hothersy, namesy, hfills, hleft⟩ := attempted_reflects hothersx (hx.names names)
      (hx.secret ▸ there) (own object d hobject hd) htried
    have hlast := recorded_place hothersy hrecorded
    have hsynced : Round.synced ⟨w, .ok (reported settings key ending), w'⟩ = true ↔
        ending = .ok .written := by
      cases ending with
      | error failure => simp [Round.synced, outcome?, reported]
      | ok progress => cases progress <;> simp [Round.synced, outcome?, reported, Progress.outcome]
    have hfinds : Round.Finds key d ⟨w, .ok (reported settings key ending), w'⟩ :=
      ⟨object, hobject, hd⟩
    refine ⟨hlast.names namesy, ?_, fun hnone => ?_⟩
    · rintro d' ⟨hwritten, hfinds', htarget⟩
      cases hfinds.unique hfinds'
      exact hlast.targetReflects (hfills (hsynced.mp hwritten) htarget)
    · obtain ⟨hwritten, htarget⟩ | hkeeps := hleft
      · exact (hnone d ⟨hsynced.mpr hwritten, hfinds, htarget⟩).elim
      · exact hlast.secret.trans (hkeeps.secret.trans hx.secret)

/-! ### Runs -/

/-- Along a run the secret at a place is there, and is as the last round left it that wrote it, or
as it was at the start. -/
theorem run_reflects (names : w.NamesPlaces) (there : (w.secrets.get? place).isSome)
    (run : Run key (TargetLeft key place) w rounds w') :
    w'.NamesPlaces ∧ (w'.secrets.get? place).isSome ∧
      (∀ r ∈ rounds,
        (∀ d, r.Fills key place d → r.after.TargetReflects place d.spec.map) ∧
        ((∀ d, ¬ r.Fills key place d) →
          r.after.secrets.get? place = r.before.secrets.get? place)) ∧
      ((∀ r ∈ rounds, ∀ d, ¬ r.Fills key place d) ∧
          w'.secrets.get? place = w.secrets.get? place ∨
        ∃ r d, LastFilled key place d r rounds ∧
          w'.secrets.get? place = r.after.secrets.get? place) := by
  induction run with
  | start => exact ⟨names, there, List.forall_mem_nil _, Or.inl ⟨List.forall_mem_nil _, rfl⟩⟩
  | @round v u w' rounds settings ending earlier between ends ih =>
    obtain ⟨namesv, therev, hrounds, hstate⟩ := ih
    have hbetween := between.untouched.keeps
    have thereu : (u.secrets.get? place).isSome := hbetween.secret ▸ therev
    obtain ⟨names', hfills, hkeeps⟩ := reconcile_reflects between.untouched.others
      (hbetween.names namesv) thereu between.own ends
    have hall := List.forall_mem_append.mpr ⟨hrounds, List.forall_mem_singleton.mpr
      (show (∀ d, Round.Fills key place d ⟨u, ending, w'⟩ → _) ∧ _ from ⟨hfills, hkeeps⟩)⟩
    by_cases hwrites : ∃ d, Round.Fills key place d ⟨u, ending, w'⟩
    · obtain ⟨d, hwrites⟩ := hwrites
      obtain ⟨object, s, hobject, -⟩ := hfills d hwrites
      refine ⟨names', hobject ▸ rfl, hall, Or.inr ⟨⟨u, ending, w'⟩, d, ?_, rfl⟩⟩
      exact ⟨rounds, [], rfl, hwrites, List.forall_mem_nil _⟩
    · have hwrites := not_exists.mp hwrites
      have hsame := (hkeeps hwrites).trans hbetween.secret
      refine ⟨names', hsame ▸ therev, hall, ?_⟩
      obtain ⟨hnone, hstart⟩ | ⟨r, d, ⟨before, after, rfl, hr, hafter⟩, hlast⟩ := hstate
      · exact Or.inl ⟨List.forall_mem_append.mpr ⟨hnone, List.forall_mem_singleton.mpr hwrites⟩,
          hsame.trans hstart⟩
      · refine Or.inr ⟨r, d, ⟨before, after ++ [⟨u, ending, w'⟩], List.append_assoc _ _ _, hr, ?_⟩,
          hsame.trans hlast⟩
        exact List.forall_mem_append.mpr ⟨hafter, List.forall_mem_singleton.mpr hwrites⟩

/-- In every run of reconciles of a declaration, whatever is done to it in between, while its target
is there and others leave it alone: a round that has stored success at a generation has found the
declaration at this generation.  If it wrote the target, this reflects the key map that was found;
if there was nothing to write, the target is as it was.  So the target reflects the key map that the
last round found that wrote it, and is as it was at the start if there was none. -/
theorem success_reflects_written_map (names : w.NamesPlaces)
    (there : (w.secrets.get? place).isSome)
    (run : Run key (TargetLeft key place) w rounds w') :
    (∀ r ∈ rounds, ∀ generation, r.StoresSuccess key generation →
      ∃ d, r.Finds key d ∧ d.generation = generation ∧
        (outcome? r.ending = some .synced → d.targetKey = place →
          r.after.TargetReflects place d.spec.map) ∧
        (outcome? r.ending = some .noChanges →
          r.after.secrets.get? place = r.before.secrets.get? place)) ∧
    ((∀ r ∈ rounds, ∀ d, ¬ r.Fills key place d) ∧
        w'.secrets.get? place = w.secrets.get? place ∨
      ∃ r d, LastFilled key place d r rounds ∧
        w'.secrets.get? place = r.after.secrets.get? place ∧
        w'.TargetReflects place d.spec.map) := by
  obtain ⟨-, -, hrounds, hstate⟩ := run_reflects names there run
  constructor
  · intro r hr generation hstores
    obtain ⟨settings, hends⟩ := run.ends r hr
    obtain ⟨hfills, hkeeps⟩ := hrounds r hr
    obtain ⟨d, hfinds, hgeneration⟩ := hstores.found hends
    refine ⟨d, hfinds, hgeneration, fun hsynced htarget => ?_, fun hquiet => ?_⟩
    · exact hfills d ⟨decide_eq_true hsynced, hfinds, htarget⟩
    · refine hkeeps (fun d' hd' => ?_)
      cases hquiet.symm.trans (of_decide_eq_true hd'.1)
  · refine hstate.imp_right (fun ⟨r, d, hlast, hsame⟩ => ⟨r, d, hlast, hsame, ?_⟩)
    obtain ⟨before, after, rfl, hr, -⟩ := hlast
    have hmem : r ∈ before ++ r :: after := List.mem_append_right _ List.mem_cons_self
    obtain ⟨object, s, hobject, hs⟩ := (hrounds r hmem).1 d hr
    exact ⟨object, s, hsame.trans hobject, hs⟩

/-! ### Success over an earlier key map -/

/-- The key map that the annotation of the secret at a place holds. -/
def recordedMap? (place : ObjectKey) (w : World) : Option KeyMap := do
  let object ← w.secrets.get? place
  let s ← (Secret.ofObject object).toOption
  let text ← s.annotations.get? Annotation.customMap
  (KeyMap.ofAnnotation text).toOption

/-- A secret that reflects a key map has it recorded. -/
theorem recordedMap?_of_targetReflects {m : KeyMap} (h : w.TargetReflects place (some m)) :
    recordedMap? place w = some m := by
  obtain ⟨object, s, hobject, hs, ⟨text, htext, hm⟩, -⟩ := h
  simp [recordedMap?, hobject, hs, htext, hm, Except.toOption]

namespace Sample

/-- A key map that stores one value under a key. -/
def mappedTo (key : String) : Json :=
  .arr [.obj [("bwSecretId", .str "a"), ("secretKeyName", .str key)]]

/-- The target is there, and the declaration has a key map at its first generation. -/
def declaredWorld : World :=
  (targetWorld none).disturb (.editDeclaration Sample.key [("map", mappedTo "X")] (some 1))

/-- The reconcile of the declaration in a world. -/
def roundIn (w : World) : Round :=
  ⟨w, (StateT.run (reconcile Sample.settings Sample.key).run w).1,
    (StateT.run (reconcile Sample.settings Sample.key).run w).2⟩

/-- The world a minute behind the first reconcile, with another key map at the second generation. -/
def remappedWorld : World :=
  ((roundIn declaredWorld).after.disturb
    (.editDeclaration Sample.key [("map", mappedTo "Y")] (some 2))).disturb
      (.advance (.ofSeconds 60))

/-- The key of the declaration that is found, with its generation and its key map. -/
def declared? (w : World) : Option (ObjectKey × Option Int × Option KeyMap) := do
  let object ← w.interlude.declarations.get? Sample.key
  let d ← (Declaration.ofObject object).toOption
  return (d.key, d.generation, d.spec.map)

private theorem targetLeft_of_declared? {v u : World} {read : Option Int × Option KeyMap}
    (hsecrets : u.secrets = v.secrets) (hothers : u.others.isEmpty = true)
    (hread : declared? u = some (Sample.key, read)) : TargetLeft Sample.key target v u where
  untouched := by
    refine ⟨⟨?_, ?_⟩, World.othersKeep_of_isEmpty hothers⟩
    · rw [KeepsSecret, hsecrets]
    · unfold World.NamesPlaces
      rw [hsecrets]
      exact id
  own := by
    intro object d hobject hd
    have hsome : declared? u = some (d.key, d.generation, d.spec.map) := by
      rw [declared?, hobject, Option.bind_eq_bind, Option.bind_some, hd]
      rfl
    exact congrArg Prod.fst (Option.some.inj (hsome.symm.trans hread))

private theorem namesPlaces_declaredWorld : declaredWorld.NamesPlaces := by
  intro place object hobject
  have hmem := Dict.mem_entries_iff.mpr hobject
  have hentries : declaredWorld.secrets.entries = [(⟨"default", "auth"⟩, namedAuth),
    (target, ⟨none, some (metadata "app-env" none), none, none, none⟩)] := rfl
  rw [hentries, List.mem_cons, List.mem_singleton] at hmem
  obtain heq | heq := hmem
  · cases heq
    exact ⟨rfl, rfl⟩
  · cases heq
    exact ⟨rfl, rfl⟩

private theorem secrets_remappedWorld : remappedWorld.secrets =
    (roundIn declaredWorld).after.secrets := by
  unfold remappedWorld World.disturb World.advance
  dsimp only
  split <;> rfl

set_option maxRecDepth 10000 in
/-- The target is there from the start, and nobody but the operator writes it. -/
theorem run_remapped : Run Sample.key (TargetLeft Sample.key target) declaredWorld
    [roundIn declaredWorld, roundIn remappedWorld] (roundIn remappedWorld).after := by
  have hfirst : declared? declaredWorld =
      some (Sample.key, some 1, some [⟨"a", "X"⟩]) := by decide +kernel
  have hsecond : declared? remappedWorld =
      some (Sample.key, some 2, some [⟨"a", "Y"⟩]) := by decide +kernel
  have hrun : Run Sample.key (TargetLeft Sample.key target) declaredWorld
      [roundIn declaredWorld] (roundIn declaredWorld).after :=
    .round (.start _) (targetLeft_of_declared? rfl rfl hfirst) (ends_self _ declaredWorld)
  exact hrun.round (targetLeft_of_declared? secrets_remappedWorld (by decide +kernel) hsecond)
    (ends_self _ remappedWorld)

end Sample

set_option maxRecDepth 10000 in
/-- The statement at a map edited between two syncs. -/
theorem success_reflects_written_map_when_remapped :
    Sample.declaredWorld.NamesPlaces ∧
    (Sample.declaredWorld.secrets.get? Sample.target).isSome ∧
    ∃ rounds w',
      Run Sample.key (TargetLeft Sample.key Sample.target) Sample.declaredWorld rounds w' ∧
      (∀ r ∈ rounds, ∀ generation, r.StoresSuccess Sample.key generation →
        ∃ d, r.Finds Sample.key d ∧ d.generation = generation ∧
          (outcome? r.ending = some .synced → d.targetKey = Sample.target →
            r.after.TargetReflects Sample.target d.spec.map) ∧
          (outcome? r.ending = some .noChanges →
            r.after.secrets.get? Sample.target = r.before.secrets.get? Sample.target)) ∧
      ((∀ r ∈ rounds, ∀ d, ¬ r.Fills Sample.key Sample.target d) ∧
          w'.secrets.get? Sample.target = Sample.declaredWorld.secrets.get? Sample.target ∨
        ∃ r d, LastFilled Sample.key Sample.target d r rounds ∧
          w'.secrets.get? Sample.target = r.after.secrets.get? Sample.target ∧
          w'.TargetReflects Sample.target d.spec.map) :=
  ⟨Sample.namesPlaces_declaredWorld, rfl, _, _, Sample.run_remapped,
    success_reflects_written_map Sample.namesPlaces_declaredWorld rfl Sample.run_remapped⟩

set_option maxRecDepth 10000 in
/-- The key map is edited behind the first reconcile, and nothing changes in the vault.  The next
reconcile records success at the generation of the edit, and the target is as the earlier key map
made it. -/
theorem success_recorded_over_earlier_map :
    Run Sample.key (TargetLeft Sample.key Sample.target) Sample.declaredWorld
      [Sample.roundIn Sample.declaredWorld, Sample.roundIn Sample.remappedWorld]
      (Sample.roundIn Sample.remappedWorld).after ∧
    Sample.declared? Sample.remappedWorld = some (Sample.key, some 2, some [⟨"a", "Y"⟩]) ∧
    outcome? (Sample.roundIn Sample.remappedWorld).ending = some .noChanges ∧
    Sample.observed? (Sample.roundIn Sample.remappedWorld).after = some 2 ∧
    Sample.stored? (Sample.roundIn Sample.remappedWorld).after "X" = some "1".toUTF8.toList ∧
    Sample.stored? (Sample.roundIn Sample.remappedWorld).after "Y" = none ∧
    ¬ (Sample.roundIn Sample.remappedWorld).after.TargetReflects Sample.target
      (some [⟨"a", "Y"⟩]) := by
  refine ⟨Sample.run_remapped, by decide +kernel, by decide +kernel, by decide +kernel,
    by decide +kernel, by decide +kernel, fun hreflects => ?_⟩
  have hrecorded : recordedMap? Sample.target (Sample.roundIn Sample.remappedWorld).after =
      some [⟨"a", "X"⟩] := by decide +kernel
  exact absurd (hrecorded.symm.trans (recordedMap?_of_targetReflects hreflects)) (by decide)

end Sync
end SecretSync

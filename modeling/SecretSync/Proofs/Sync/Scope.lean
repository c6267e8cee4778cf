import SecretSync.Proofs.Sync.Rebuild
import SecretSync.Proofs.World.Pairing
import SecretSync.Proofs.World.Steady

/-!
# What a reconcile may look at

The scope of a declaration is the declaration itself, the secret with its access token, and its
target.  Two worlds agree on a scope if these objects, the clock and what waits to go wrong are the
same in both, up to the uids and the versions of the secrets, and if others will do the same to them
and leave the target alone.
-/

namespace SecretSync

/-- Where a declaration lies, the secret with its access token, and its target. -/
structure Scope where
  key : ObjectKey
  token : ObjectKey
  target : ObjectKey

/-- A declaration carries the key of a scope and names the secrets of the scope. -/
structure Declaration.LiesIn (s : Scope) (d : Declaration) : Prop where
  key : d.key = s.key
  token : s.token = ⟨s.key.ns, d.spec.authToken.secretName⟩
  target : s.target = ⟨s.key.ns, d.spec.secretName⟩

/-- What is created for a declaration is created at the target of its scope. -/
theorem Declaration.LiesIn.targetKey {s : Scope} {d : Declaration} (h : d.LiesIn s) :
    d.targetKey = s.target := by
  rw [h.target, ← h.key]
  rfl

/-- The declaration that is about to be read, if there is a readable one, lies in a scope. -/
def World.Declares (s : Scope) (w : World) : Prop :=
  ∀ object d, w.interlude.declarations.get? s.key = some object →
    Declaration.ofObject object = .ok d → d.LiesIn s

/-! ### Secrets up to what the cluster gives them -/

/-- A stored secret without the uid and the version that the cluster has given it. -/
def SecretObject.unversioned (o : SecretObject) : SecretObject :=
  { o with metadata := o.metadata.map (fun m => { m with uid := none, resourceVersion := none }) }

/-- A secret without the uid and the version that the cluster has given it. -/
def Secret.unversioned (s : Secret) : Secret := { s with uid := none, resourceVersion := none }

private theorem SecretObject.fields_unversioned (o : SecretObject) :
    o.unversioned.fields = { o.fields with uid := none, resourceVersion := none } := by
  obtain ⟨envelope, metadata, type, data, defect⟩ := o
  cases metadata <;> rfl

/-- Uid and version do not matter for the rest of what is read. -/
theorem Secret.ofObject_unversioned (o : SecretObject) :
    Secret.ofObject o.unversioned = (Secret.ofObject o).map Secret.unversioned := by
  have hdata : o.unversioned.data = o.data := rfl
  have htype : o.unversioned.type = o.type := rfl
  have hdefect : o.unversioned.defect = o.defect := rfl
  unfold ofObject
  rw [SecretObject.fields_unversioned, hdata, htype, hdefect]
  cases o.defect with
  | some rejection => rfl
  | none => cases decodeValues (o.data.getD Dict.empty).entries <;> rfl

/-- What the cluster stores of a secret is the same up to the uid and the version. -/
theorem SecretObject.unversioned_stored {o o' : SecretObject}
    (h : o.unversioned = o'.unversioned) (ns uid uid' : Option String) (version version' : String) :
    (o.stored ns uid version).unversioned = (o'.stored ns uid' version').unversioned := by
  have hfields := congrArg SecretObject.fields h
  rw [fields_unversioned, fields_unversioned] at hfields
  exact congrArg₂ (fun (o : SecretObject) (m : SecretMetadata) =>
    { o with metadata := some { m with ns := ns } }) h hfields

/-- Secrets that differ in their versions alone make objects that differ in theirs alone. -/
theorem Secret.toObject_unversioned {s t : Secret} (h : s.unversioned = t.unversioned) :
    s.toObject.unversioned = t.toObject.unversioned := congrArg Secret.toObject h

/-! ### What others do to an object -/

namespace Disturbance

/-- What a deed makes of the time. -/
def onClock (time : Time.Instant) : Disturbance → Time.Instant
  | .advance delay => (time.add? delay).getD time
  | .setClock time => time
  | _ => time

/-- What a deed makes of the declaration with a key. -/
def onDeclaration (key : ObjectKey) (stored : Option Json) : Disturbance → Option Json
  | .putDeclaration other object => if other = key then some object else stored
  | .editDeclaration other changes generation =>
    if other = key then stored.map (World.editedObject changes generation) else stored
  | .deleteDeclaration other => if other = key then none else stored
  | _ => stored

/-- What a deed makes of the secret at a place. -/
def onSecret (place : ObjectKey) (stored : Option SecretObject) :
    Disturbance → Option SecretObject
  | .putSecret other object => if other = place then some object else stored
  | .deleteSecret other => if other = place then none else stored
  | _ => stored

/-- Whether a deed may change the time, the declaration of a scope or the secret with its token. -/
def concerns (s : Scope) : Disturbance → Bool
  | .advance _ | .setClock _ => true
  | .putDeclaration key _ | .editDeclaration key _ _ | .deleteDeclaration key => key = s.key
  | .putSecret place _ | .deleteSecret place => place = s.token
  | .requestStop => false

end Disturbance

namespace World

private theorem disturb_clock (w : World) (deed : Disturbance) :
    (w.disturb deed).clock = deed.onClock w.clock := by
  cases deed with
  | editDeclaration key changes generation =>
    simp only [disturb]
    split <;> rfl
  | _ => rfl

private theorem disturb_declaration (w : World) (deed : Disturbance) (key : ObjectKey) :
    (w.disturb deed).declarations.get? key =
      deed.onDeclaration key (w.declarations.get? key) := by
  cases deed with
  | putDeclaration other object => exact Dict.get?_insert w.declarations other key object
  | deleteDeclaration other => exact Dict.get?_erase w.declarations other key
  | editDeclaration other changes generation =>
    simp only [disturb, Disturbance.onDeclaration]
    split
    · next hobject =>
      split
      · next heq => rw [← heq, hobject, Option.map_none]
      · rfl
    · next object hobject =>
      rw [Dict.get?_insert]
      split
      · next heq => rw [← heq, hobject, Option.map_some]
      · rfl
  | _ => rfl

private theorem disturb_secret (w : World) (deed : Disturbance) (place : ObjectKey) :
    (w.disturb deed).secrets.get? place = deed.onSecret place (w.secrets.get? place) := by
  cases deed with
  | putSecret other object => exact Dict.get?_insert w.secrets other place object
  | deleteSecret other => exact Dict.get?_erase w.secrets other place
  | editDeclaration other changes generation =>
    simp only [disturb]
    split <;> rfl
  | _ => rfl

private theorem disturb_mapFault (w : World) (deed : Disturbance) :
    (w.disturb deed).mapFault = w.mapFault := (sameInside_disturb w deed).mapFault

/-- The secret at a place, if there is one, carries that place. -/
def NamesPlace (place : ObjectKey) (w : World) : Prop :=
  ∀ object, w.secrets.get? place = some object →
    object.fields.name = some place.name ∧ object.fields.ns = some place.ns

/-! ### Footprints -/

/-- What a reconcile may look at. -/
@[ext]
structure Footprint where
  clock : Time.Instant
  faults : Dict Api (List (Option Fault))
  mapFault : Option String
  declaration : Option Json
  token : Option SecretObject
  target : Option SecretObject

/-- What a reconcile of the declaration of a scope may look at, up to the uids and the versions of
secrets. -/
def footprint (s : Scope) (w : World) : Footprint where
  clock := w.clock
  faults := w.faults
  mapFault := w.mapFault
  declaration := w.declarations.get? s.key
  token := (w.secrets.get? s.token).map SecretObject.unversioned
  target := (w.secrets.get? s.target).map SecretObject.unversioned

variable {s : Scope} {w v : World}

private theorem onSecret_unversioned (deed : Disturbance) (place : ObjectKey)
    {o o' : Option SecretObject}
    (h : o.map SecretObject.unversioned = o'.map SecretObject.unversioned) :
    (deed.onSecret place o).map SecretObject.unversioned =
      (deed.onSecret place o').map SecretObject.unversioned := by
  cases deed with
  | putSecret other object =>
    simp only [Disturbance.onSecret]
    split
    · rfl
    · exact h
  | deleteSecret other =>
    simp only [Disturbance.onSecret]
    split
    · rfl
    · exact h
  | _ => exact h

/-- A deed does the same to the same footprints. -/
theorem footprint_disturb (h : w.footprint s = v.footprint s) (deed : Disturbance) :
    (w.disturb deed).footprint s = (v.disturb deed).footprint s := by
  apply Footprint.ext
  · simp only [footprint, disturb_clock]
    exact congrArg (Disturbance.onClock · deed) (congrArg Footprint.clock h)
  · simp only [footprint, disturb_faults]
    exact congrArg Footprint.faults h
  · simp only [footprint, disturb_mapFault]
    exact congrArg Footprint.mapFault h
  · simp only [footprint, disturb_declaration]
    exact congrArg (Disturbance.onDeclaration s.key · deed) (congrArg Footprint.declaration h)
  · simp only [footprint, disturb_secret]
    exact onSecret_unversioned deed s.token (congrArg Footprint.token h)
  · simp only [footprint, disturb_secret]
    exact onSecret_unversioned deed s.target (congrArg Footprint.target h)

/-- A deed that neither concerns a scope nor touches its target leaves no trace in the footprint. -/
theorem footprint_unconcerned {deed : Disturbance} (h : deed.concerns s = false)
    (hkeeps : ∀ v, Sync.KeepsSecret s.target v (v.disturb deed)) (w : World) :
    (w.disturb deed).footprint s = w.footprint s := by
  have htarget : (w.disturb deed).secrets.get? s.target = w.secrets.get? s.target := hkeeps w
  apply Footprint.ext
  · simp only [footprint, disturb_clock]
    cases deed with
    | advance _ => cases h
    | setClock _ => cases h
    | _ => rfl
  · exact disturb_faults w deed
  · exact disturb_mapFault w deed
  · simp only [footprint, disturb_declaration]
    cases deed with
    | putDeclaration _ _ => exact if_neg (of_decide_eq_false h)
    | editDeclaration _ _ _ => exact if_neg (of_decide_eq_false h)
    | deleteDeclaration _ => exact if_neg (of_decide_eq_false h)
    | _ => rfl
  · simp only [footprint, disturb_secret]
    cases deed with
    | putSecret _ _ => exact congrArg _ (if_neg (of_decide_eq_false h))
    | deleteSecret _ => exact congrArg _ (if_neg (of_decide_eq_false h))
    | _ => rfl
  · exact congrArg (Option.map _) htarget

/-- Only the deeds that concern a scope matter to the footprint. -/
theorem footprint_foldl (deeds : List Disturbance)
    (hkeeps : ∀ deed ∈ deeds, ∀ v, Sync.KeepsSecret s.target v (v.disturb deed))
    (h : w.footprint s = v.footprint s) :
    (deeds.foldl disturb w).footprint s =
      ((deeds.filter (·.concerns s)).foldl disturb v).footprint s := by
  induction deeds generalizing w v with
  | nil => exact h
  | cons deed deeds ih =>
    rw [List.forall_mem_cons] at hkeeps
    rw [List.foldl_cons]
    cases hconcerns : deed.concerns s with
    | true =>
      rw [List.filter_cons_of_pos (by exact hconcerns), List.foldl_cons]
      exact ih hkeeps.2 (footprint_disturb h deed)
    | false =>
      rw [List.filter_cons_of_neg (by simp [hconcerns])]
      exact ih hkeeps.2 ((footprint_unconcerned hconcerns hkeeps.1 w).trans h)

/-! ### Agreement -/

/-- Two worlds agree on a scope: the footprints are the same, others do the same in each of their
turns that concerns the scope, they leave the target alone, and the target carries its place. -/
structure AgreeOn (s : Scope) (w v : World) : Prop where
  footprint : w.footprint s = v.footprint s
  deeds : ∀ n, (w.others.getD n []).filter (·.concerns s) =
    (v.others.getD n []).filter (·.concerns s)
  untouched : w.OthersKeep (Sync.KeepsSecret s.target)
  untouched' : v.OthersKeep (Sync.KeepsSecret s.target)
  named : w.NamesPlace s.target

/-- A place that is named stays named, if the secret is kept. -/
theorem NamesPlace.of_keeps {place : ObjectKey} (h : w.NamesPlace place)
    (hkeeps : Sync.KeepsSecret place w v) : v.NamesPlace place :=
  fun object hobject => h object (hkeeps ▸ hobject)

private theorem footprint_interlude (h : w.AgreeOn s v) :
    w.interlude.footprint s = v.interlude.footprint s := by
  have hfirst : ∀ {u : World}, u.OthersKeep (Sync.KeepsSecret s.target) →
      ∀ deed ∈ u.others.getD 0 [], ∀ x, Sync.KeepsSecret s.target x (x.disturb deed) := by
    intro u hu
    cases hothers : u.others with
    | nil => exact fun _ hdeed => nomatch hdeed
    | cons deeds rest => exact hu deeds (by rw [hothers]; exact List.mem_cons_self)
  have htails : ({ w with others := w.others.tail } : World).footprint s =
      ({ v with others := v.others.tail } : World).footprint s := h.footprint
  rw [interlude_eq, interlude_eq, footprint_foldl _ (hfirst h.untouched) htails, h.deeds 0]
  exact (footprint_foldl _ (hfirst h.untouched') rfl).symm

/-- Worlds that agree still do after others had their turn. -/
theorem AgreeOn.interlude (h : w.AgreeOn s v) : w.interlude.AgreeOn s v.interlude := by
  obtain ⟨hkept, hothers⟩ := interlude_keeps Sync.keepsSecret_rely h.untouched
  obtain ⟨-, hothers'⟩ := interlude_keeps Sync.keepsSecret_rely h.untouched'
  refine ⟨footprint_interlude h, fun n => ?_, hothers, hothers', h.named.of_keeps hkept⟩
  rw [interlude_others, interlude_others]
  have hdeeds := h.deeds (n + 1)
  simp only [List.getD_eq_getElem?_getD, List.getElem?_tail] at hdeeds ⊢
  exact hdeeds

/-- Worlds that agree still do after steps that do nothing to the stored secrets nor to what others
will do, and the same to the rest of the footprint. -/
theorem AgreeOn.step {w' v' : World} (h : w.AgreeOn s v)
    (hfootprint : w'.footprint s = v'.footprint s) (hothers : w'.others = w.others)
    (hothers' : v'.others = v.others) (hsecrets : w'.secrets = w.secrets) : w'.AgreeOn s v' := by
  refine ⟨hfootprint, ?_, ?_, ?_, ?_⟩
  · rw [hothers, hothers']
    exact h.deeds
  · rw [OthersKeep, hothers]
    exact h.untouched
  · rw [OthersKeep, hothers']
    exact h.untouched'
  · rw [NamesPlace, hsecrets]
    exact h.named

/-- The secrets of the scope are the same up to the uids and the versions. -/
theorem AgreeOn.get?_secrets (h : w.AgreeOn s v) {place : ObjectKey}
    (hplace : place = s.token ∨ place = s.target) :
    (w.secrets.get? place).map SecretObject.unversioned =
      (v.secrets.get? place).map SecretObject.unversioned := by
  obtain rfl | rfl := hplace
  · exact congrArg Footprint.token h.footprint
  · exact congrArg Footprint.target h.footprint

/-- Worlds that agree still do after the target was written with the same up to the uid and the
version. -/
theorem AgreeOn.withTarget (h : w.AgreeOn s v) {o o' : SecretObject}
    (hsame : o.unversioned = o'.unversioned) (hname : o.fields.name = some s.target.name)
    (hns : o.fields.ns = some s.target.ns) :
    AgreeOn s { w with secrets := w.secrets.insert s.target o }
      { v with secrets := v.secrets.insert s.target o' } := by
  have hsecrets : ∀ place, place = s.token ∨ place = s.target →
      ((w.secrets.insert s.target o).get? place).map SecretObject.unversioned =
        ((v.secrets.insert s.target o').get? place).map SecretObject.unversioned := by
    intro place hplace
    rw [Dict.get?_insert, Dict.get?_insert]
    split
    · exact congrArg some hsame
    · exact h.get?_secrets hplace
  refine ⟨?_, h.deeds, h.untouched, h.untouched', ?_⟩
  · apply Footprint.ext
    · exact (congrArg Footprint.clock h.footprint :)
    · exact (congrArg Footprint.faults h.footprint :)
    · exact (congrArg Footprint.mapFault h.footprint :)
    · exact (congrArg Footprint.declaration h.footprint :)
    · exact hsecrets s.token (Or.inl rfl)
    · exact hsecrets s.target (Or.inr rfl)
  · intro object hobject
    rw [Dict.get?_insert, if_pos rfl] at hobject
    cases hobject
    exact ⟨hname, hns⟩

/-! ### Further relations that rest on the secrets and the sessions -/

/-- A relation between worlds that agree on a scope which rests on the stored secrets and on the
sessions of the vault, and lasts while others have their turns. -/
structure Lasting (s : Scope) (S : World → World → Prop) : Prop where
  stored : ∀ ⦃w v w' v' : World⦄, w'.secrets = w.secrets → v'.secrets = v.secrets →
    w'.sessions = w.sessions → v'.sessions = v.sessions → S w v → S w' v'
  interlude : ∀ ⦃w v : World⦄, w.AgreeOn s v → S w v → S w.interlude v.interlude

/-- Two worlds agree on a scope, and something else holds of them. -/
structure AgreeWith (s : Scope) (S : World → World → Prop) (w v : World) : Prop where
  agree : w.AgreeOn s v
  further : S w v

/-- Nothing further. -/
def Always (_ _ : World) : Prop := True

/-- A condition that always holds lasts. -/
theorem lasting_always : Lasting s Always := ⟨fun _ _ _ _ _ _ _ _ h => h, fun _ _ _ h => h⟩

/-- The next session of the vault is the same. -/
def SameSession (w v : World) : Prop := w.session = v.session

/-- Having the same session lasts. -/
theorem lasting_sameSession : Lasting s SameSession where
  stored _ _ _ _ _ _ hw hv h := by rw [SameSession, session, hw, session, hv]; exact h
  interlude w v _ h := by
    rw [SameSession, session, (sameInside_interlude w).sessions, session,
      (sameInside_interlude v).sessions]
    exact h

/-- At the target lies a secret under one version here and another there. -/
def Current (s : Scope) (version version' : Option String) (w v : World) : Prop :=
  (w.secrets.get? s.target).map SecretObject.resourceVersion = some version ∧
    (v.secrets.get? s.target).map SecretObject.resourceVersion = some version'

/-- Having a current version lasts. -/
theorem lasting_current {version version' : Option String} :
    Lasting s (Current s version version') where
  stored _ _ _ _ hw hv _ _ h := by rw [Current, hw, hv]; exact h
  interlude w v hagree h := by
    have hw : w.interlude.secrets.get? s.target = w.secrets.get? s.target :=
      (interlude_keeps Sync.keepsSecret_rely hagree.untouched).1
    have hv : v.interlude.secrets.get? s.target = v.secrets.get? s.target :=
      (interlude_keeps Sync.keepsSecret_rely hagree.untouched').1
    rw [Current, hw, hv]
    exact h

variable {S : World → World → Prop}

/-- Worlds that agree under a condition agree without it. -/
theorem AgreeWith.forget (h : AgreeWith s S w v) : AgreeWith s Always w v := ⟨h.agree, trivial⟩

/-- Worlds that agree, with steps that agree in the footprint, still agree. -/
theorem AgreeWith.step (hS : Lasting s S) {w' v' : World} (h : AgreeWith s S w v)
    (hfootprint : w'.footprint s = v'.footprint s) (hothers : w'.others = w.others)
    (hothers' : v'.others = v.others) (hsecrets : w'.secrets = w.secrets)
    (hsecrets' : v'.secrets = v.secrets) (hsessions : w'.sessions = w.sessions)
    (hsessions' : v'.sessions = v.sessions) : AgreeWith s S w' v' :=
  ⟨h.agree.step hfootprint hothers hothers' hsecrets,
    hS.stored hsecrets hsecrets' hsessions hsessions' h.further⟩

/-- Calls, readings, log records and open clients lie outside all footprints. -/
theorem AgreeWith.aside (hS : Lasting s S) {w' v' : World} (h : AgreeWith s S w v)
    (hw : w'.footprint s = w.footprint s ∧ w'.others = w.others ∧ w'.secrets = w.secrets ∧
      w'.sessions = w.sessions)
    (hv : v'.footprint s = v.footprint s ∧ v'.others = v.others ∧ v'.secrets = v.secrets ∧
      v'.sessions = v.sessions) : AgreeWith s S w' v' :=
  h.step hS (hw.1.trans (h.agree.footprint.trans hv.1.symm)) hw.2.1 hv.2.1 hw.2.2.1 hv.2.2.1
    hw.2.2.2 hv.2.2.2

/-- Agreement outlasts all that the world does by itself. -/
theorem steady_agreeWith (hS : Lasting s S) : Steady (AgreeWith s S) where
  clock _ _ h := congrArg Footprint.clock h.agree.footprint
  interlude _ _ h := ⟨h.agree.interlude, hS.interlude h.agree h.further⟩
  advance time w v h := by
    have hclock : w.clock = v.clock := congrArg Footprint.clock h.agree.footprint
    refine h.step hS ?_ rfl rfl rfl rfl rfl rfl
    change { w.footprint s with clock := (w.clock.add? time).getD w.clock } =
      { v.footprint s with clock := (v.clock.add? time).getD v.clock }
    rw [hclock, h.agree.footprint]
  noted _ _ _ h := h.aside hS ⟨rfl, rfl, rfl, rfl⟩ ⟨rfl, rfl, rfl, rfl⟩
  clockRead _ _ h := h.aside hS ⟨rfl, rfl, rfl, rfl⟩ ⟨rfl, rfl, rfl, rfl⟩
  logged _ _ _ h := h.aside hS ⟨rfl, rfl, rfl, rfl⟩ ⟨rfl, rfl, rfl, rfl⟩
  clients _ _ _ h := h.aside hS ⟨rfl, rfl, rfl, rfl⟩ ⟨rfl, rfl, rfl, rfl⟩

end World
end SecretSync

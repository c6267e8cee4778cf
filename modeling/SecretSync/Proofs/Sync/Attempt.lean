import SecretSync.Proofs.Cluster.Stores
import SecretSync.Proofs.Vault.Pull
import SecretSync.Sync.Attempt

/-!
# What an attempt can do

An attempt that fails early has changed nothing.  Otherwise it has pulled; and if there were
changes, it has found or created the target, and then it fails or replaces it.  `Attempted` lists
these ways.  An attempt that pulls a value that cannot be encoded breaks off there, as `Garbled`
tells.  There are no other ways, says `attempt_ends`.
-/

namespace SecretSync

/-- Where a declaration creates its target. -/
def Declaration.targetKey (d : Declaration) : ObjectKey := ⟨d.ns.getD "", d.spec.secretName⟩

/-- Where a secret is replaced. -/
def Secret.place (s : Secret) : ObjectKey := ⟨s.ns.getD "", s.name⟩

/-- Ownership changes the owners only. -/
theorem Secret.own_cases {d : Declaration} {s owned : Secret} (h : s.own d = .ok owned) :
    owned = { s with owners := owned.owners } := by
  unfold Secret.own at h
  dsimp only at h
  split at h
  · cases h
  · split at h
    · cases h
    · split at h
      · cases h
      · cases h
        rfl

/-- A secret is as targets are created: without values and without a key map recorded. -/
structure Secret.Blank (s : Secret) : Prop where
  data : s.data = Dict.empty
  annotation : s.annotations.get? Annotation.customMap = none

/-- What is created for a declaration is blank, and has its place. -/
theorem Secret.blank_shell {d : Declaration} {shell : Secret}
    (h : (Secret.shell d).own d = .ok shell) (uid version : Option String) :
    Secret.Blank { shell with ns := some (d.ns.getD ""), uid := uid, resourceVersion := version } ∧
      Secret.place { shell with
        ns := some (d.ns.getD ""), uid := uid, resourceVersion := version } = d.targetKey := by
  rw [Secret.own_cases h]
  exact ⟨⟨rfl, rfl⟩, rfl⟩

/-- What an attempt for a declaration calls: it reads and writes secrets, and pulls the changes
since the watermark. -/
def Call.InAttempt (d : Declaration) : Call → Prop
  | .readSecret _ _ => True
  | .createSecret _ _ _ => True
  | .replaceSecret _ _ _ => True
  | .openVault _ => True
  | .login _ _ => True
  | .sync organization since => organization = d.spec.organizationId ∧ since = d.status.lastSync
  | _ => False

/-- What an attempt for a declaration does: it makes such calls and reads the clock. -/
def Moment.InAttempt (d : Declaration) : Moment → Prop
  | .call c _ => c.InAttempt d
  | .reading _ => True

/-- The request for changes that was sent at a moment: since when, and the moment's time. -/
def Moment.pull? : Moment → Option (Option Time.Instant × Time.Instant)
  | .call (.sync _ since) time => some (since, time)
  | _ => none

namespace Sync

open Act

/-- The access token was read and changes were pulled. -/
inductive Pulled (settings : Settings) (key : ObjectKey) (d : Declaration) (w : World) :
    List Moment → Vault.Delta → World → Prop
  | mk {w' : World} {delta : Vault.Delta} (token : String)
    (read opened loggedIn asked : Time.Instant)
    (passage : Passage w
      (.call (.readSecret ⟨key.ns, d.spec.authToken.secretName⟩ settings.access.timeout) read ::
        Vault.pullMoments settings.endpoints d.spec.organizationId token d.status.lastSync
          settings.statePath opened loggedIn asked) w')
    (offered : w.session.delta? = some delta) :
    Pulled settings key d w
      (.call (.readSecret ⟨key.ns, d.spec.authToken.secretName⟩ settings.access.timeout) read ::
        Vault.pullMoments settings.endpoints d.spec.organizationId token d.status.lastSync
          settings.statePath opened loggedIn asked) delta w'

/-- The access token was read and changes were pulled, one of which cannot be encoded. -/
inductive Garbled (settings : Settings) (key : ObjectKey) (d : Declaration) (w : World) :
    List Moment → Text.Utf8.EncodeError → World → Prop
  | mk {w' : World} {e : Text.Utf8.EncodeError} (token : String)
    (read opened loggedIn asked : Time.Instant)
    (passage : Passage w
      (.call (.readSecret ⟨key.ns, d.spec.authToken.secretName⟩ settings.access.timeout) read ::
        Vault.pullMoments settings.endpoints d.spec.organizationId token d.status.lastSync
          settings.statePath opened loggedIn asked) w')
    (told : w.session.garbled? = some e) :
    Garbled settings key d w
      (.call (.readSecret ⟨key.ns, d.spec.authToken.secretName⟩ settings.access.timeout) read ::
        Vault.pullMoments settings.endpoints d.spec.organizationId token d.status.lastSync
          settings.statePath opened loggedIn asked) e w'

/-- The target was found, or else created empty. -/
inductive TargetRead (settings : Settings) (key : ObjectKey) (d : Declaration) (w : World) :
    List Moment → Secret → World → Prop
  | found {w' : World} {object : SecretObject} {s : Secret} (read : Time.Instant)
    (passage : Passage w
      [.call (.readSecret ⟨key.ns, d.spec.secretName⟩ settings.access.timeout) read] w')
    (stored : w'.secrets.get? ⟨key.ns, d.spec.secretName⟩ = some object)
    (holds : Secret.ofObject object = .ok s) :
    TargetRead settings key d w
      [.call (.readSecret ⟨key.ns, d.spec.secretName⟩ settings.access.timeout) read] s w'
  | created {v w' : World} {shell : Secret} (read sent : Time.Instant) (uid : Option String)
    (passage : Passage w
      [.call (.readSecret ⟨key.ns, d.spec.secretName⟩ settings.access.timeout) read,
        .call (.createSecret (d.ns.getD "") shell.toObject settings.access.timeout) sent] v)
    (owned : (Secret.shell d).own d = .ok shell)
    (free : v.secrets.get? d.targetKey = none)
    (after : Passage (v.withSecret d.targetKey
      (shell.toObject.stored (some (d.ns.getD "")) uid v.newVersion)) [] w') :
    TargetRead settings key d w
      [.call (.readSecret ⟨key.ns, d.spec.secretName⟩ settings.access.timeout) read,
        .call (.createSecret (d.ns.getD "") shell.toObject settings.access.timeout) sent]
      { shell with
        ns := some (d.ns.getD ""), uid := uid, resourceVersion := some v.newVersion } w'

/-- A target was refilled with changed values and replaced. -/
inductive Refilled (settings : Settings) (key : ObjectKey) (d : Declaration) (values : Data)
    (target : Secret) (w : World) : List Moment → World → Prop
  | mk {v w' : World} {restored filled : Secret} {old : SecretObject} (now sent : Time.Instant)
    (restores : Sync.restored target = .ok restored)
    (refills : refill (w.writeFault d.spec.map) key d values now restored = .ok filled)
    (passage : Passage w
      [.reading now,
        .call (.replaceSecret filled.place filled.toObject settings.access.timeout) sent] v)
    (stored : v.secrets.get? filled.place = some old)
    (current : filled.resourceVersion.isSome → filled.resourceVersion = old.resourceVersion)
    (after : Passage (v.withSecret filled.place
      (filled.toObject.stored (some filled.place.ns) old.fields.uid v.newVersion)) [] w') :
    Refilled settings key d values target w
      [.reading now,
        .call (.replaceSecret filled.place filled.toObject settings.access.timeout) sent] w'

/-- The ways in which an attempt ends. -/
inductive Attempted (settings : Settings) (key : ObjectKey) (d : Declaration) (w : World) :
    List Moment → Except Failure Progress → World → Prop
  | abandoned {w' : World} {ms : List Moment} (failure : Failure) (passage : Passage w ms w')
    (moments : ∀ m ∈ ms, m.InAttempt d)
    (clean : (∃ m ∈ ms, m.pull?.isSome = true) → w.session.garbled? = none) :
    Attempted settings key d w ms (.error failure) w'
  | unchanged {v w' : World} {ms : List Moment} {delta : Vault.Delta}
    (pulled : Pulled settings key d w ms delta v) (quiet : delta.hasChanges = false)
    (after : Passage v [] w') : Attempted settings key d w ms (.ok .unchanged) w'
  | unfilled {v u w' : World} {ms ms' ms'' : List Moment} {delta : Vault.Delta} {s : Secret}
    (failure : Failure) (pulled : Pulled settings key d w ms delta v)
    (changed : delta.hasChanges = true) (target : TargetRead settings key d v ms' s u)
    (after : Passage u ms'' w') (moments : ∀ m ∈ ms'', m.InAttempt d) :
    Attempted settings key d w (ms ++ (ms' ++ ms'')) (.error failure) w'
  | written {v u w' : World} {ms ms' ms'' : List Moment} {delta : Vault.Delta} {s : Secret}
    (pulled : Pulled settings key d w ms delta v) (changed : delta.hasChanges = true)
    (target : TargetRead settings key d v ms' s u)
    (refilled : Refilled settings key d delta.values s u ms'' w') :
    Attempted settings key d w (ms ++ (ms' ++ ms'')) (.ok .written) w'

variable {w w' : World} {settings : Settings} {key : ObjectKey} {d : Declaration}

/-- A pull is a passage. -/
theorem Pulled.toPassage {ms : List Moment} {delta : Vault.Delta}
    (h : Pulled settings key d w ms delta w') : Passage w ms w' := by
  cases h with
  | mk _ _ _ _ _ passage _ => exact passage

/-- What a pull brings is what the session offers. -/
theorem Pulled.offered {ms : List Moment} {delta : Vault.Delta}
    (h : Pulled settings key d w ms delta w') : w.session.delta? = some delta := by
  cases h with
  | mk _ _ _ _ _ _ offered => exact offered

/-- Changes that were pulled could be encoded. -/
theorem Pulled.clean {ms : List Moment} {delta : Vault.Delta}
    (h : Pulled settings key d w ms delta w') : w.session.garbled? = none := by
  have hoffered := h.offered
  rw [Vault.Session.delta?] at hoffered
  rw [Vault.Session.garbled?]
  cases hchanges : w.session.sync.changes? with
  | none => rfl
  | some changes =>
    rw [hchanges, Option.bind_some] at hoffered
    rw [Option.bind_some]
    cases hvalues : Vault.Delta.ofChanges changes with
    | ok delta' => rfl
    | error e =>
      rw [hvalues] at hoffered
      cases hoffered

/-- A pull whose values cannot be encoded is a passage. -/
theorem Garbled.toPassage {ms : List Moment} {e : Text.Utf8.EncodeError}
    (h : Garbled settings key d w ms e w') : Passage w ms w' := by
  cases h with
  | mk _ _ _ _ _ passage _ => exact passage

/-! ### The moments of an attempt -/

private theorem pullMoments_inAttempt {token : String} {opened loggedIn asked : Time.Instant} :
    ∀ m ∈ Vault.pullMoments settings.endpoints d.spec.organizationId token d.status.lastSync
      settings.statePath opened loggedIn asked, m.InAttempt d := by
  simp [Vault.pullMoments, Moment.InAttempt, Call.InAttempt]

/-- The moments of a pull lie in the attempt. -/
theorem Pulled.inAttempt {ms : List Moment} {delta : Vault.Delta}
    (h : Pulled settings key d w ms delta w') : ∀ m ∈ ms, m.InAttempt d := by
  cases h with
  | mk => exact List.forall_mem_cons.mpr ⟨trivial, pullMoments_inAttempt⟩

/-- The moments of a pull that cannot be encoded lie in the attempt. -/
theorem Garbled.inAttempt {ms : List Moment} {e : Text.Utf8.EncodeError}
    (h : Garbled settings key d w ms e w') : ∀ m ∈ ms, m.InAttempt d := by
  cases h with
  | mk => exact List.forall_mem_cons.mpr ⟨trivial, pullMoments_inAttempt⟩

/-- A pull that has asked for changes has come to its last step. -/
theorem pullMoments_of_asks {token : String} {opened loggedIn asked : Time.Instant}
    {ms : List Moment}
    (hfront : ms <+: Vault.pullMoments settings.endpoints d.spec.organizationId token
      d.status.lastSync settings.statePath opened loggedIn asked)
    (hasks : ∃ m ∈ ms, m.pull?.isSome = true) :
    ms = Vault.pullMoments settings.endpoints d.spec.organizationId token d.status.lastSync
      settings.statePath opened loggedIn asked := by
  obtain ⟨m, hm, hask⟩ := hasks
  match ms, hfront with
  | [], _ => cases hm
  | [m₁], hfront =>
    obtain ⟨rfl, -⟩ := List.cons_prefix_cons.mp hfront
    obtain rfl := List.mem_singleton.mp hm
    cases hask
  | [m₁, m₂], hfront =>
    obtain ⟨rfl, hrest⟩ := List.cons_prefix_cons.mp hfront
    obtain ⟨rfl, -⟩ := List.cons_prefix_cons.mp hrest
    obtain rfl | hm := List.mem_cons.mp hm
    · cases hask
    · obtain rfl := List.mem_singleton.mp hm
      cases hask
  | m₁ :: m₂ :: m₃ :: rest, hfront =>
    exact hfront.eq_of_length (Nat.le_antisymm hfront.length_le (Nat.le_add_left 3 _))

/-- An attempt that has asked for changes and did not break off was told values that can be
encoded. -/
theorem Attempted.clean {ms : List Moment} {ending : Except Failure Progress}
    (h : Attempted settings key d w ms ending w') (asked : ∃ m ∈ ms, m.pull?.isSome = true) :
    w.session.garbled? = none := by
  cases h with
  | abandoned failure passage moments clean => exact clean asked
  | unchanged pulled quiet after => exact pulled.clean
  | unfilled failure pulled changed target after moments => exact pulled.clean
  | written pulled changed target refilled => exact pulled.clean

/-- A pull that breaks an attempt off has asked for changes. -/
theorem Garbled.asked {ms : List Moment} {e : Text.Utf8.EncodeError}
    (h : Garbled settings key d w ms e w') : ∃ m ∈ ms, m.pull?.isSome = true := by
  cases h with
  | mk token read opened loggedIn asked passage told =>
    refine ⟨.call (.sync d.spec.organizationId d.status.lastSync) asked, ?_, rfl⟩
    simp [Vault.pullMoments]

/-- What a pull cannot encode is told by the session. -/
theorem Garbled.told {ms : List Moment} {e : Text.Utf8.EncodeError}
    (h : Garbled settings key d w ms e w') : w.session.garbled? = some e := by
  cases h with
  | mk _ _ _ _ _ _ told => exact told

/-- The moments of reading the target lie in the attempt. -/
theorem TargetRead.inAttempt {ms : List Moment} {s : Secret}
    (h : TargetRead settings key d w ms s w') : ∀ m ∈ ms, m.InAttempt d := by
  cases h with
  | found => exact List.forall_mem_singleton.mpr trivial
  | created =>
    exact List.forall_mem_cons.mpr ⟨trivial, List.forall_mem_singleton.mpr trivial⟩

/-- The moments of filling the target lie in the attempt. -/
theorem Refilled.inAttempt {values : Data} {target : Secret} {ms : List Moment}
    (h : Refilled settings key d values target w ms w') : ∀ m ∈ ms, m.InAttempt d := by
  cases h with
  | mk => exact List.forall_mem_cons.mpr ⟨trivial, List.forall_mem_singleton.mpr trivial⟩

/-- An attempt makes calls of its own kind only: it writes no status, and all that it asks the vault
for are the changes since the watermark. -/
theorem Attempted.inAttempt {ms : List Moment} {ending : Except Failure Progress}
    (h : Attempted settings key d w ms ending w') : ∀ m ∈ ms, m.InAttempt d := by
  cases h with
  | abandoned failure passage moments => exact moments
  | unchanged pulled quiet after => exact pulled.inAttempt
  | unfilled failure pulled changed target after moments =>
    exact List.forall_mem_append.mpr ⟨pulled.inAttempt,
      List.forall_mem_append.mpr ⟨target.inAttempt, moments⟩⟩
  | written pulled changed target refilled =>
    exact List.forall_mem_append.mpr ⟨pulled.inAttempt,
      List.forall_mem_append.mpr ⟨target.inAttempt, refilled.inAttempt⟩⟩

/-- A write stands behind its request in the history. -/
theorem history_of_write {v u : World} {ms : List Moment} {place : ObjectKey}
    {object : SecretObject} (passage : Passage w ms v)
    (after : Passage (v.withSecret place object) [] u) : u.history = w.history ++ ms := by
  rw [after.history, List.append_nil]
  exact passage.history

/-- Reading the target adds just its moments to the history. -/
theorem TargetRead.history {ms : List Moment} {s : Secret}
    (h : TargetRead settings key d w ms s w') : w'.history = w.history ++ ms := by
  cases h with
  | found read passage stored holds => exact passage.history
  | created read sent uid passage owned free after => exact history_of_write passage after

/-- Filling the target adds just its moments to the history. -/
theorem Refilled.history {values : Data} {target : Secret} {ms : List Moment}
    (h : Refilled settings key d values target w ms w') : w'.history = w.history ++ ms := by
  cases h with
  | mk now sent restores refills passage stored current after =>
    exact history_of_write passage after

/-- The moments of an attempt are added to the history. -/
theorem Attempted.history {ms : List Moment} {ending : Except Failure Progress}
    (h : Attempted settings key d w ms ending w') : w'.history = w.history ++ ms := by
  cases h with
  | abandoned failure passage => exact passage.history
  | unchanged pulled quiet after =>
    rw [after.history, List.append_nil]
    exact pulled.toPassage.history
  | unfilled failure pulled changed target after =>
    rw [after.history, target.history, pulled.toPassage.history, List.append_assoc,
      List.append_assoc]
  | written pulled changed target refilled =>
    rw [refilled.history, target.history, pulled.toPassage.history, List.append_assoc,
      List.append_assoc]

/-! ### What others keep is kept -/

section Keeps

variable {R : World → World → Prop}

/-- A relation that secrets do not matter for holds along a write of a secret. -/
theorem write_keeps (hR : Rely R)
    (hblind : ∀ (w : World) (place : ObjectKey) (object : SecretObject),
      R w (w.withSecret place object))
    {v u : World} {ms : List Moment} {place : ObjectKey} {object : SecretObject}
    (passage : Passage w ms v) (after : Passage (v.withSecret place object) [] u)
    (hw : w.OthersKeep R) : R w u ∧ u.OthersKeep R := by
  obtain ⟨hv, hothers⟩ := passage.keeps hR hw
  obtain ⟨hu, hothers'⟩ := after.keeps hR hothers
  exact ⟨hR.trans hv (hR.trans (hblind v place object) hu), hothers'⟩

private theorem TargetRead.keeps (hR : Rely R)
    (hblind : ∀ (w : World) (place : ObjectKey) (object : SecretObject),
      R w (w.withSecret place object))
    {ms : List Moment} {s : Secret} (h : TargetRead settings key d w ms s w')
    (hw : w.OthersKeep R) : R w w' ∧ w'.OthersKeep R := by
  cases h with
  | found read passage stored holds => exact passage.keeps hR hw
  | created read sent uid passage owned free after => exact write_keeps hR hblind passage after hw

private theorem Refilled.keeps (hR : Rely R)
    (hblind : ∀ (w : World) (place : ObjectKey) (object : SecretObject),
      R w (w.withSecret place object))
    {values : Data} {target : Secret} {ms : List Moment}
    (h : Refilled settings key d values target w ms w') (hw : w.OthersKeep R) :
    R w w' ∧ w'.OthersKeep R := by
  cases h with
  | mk now sent restores refills passage stored current after =>
    exact write_keeps hR hblind passage after hw

/-- An attempt writes secrets only, so what others keep about everything else is kept. -/
theorem Attempted.keeps (hR : Rely R)
    (hblind : ∀ (w : World) (place : ObjectKey) (object : SecretObject),
      R w (w.withSecret place object))
    {ms : List Moment} {ending : Except Failure Progress}
    (h : Attempted settings key d w ms ending w') (hw : w.OthersKeep R) :
    R w w' ∧ w'.OthersKeep R := by
  cases h with
  | abandoned failure passage => exact passage.keeps hR hw
  | unchanged pulled quiet after =>
    obtain ⟨hv, hothers⟩ := pulled.toPassage.keeps hR hw
    obtain ⟨hu, hothers'⟩ := after.keeps hR hothers
    exact ⟨hR.trans hv hu, hothers'⟩
  | unfilled failure pulled changed target after =>
    obtain ⟨hv, hothers⟩ := pulled.toPassage.keeps hR hw
    obtain ⟨hu, hothers'⟩ := target.keeps hR hblind hothers
    obtain ⟨hx, hothers''⟩ := after.keeps hR hothers'
    exact ⟨hR.trans hv (hR.trans hu hx), hothers''⟩
  | written pulled changed target refilled =>
    obtain ⟨hv, hothers⟩ := pulled.toPassage.keeps hR hw
    obtain ⟨hu, hothers'⟩ := target.keeps hR hblind hothers
    obtain ⟨hx, hothers''⟩ := refilled.keeps hR hblind hothers'
    exact ⟨hR.trans hv (hR.trans hu hx), hothers''⟩

end Keeps

/-! ### The steps of an attempt -/

private theorem ofResult_ends {ε α : Type} {failure : ε → Failure} {result : Except ε α}
    {r : Except Break α} (h : Ends (Step.ofResult failure result).run w r w') :
    r = result.mapError (fun e => .failed (failure e)) ∧ w' = w := ends_pure.mp h

/-- A reading of the clock is one moment, with the time that the clock then shows. -/
theorem now_ends {t : Time.Instant} (h : Ends Act.now w t w') :
    Passage w [.reading t] w' ∧ t = w'.clock := by
  unfold Act.now at h
  obtain ⟨_, _, hyield, h⟩ := ends_bind.mp h
  cases ends_modify.mp hyield
  rw [ends_modify_bind, ends_get_bind] at h
  obtain ⟨rfl, rfl⟩ := ends_pure.mp h
  exact ⟨((Passage.refl w).others).reading, rfl⟩

/-- An adapted step fails with a failure. -/
theorem adapt_fails {ε α : Type} {failure : ε → Failure} {x : ExceptT ε Act α} {b : Break}
    (h : Ends (Step.adapt failure x).run w (.error b) w') :
    ∃ e, Ends x.run w (.error e) w' ∧ b = .failed (failure e) := by
  obtain ⟨answer, hx, he⟩ := ends_run_adapt.mp h
  cases answer with
  | ok a => cases he
  | error e =>
    cases he
    exact ⟨e, hx, rfl⟩

/-- What an adapted step yields, the step itself does. -/
theorem adapt_yields {ε α : Type} {failure : ε → Failure} {x : ExceptT ε Act α} {a : α}
    (h : Ends (Step.adapt failure x).run w (.ok a) w') : Ends x.run w (.ok a) w' := by
  obtain ⟨answer, hx, he⟩ := ends_run_adapt.mp h
  cases answer with
  | error e => cases he
  | ok a =>
    cases he
    exact hx

private theorem readToken_ends {spec : Spec} {r : Except Break String}
    (h : Ends (readToken settings key spec).run w r w') :
    (∃ t, Passage w
      [.call (.readSecret ⟨key.ns, spec.authToken.secretName⟩ settings.access.timeout) t] w') ∧
      ∀ b, r = .error b → ∃ f, b = .failed f := by
  rcases ends_run_bind.mp h with ⟨b, hfetch, rfl⟩ | ⟨secret, v, hfetch, h⟩
  · obtain ⟨e, hfetched, rfl⟩ := adapt_fails hfetch
    refine ⟨(Cluster.Secrets.fetch_ends hfetched).1, ?_⟩
    intro b hb
    cases hb
    exact ⟨_, rfl⟩
  · obtain ⟨t, hpass⟩ := (Cluster.Secrets.fetch_ends (adapt_yields hfetch)).1
    split at h
    · obtain ⟨rfl, rfl⟩ := ends_run_throw.mp h
      refine ⟨⟨t, hpass⟩, ?_⟩
      intro b hb
      cases hb
      exact ⟨_, rfl⟩
    · obtain ⟨rfl, rfl⟩ := ofResult_ends h
      refine ⟨⟨t, hpass⟩, ?_⟩
      intro b hb
      obtain ⟨e, -, rfl⟩ := mapError_eq_error_iff.mp hb
      exact ⟨_, rfl⟩

private theorem createTarget_ends {r : Except Break Secret}
    (h : Ends (createTarget settings d).run w r w') :
    (∃ f ms, r = .error (.failed f) ∧ Passage w ms w' ∧ ∀ m ∈ ms, m.InAttempt d) ∨
      ∃ shell t v uid, (Secret.shell d).own d = .ok shell ∧
        Passage w
          [.call (.createSecret (d.ns.getD "") shell.toObject settings.access.timeout) t] v ∧
        v.secrets.get? d.targetKey = none ∧
        r = .ok { shell with
          ns := some (d.ns.getD ""), uid := uid, resourceVersion := some v.newVersion } ∧
        Passage (v.withSecret d.targetKey
          (shell.toObject.stored (some (d.ns.getD "")) uid v.newVersion)) [] w' := by
  rcases ends_run_bind.mp h with ⟨b, hown, rfl⟩ | ⟨shell, v, hown, hrest⟩
  · obtain ⟨hb, rfl⟩ := ofResult_ends hown
    obtain ⟨e, -, rfl⟩ := mapError_eq_error_iff.mp hb.symm
    exact Or.inl ⟨_, _, rfl, Passage.refl _, List.forall_mem_nil _⟩
  · obtain ⟨hresult, rfl⟩ := ofResult_ends hown
    have howned := mapError_eq_ok_iff.mp hresult.symm
    have hshell := Secret.own_cases howned
    have hns : shell.ns = d.ns := by
      rw [hshell]
      rfl
    have hname : shell.name = d.spec.secretName := by
      rw [hshell]
      rfl
    obtain ⟨_, hcreate, rfl⟩ := ends_run_adapt.mp hrest
    obtain ⟨t, v', hpass, ⟨e, rfl, hafter⟩ | ⟨hfree, uid, rfl, hafter⟩⟩ :=
      Cluster.Secrets.create_ends hcreate
    · exact Or.inl ⟨_, _, rfl, hpass.trans hafter, List.forall_mem_singleton.mpr trivial⟩
    · rw [hns, hname] at hfree hafter
      rw [hns] at hpass
      rw [hns]
      exact Or.inr ⟨shell, t, v', uid, howned, hpass, hfree, rfl, hafter⟩

private theorem readTarget_ends {r : Except Break Secret}
    (h : Ends (readTarget settings key d).run w r w') :
    (∃ f ms, r = .error (.failed f) ∧ Passage w ms w' ∧ ∀ m ∈ ms, m.InAttempt d) ∨
      ∃ s ms, r = .ok s ∧ TargetRead settings key d w ms s w' := by
  obtain ⟨answer, v, hfetch, h⟩ := ends_run_lift_bind.mp h
  obtain ⟨⟨t, hpass⟩, hstored⟩ := Cluster.Secrets.fetch_ends hfetch
  cases answer with
  | ok s =>
    obtain ⟨rfl, rfl⟩ := ends_run_pure.mp h
    obtain ⟨object, hobject, hs⟩ := hstored s rfl
    exact Or.inr ⟨s, _, rfl, .found t hpass hobject hs⟩
  | error e =>
    dsimp only at h
    split at h
    · rcases createTarget_ends h with
        ⟨f, ms, rfl, hrest, hms⟩ | ⟨shell, t', v', uid, howned, hrest, hfree, rfl, hafter⟩
      · exact Or.inl ⟨f, _, rfl, hpass.trans hrest, List.forall_mem_cons.mpr ⟨trivial, hms⟩⟩
      · exact Or.inr ⟨_, _, rfl, .created t t' uid (hpass.trans hrest) howned hfree hafter⟩
    · obtain ⟨rfl, rfl⟩ := ends_run_throw.mp h
      exact Or.inl ⟨_, _, rfl, hpass, List.forall_mem_singleton.mpr trivial⟩

private theorem fillTarget_ends {values : Data} {r : Except Break Unit}
    (h : Ends (fillTarget settings key d values).run w r w') :
    (∃ f ms, r = .error (.failed f) ∧ Passage w ms w' ∧ ∀ m ∈ ms, m.InAttempt d) ∨
      ∃ s ms ms' u, TargetRead settings key d w ms s u ∧
        ((∃ f, r = .error (.failed f) ∧ Passage u ms' w' ∧ ∀ m ∈ ms', m.InAttempt d) ∨
          r = .ok () ∧ Refilled settings key d values s u ms' w') := by
  rcases ends_run_bind.mp h with ⟨b, hread, rfl⟩ | ⟨s, u, hread, h⟩
  · obtain ⟨f, ms, he, hpass, hms⟩ | ⟨_, _, he, -⟩ := readTarget_ends hread
    · cases he
      exact Or.inl ⟨f, ms, rfl, hpass, hms⟩
    · cases he
  · obtain ⟨_, _, he, -⟩ | ⟨_, ms, he, htarget⟩ := readTarget_ends hread
    · cases he
    · cases he
      refine Or.inr ⟨s, ms, ?_⟩
      rcases ends_run_bind.mp h with ⟨b, hrestore, rfl⟩ | ⟨restored, _, hrestore, hrest⟩
      · obtain ⟨hb, rfl⟩ := ofResult_ends hrestore
        obtain ⟨e, -, rfl⟩ := mapError_eq_error_iff.mp hb.symm
        exact ⟨[], _, htarget, Or.inl ⟨_, rfl, Passage.refl _, List.forall_mem_nil _⟩⟩
      · obtain ⟨hresult, rfl⟩ := ofResult_ends hrestore
        have hrestores := mapError_eq_ok_iff.mp hresult.symm
        obtain ⟨now, v, hnow, hrest⟩ := ends_run_lift_bind.mp hrest
        obtain ⟨hreading, -⟩ := now_ends hnow
        rw [ends_run_get_bind] at hrest
        rcases ends_run_bind.mp hrest with ⟨b, hrefill, rfl⟩ | ⟨filled, _, hrefill, hwrite⟩
        · obtain ⟨hb, rfl⟩ := ofResult_ends hrefill
          obtain ⟨e, -, rfl⟩ := mapError_eq_error_iff.mp hb.symm
          exact ⟨_, _, htarget,
            Or.inl ⟨_, rfl, hreading, List.forall_mem_singleton.mpr trivial⟩⟩
        · obtain ⟨hresult, rfl⟩ := ofResult_ends hrefill
          have hrefills := mapError_eq_ok_iff.mp hresult.symm
          rw [hreading.writeFault] at hrefills
          rcases ends_run_bind.mp hwrite with ⟨b, hupdate, rfl⟩ | ⟨_, _, hupdate, hdone⟩
          · obtain ⟨e, hupdated, rfl⟩ := adapt_fails hupdate
            obtain ⟨t, v', hpass, ⟨_, -, hafter⟩ | ⟨_, _, _, he, -⟩⟩ :=
              Cluster.Secrets.update_ends hupdated
            · refine ⟨_, _, htarget, Or.inl ⟨_, rfl, hreading.trans (hpass.trans hafter), ?_⟩⟩
              exact List.forall_mem_cons.mpr ⟨trivial, List.forall_mem_singleton.mpr trivial⟩
            · cases he
          · obtain ⟨rfl, rfl⟩ := ends_run_pure.mp hdone
            obtain ⟨t, v', hpass, ⟨_, he, -⟩ | ⟨old, hold, hversion, -, hafter⟩⟩ :=
              Cluster.Secrets.update_ends (adapt_yields hupdate)
            · cases he
            · exact ⟨_, _, htarget, Or.inr ⟨rfl,
                .mk now t hrestores hrefills (hreading.trans hpass) hold hversion hafter⟩⟩

private theorem pullChanges_ends {token : String} {r : Except Break Vault.Delta} {v : World}
    {read : Time.Instant}
    (htoken : Passage w
      [.call (.readSecret ⟨key.ns, d.spec.authToken.secretName⟩ settings.access.timeout) read] v)
    (h : Ends (pullChanges settings d token).run v r w') :
    (∃ f ms, r = .error (.failed f) ∧ Passage w ms w' ∧ (∀ m ∈ ms, m.InAttempt d) ∧
      ((∃ m ∈ ms, m.pull?.isSome = true) → w.session.garbled? = none)) ∨
    (∃ e ms, r = .error (.value e) ∧ Garbled settings key d w ms e w') ∨
      ∃ delta ms, r = .ok delta ∧ Pulled settings key d w ms delta w' := by
  have hsession := htoken.session (List.forall_mem_singleton.mpr rfl)
  obtain ⟨answer, hpull, rfl⟩ := ends_run_adapt.mp h
  obtain ⟨t₁, t₂, t₃, ms, hfront, hpass, hanswer⟩ := Vault.pull_ends hpull
  cases answer with
  | error e =>
    cases e with
    | vault e =>
      refine Or.inl ⟨_, _, rfl, htoken.trans hpass, ?_, ?_⟩
      · refine List.forall_mem_cons.mpr ⟨trivial, ?_⟩
        exact fun m hm => pullMoments_inAttempt m (hfront.subset hm)
      · intro hasks
        rw [← hsession, Vault.Session.garbled?, hanswer (pullMoments_of_asks hfront ?_)]
        · rfl
        · obtain ⟨m, hm, hask⟩ := hasks
          obtain rfl | hm := List.mem_cons.mp hm
          · cases hask
          · exact ⟨m, hm, hask⟩
    | value e =>
      obtain ⟨rfl, htold⟩ := hanswer
      rw [hsession] at htold
      exact Or.inr (Or.inl ⟨e, _, rfl, .mk token read t₁ t₂ t₃ (htoken.trans hpass) htold⟩)
  | ok delta =>
    obtain ⟨rfl, hoffered⟩ := hanswer
    rw [hsession] at hoffered
    exact Or.inr (Or.inr ⟨delta, _, rfl, .mk token read t₁ t₂ t₃ (htoken.trans hpass) hoffered⟩)

/-- An attempt ends in one of the ways of `Attempted`, or breaks off over a value that cannot be
encoded. -/
theorem attempt_ends {r : Except Break Progress} (h : Ends (attempt settings key d).run w r w') :
    (∃ ending ms, r = ending.mapError .failed ∧ Attempted settings key d w ms ending w') ∨
      ∃ e ms, r = .error (.value e) ∧ Garbled settings key d w ms e w' := by
  rcases ends_run_bind.mp h with ⟨b, htoken, rfl⟩ | ⟨token, v, htoken, h⟩
  · obtain ⟨⟨t, hpass⟩, hfails⟩ := readToken_ends htoken
    obtain ⟨f, rfl⟩ := hfails b rfl
    refine Or.inl ⟨.error f, _, rfl, .abandoned f hpass (List.forall_mem_singleton.mpr trivial) ?_⟩
    rintro ⟨m, hm, hask⟩
    obtain rfl := List.mem_singleton.mp hm
    cases hask
  · obtain ⟨⟨t, hpass⟩, -⟩ := readToken_ends htoken
    rcases ends_run_bind.mp h with ⟨b, hpull, rfl⟩ | ⟨delta, u, hpull, h⟩
    · obtain ⟨f, ms, he, hpulled, hms, hclean⟩ | ⟨e, ms, he, hgarbled⟩ | ⟨_, _, he, -⟩ :=
        pullChanges_ends hpass hpull
      · cases he
        exact Or.inl ⟨.error f, ms, rfl, .abandoned f hpulled hms hclean⟩
      · cases he
        exact Or.inr ⟨e, ms, rfl, hgarbled⟩
      · cases he
    · obtain ⟨_, _, he, -⟩ | ⟨_, _, he, -⟩ | ⟨_, ms, he, hpulled⟩ := pullChanges_ends hpass hpull
      · cases he
      · cases he
      · cases he
        split at h
        · next hchanged =>
          rcases ends_run_bind.mp h with ⟨b, hfill, rfl⟩ | ⟨_, _, hfill, h⟩
          · obtain ⟨f, ms', he, hrest, hms⟩ |
                ⟨s, ms', ms'', x, htarget, ⟨f, he, hrest, hms⟩ | ⟨he, -⟩⟩ := fillTarget_ends hfill
            · cases he
              refine Or.inl ⟨.error f, _, rfl, .abandoned f (hpulled.toPassage.trans hrest) ?_ ?_⟩
              · exact List.forall_mem_append.mpr ⟨hpulled.inAttempt, hms⟩
              · exact fun _ => hpulled.clean
            · cases he
              exact Or.inl ⟨.error f, _, rfl, .unfilled f hpulled hchanged htarget hrest
                hms⟩
            · cases he
          · obtain ⟨rfl, rfl⟩ := ends_run_pure.mp h
            obtain ⟨_, _, he, -⟩ | ⟨s, ms', ms'', x, htarget, ⟨_, he, -⟩ | ⟨-, hrefilled⟩⟩ :=
              fillTarget_ends hfill
            · cases he
            · cases he
            · exact Or.inl ⟨.ok .written, _, rfl, .written hpulled hchanged htarget hrefilled⟩
        · next hquiet =>
          obtain ⟨_, _, hlog, h⟩ := ends_run_lift_bind.mp h
          cases ends_modify.mp hlog
          obtain ⟨rfl, rfl⟩ := ends_run_pure.mp h
          exact Or.inl ⟨.ok .unchanged, ms, rfl, .unchanged hpulled
            (Bool.not_eq_true _ ▸ hquiet) ((Passage.refl u).logged _)⟩

end Sync
end SecretSync

import SecretSync.Proofs.Sync.Advance

/-!
# Other writers of the target

Others may change the target while a reconcile is under way: between the read that misses it and its
creation, between its creation and its replacement, or between its read and its replacement.  Each
write asks for what the reconcile has last seen: a creation for an empty place, a replacement for
the version that was read or created.  So it is refused once others have changed that, and what they
have left stays.
-/

namespace SecretSync

namespace Declaration

/-- The watermark of an object is that of an older one, as it stood there or written anew. -/
def SameWatermark (old object : Json) : Prop :=
  watermarkOf object = watermarkOf old ∨
    ∃ t, readWatermark old = .ok (some t) ∧ watermarkOf object = .str (Time.Timestamp.format t)

/-- The same watermark reads the same. -/
theorem SameWatermark.reading {old object : Json} (h : SameWatermark old object)
    (hyear : WatermarkInFourDigitYear old) : readWatermark object = readWatermark old := by
  obtain heq | ⟨t, hold, heq⟩ := h
  · exact readWatermark_congr heq
  · rw [hold, readWatermark, heq, timestamp_format (hyear t hold)]

end Declaration

namespace Sync

open Act
open Declaration (targetKey readWatermark SameWatermark WatermarkInFourDigitYear)

/-- A reconcile has found changes and is about to look for its target: it has read the declaration,
which was no echo, its access token, and the changes since its watermark. -/
inductive TargetReached (settings : Settings) (key : ObjectKey) (w : World) (d : Declaration)
    (delta : Vault.Delta) : World → Prop
  | mk {v₁ v₂ v₃ v₄ v : World} {now : Time.Instant} {token : String}
    (fetched : Ends (Cluster.Declarations.fetch settings.access key).run w (.ok d) v₁)
    (clock : Ends Act.now v₁ now v₂)
    (behind : isEcho? d.status.lastSync now settings.guardWindow = some false)
    (announced : Ends (Act.log .info "reconcile_started"
      (logFields key [("message", .str ("Syncing " ++ key.text))])) v₂ () v₃)
    (read : Ends (readToken settings key d.spec).run v₃ (.ok token) v₄)
    (pulled : Ends (pullChanges settings d token).run v₄ (.ok delta) v)
    (changed : delta.hasChanges = true) :
    TargetReached settings key w d delta v

/-- A reconcile sends a write of its target to a place, with the version of the secret that it has
last seen there, or with nothing if it has seen none.  The request is answered behind the next turn
of the others. -/
inductive WriteSent (settings : Settings) (key : ObjectKey) (w : World) :
    ObjectKey → Option String → World → Prop
  | creation {v u : World} {d : Declaration} {delta : Vault.Delta} {e : ClusterError}
    {shell : Secret} (reached : TargetReached settings key w d delta v)
    (looked : Ends (Cluster.Secrets.fetch settings.access key.ns d.spec.secretName).run v
      (.error e) u)
    (missing : e.isNotFound = true) (owned : (Secret.shell d).own d = .ok shell) :
    WriteSent settings key w d.targetKey none u
  | replacement {v x u : World} {d : Declaration} {delta : Vault.Delta}
    {s restored filled : Secret} {version : String} {now : Time.Instant}
    (reached : TargetReached settings key w d delta v)
    (target : Ends (readTarget settings key d).run v (.ok s) x)
    (versioned : s.resourceVersion = some version) (restores : Sync.restored s = .ok restored)
    (clock : Ends Act.now x now u)
    (refills : refill (u.writeFault d.spec.map) key d delta.values now restored = .ok filled) :
    WriteSent settings key w s.place (some version) u

variable {settings : Settings} {key place : ObjectKey} {d : Declaration} {delta : Vault.Delta}
  {v u w w' : World} {ending : Except Escape Result}

/-! ### The write is refused -/

/-- A reconcile that has found changes goes on to fill its target, and records a failure of that. -/
theorem TargetReached.continues (reached : TargetReached settings key w d delta v)
    (h : Ends (reconcile settings key).run w ending w') :
    ∃ r u, Ends (fillTarget settings key d delta.values).run v r u ∧
      ∀ failure, r = .error (.failed failure) →
        ending = .ok (reported settings key (.error failure)) ∧
        ∃ ms, Recorded settings (recorded key d (.error failure)) u ms w' := by
  obtain ⟨fetched, clock, behind, announced, read, pulled, changed⟩ := reached
  obtain ⟨_, _, hfetch, h⟩ := ends_run_lift_bind.mp h
  obtain ⟨rfl, rfl⟩ := fetched.unique hfetch
  obtain ⟨_, _, hnow, h⟩ := ends_run_lift_bind.mp h
  obtain ⟨rfl, rfl⟩ := clock.unique hnow
  rw [behind] at h
  obtain ⟨_, _, hlog, h⟩ := ends_run_lift_bind.mp h
  obtain ⟨-, rfl⟩ := announced.unique hlog
  obtain ⟨answer, x, htried, h⟩ := ends_run_lift_bind.mp h
  obtain ⟨_, hread, -⟩ | ⟨_, _, hread, htried⟩ := ends_run_bind.mp htried
  · cases (read.unique hread).1
  obtain ⟨htoken, rfl⟩ := read.unique hread
  cases htoken
  obtain ⟨_, hpull, -⟩ | ⟨_, _, hpull, htried⟩ := ends_run_bind.mp htried
  · cases (pulled.unique hpull).1
  obtain ⟨hdelta, rfl⟩ := pulled.unique hpull
  cases hdelta
  rw [if_pos changed] at htried
  obtain ⟨f, hfill, rfl⟩ | ⟨_, y, hfill, -⟩ := ends_run_bind.mp htried
  · refine ⟨_, x, hfill, ?_⟩
    rintro failure ⟨⟩
    obtain ⟨result, hrecord, rfl⟩ := ends_run_lift.mp h
    obtain ⟨rfl, hrecorded⟩ := recordFailure_ends hrecord
    exact ⟨rfl, hrecorded⟩
  · exact ⟨_, y, hfill, nofun⟩

/-- What is created for a declaration has its place. -/
theorem place_of_own {shell : Secret} (h : (Secret.shell d).own d = .ok shell) :
    shell.place = d.targetKey := by
  rw [Secret.own_cases h]
  rfl

/-- What a secret is refilled to asks for the version that was read. -/
theorem resourceVersion_of_refill {mapFault : Option String} {values : Data}
    {now : Time.Instant} {s restored filled : Secret} (hrestore : Sync.restored s = .ok restored)
    (hrefill : refill mapFault key d values now restored = .ok filled) :
    filled.resourceVersion = s.resourceVersion := by
  rw [(refill_cases hrefill).2.2, restored_cases hrestore]

/-- A creation fails where there is a secret by now. -/
theorem fillTarget_of_creation {values : Data} {e : ClusterError} {shell : Secret}
    {r : Except Break Unit}
    (looked : Ends (Cluster.Secrets.fetch settings.access key.ns d.spec.secretName).run v
      (.error e) u)
    (missing : e.isNotFound = true) (owned : (Secret.shell d).own d = .ok shell)
    (there : u.interlude.secrets.get? d.targetKey ≠ none)
    (h : Ends (fillTarget settings key d values).run v r w') :
    ∃ failure c, r = .error (.failed failure) ∧ (u.interlude.noted c).SameAccount w' := by
  have hcreate : ∀ {answer x}, Ends (readTarget settings key d).run v answer x →
      ∃ failure c, answer = .error (.failed failure) ∧ (u.interlude.noted c).SameAccount x := by
    intro answer x hread
    obtain ⟨_, _, hfetch, hread⟩ := ends_run_lift_bind.mp hread
    obtain ⟨rfl, rfl⟩ := looked.unique hfetch
    dsimp only at hread
    rw [if_pos missing] at hread
    obtain ⟨_, hown, -⟩ | ⟨_, _, hown, hread⟩ := ends_run_bind.mp hread
    · rw [owned] at hown
      cases (ends_pure.mp hown).1
    · rw [owned] at hown
      obtain ⟨hshell, rfl⟩ := ends_pure.mp hown
      cases hshell
      obtain ⟨_, hcreate, rfl⟩ := ends_run_adapt.mp hread
      rw [← place_of_own owned] at there
      obtain ⟨⟨f, rfl⟩, hsame⟩ := Cluster.Secrets.create_refused hcreate there
      exact ⟨_, _, rfl, hsame⟩
  obtain ⟨f, hread, rfl⟩ | ⟨_, _, hread, -⟩ := ends_run_bind.mp h
  · obtain ⟨_, c, hfailed, hsame⟩ := hcreate hread
    cases hfailed
    exact ⟨_, c, rfl, hsame⟩
  · obtain ⟨_, _, hfailed, -⟩ := hcreate hread
    cases hfailed

/-- A replacement fails where there is no secret of that version by now. -/
theorem fillTarget_of_replacement {values : Data} {s restored filled : Secret} {x : World}
    {version : String} {now : Time.Instant} {r : Except Break Unit}
    (target : Ends (readTarget settings key d).run v (.ok s) x)
    (versioned : s.resourceVersion = some version) (restores : Sync.restored s = .ok restored)
    (clock : Ends Act.now x now u)
    (refills : refill (u.writeFault d.spec.map) key d values now restored = .ok filled)
    (changed : (u.interlude.secrets.get? s.place).map (·.resourceVersion) ≠ some (some version))
    (h : Ends (fillTarget settings key d values).run v r w') :
    ∃ failure c, r = .error (.failed failure) ∧ (u.interlude.noted c).SameAccount w' := by
  obtain ⟨_, hread, -⟩ | ⟨_, _, hread, h⟩ := ends_run_bind.mp h
  · cases (target.unique hread).1
  obtain ⟨hs, rfl⟩ := target.unique hread
  cases hs
  rw [restores] at h
  obtain ⟨_, hrestore, -⟩ | ⟨_, _, hrestore, h⟩ := ends_run_bind.mp h
  · cases (ends_pure.mp hrestore).1
  obtain ⟨hrestored, rfl⟩ := ends_pure.mp hrestore
  cases hrestored
  obtain ⟨_, _, hnow, h⟩ := ends_run_lift_bind.mp h
  obtain ⟨rfl, rfl⟩ := clock.unique hnow
  rw [ends_run_get_bind, refills] at h
  obtain ⟨_, hrefill, -⟩ | ⟨_, _, hrefill, h⟩ := ends_run_bind.mp h
  · cases (ends_pure.mp hrefill).1
  obtain ⟨hfilled, rfl⟩ := ends_pure.mp hrefill
  cases hfilled
  have hversion := (resourceVersion_of_refill restores refills).trans versioned
  rw [← place_of_refill restores refills] at changed
  obtain ⟨_, hupdate, rfl⟩ | ⟨_, _, hupdate, -⟩ := ends_run_bind.mp h
  · obtain ⟨_, hupdate, hfault⟩ := ends_run_adapt.mp hupdate
    obtain ⟨⟨_, rfl⟩, hsame⟩ := Cluster.Secrets.update_refused hupdate hversion changed
    cases hfault
    exact ⟨_, _, rfl, hsame⟩
  · obtain ⟨_, hupdate, hok⟩ := ends_run_adapt.mp hupdate
    obtain ⟨⟨_, rfl⟩, -⟩ := Cluster.Secrets.update_refused hupdate hversion changed
    cases hok

/-- A write is refused if others have changed what the reconcile has last seen; the request leaves
the secrets as the others have left them, and the reconcile records its failure. -/
theorem WriteSent.refused {seen : Option String} (sent : WriteSent settings key w place seen u)
    (changed : (u.interlude.secrets.get? place).map (·.resourceVersion) ≠ seen.map some)
    (h : Ends (reconcile settings key).run w ending w') :
    ∃ failure c d x ms, ending = .ok (reported settings key (.error failure)) ∧
      (u.interlude.noted c).SameAccount x ∧
      Recorded settings (recorded key d (.error failure)) x ms w' := by
  cases sent with
  | creation reached looked missing owned =>
    obtain ⟨r, x, hfill, hfails⟩ := reached.continues h
    have hthere : u.interlude.secrets.get? _ ≠ none := fun hnone => changed (by rw [hnone]; rfl)
    obtain ⟨failure, c, rfl, hsame⟩ := fillTarget_of_creation looked missing owned hthere hfill
    obtain ⟨hending, ms, hrecorded⟩ := hfails failure rfl
    exact ⟨failure, c, _, x, ms, hending, hsame, hrecorded⟩
  | replacement reached target versioned restores clock refills =>
    obtain ⟨r, x, hfill, hfails⟩ := reached.continues h
    obtain ⟨failure, c, rfl, hsame⟩ :=
      fillTarget_of_replacement target versioned restores clock refills changed hfill
    obtain ⟨hending, ms, hrecorded⟩ := hfails failure rfl
    exact ⟨failure, c, _, x, ms, hending, hsame, hrecorded⟩

/-! ### The write is accepted -/

/-- A reconcile that ends with a written target has found changes and filled its target. -/
theorem reached_of_synced (h : Ends (reconcile settings key).run w ending w')
    (synced : outcome? ending = some .synced) :
    ∃ d delta v u, TargetReached settings key w d delta v ∧
      Ends (fillTarget settings key d delta.values).run v (.ok ()) u := by
  obtain ⟨answer, v₁, hfetch, h⟩ := ends_run_lift_bind.mp h
  cases answer with
  | error e =>
    obtain ⟨result, hreport, rfl⟩ := ends_run_lift.mp h
    obtain ⟨-, houtcome, -⟩ := reportUnread_ends hreport
    obtain ho | ho := houtcome <;> cases ho.symm.trans (Option.some.inj synced)
  | ok d =>
    obtain ⟨now, v₂, hnow, h⟩ := ends_run_lift_bind.mp h
    split at h
    · obtain ⟨rfl, -⟩ := ends_run_throw.mp h
      cases synced
    · obtain ⟨_, _, -, h⟩ := ends_run_lift_bind.mp h
      obtain ⟨rfl, -⟩ := ends_run_pure.mp h
      cases synced
    · next hbehind =>
      obtain ⟨_, v₃, hlog, h⟩ := ends_run_lift_bind.mp h
      obtain ⟨answer, x, htried, h⟩ := ends_run_lift_bind.mp h
      split at h
      · obtain ⟨result, hrecord, rfl⟩ := ends_run_lift.mp h
        obtain ⟨rfl, -⟩ := recordFailure_ends hrecord
        cases synced
      · obtain ⟨rfl, -⟩ := ends_run_throw.mp h
        cases synced
      · obtain ⟨result, hrecord, rfl⟩ := ends_run_lift.mp h
        obtain ⟨rfl, -⟩ := recordProgress_ends hrecord
        obtain ⟨_, -, he⟩ | ⟨token, v₄, hread, htried⟩ := ends_run_bind.mp htried
        · cases he
        obtain ⟨_, -, he⟩ | ⟨delta, v, hpull, htried⟩ := ends_run_bind.mp htried
        · cases he
        split at htried
        · next hchanged =>
          obtain ⟨_, -, he⟩ | ⟨_, u, hfill, -⟩ := ends_run_bind.mp htried
          · cases he
          · exact ⟨d, delta, v, u, .mk hfetch hnow hbehind hlog hread hpull hchanged, hfill⟩
        · obtain ⟨_, _, -, hquiet⟩ := ends_run_lift_bind.mp htried
          cases (ends_run_pure.mp hquiet).1
          cases synced

/-- A target that was filled has been read, and was refilled as of a later reading of the clock. -/
theorem refill_of_filled {values : Data}
    (h : Ends (fillTarget settings key d values).run v (.ok ()) w') :
    ∃ s x restored now u filled, Ends (readTarget settings key d).run v (.ok s) x ∧
      Sync.restored s = .ok restored ∧ Ends Act.now x now u ∧
      refill (u.writeFault d.spec.map) key d values now restored = .ok filled := by
  obtain ⟨_, -, he⟩ | ⟨s, x, hread, hrest⟩ := ends_run_bind.mp h
  · cases he
  obtain ⟨_, -, he⟩ | ⟨restored, _, hrestore, hlater⟩ := ends_run_bind.mp hrest
  · cases he
  obtain ⟨hrestored, rfl⟩ := ends_pure.mp hrestore
  obtain ⟨now, u, hnow, hlast⟩ := ends_run_lift_bind.mp hlater
  rw [ends_run_get_bind] at hlast
  obtain ⟨_, -, he⟩ | ⟨filled, _, hrefill, -⟩ := ends_run_bind.mp hlast
  · cases he
  obtain ⟨hfilled, -⟩ := ends_pure.mp hrefill
  exact ⟨s, _, restored, now, u, filled, hread, mapError_eq_ok_iff.mp hrestored.symm, hnow,
    mapError_eq_ok_iff.mp hfilled.symm⟩

/-- A reconcile that ends with a written target has sent the replacement of a secret that still had
the version which it had last seen. -/
theorem replaced_as_seen (h : Ends (reconcile settings key).run w ending w')
    (synced : outcome? ending = some .synced) :
    ∃ d delta v s x, TargetReached settings key w d delta v ∧
      Ends (readTarget settings key d).run v (.ok s) x ∧
      ∀ version, s.resourceVersion = some version →
        ∃ u, WriteSent settings key w s.place (some version) u ∧
          (u.interlude.secrets.get? s.place).map (·.resourceVersion) = some (some version) := by
  obtain ⟨d, delta, v, _, hreached, hfill⟩ := reached_of_synced h synced
  obtain ⟨s, x, restored, now, u, filled, hread, hrestore, hnow, hrefill⟩ := refill_of_filled hfill
  refine ⟨d, delta, v, s, x, hreached, hread, fun version hversion => ?_⟩
  have hsent := WriteSent.replacement hreached hread hversion hrestore hnow hrefill
  refine ⟨u, hsent, Classical.byContradiction fun hchanged => ?_⟩
  obtain ⟨failure, _, _, _, _, rfl, -⟩ := hsent.refused hchanged h
  cases synced

/-! ### The watermark -/

/-- A failed reconcile leaves a watermark that others leave alone. -/
theorem failed_watermark {object : Json} (hothers : w.OthersKeep (KeepsWatermark key))
    (h : Ends (reconcile settings key).run w ending w') (failed : outcome? ending = some .failed)
    (hobject : w'.declarations.get? key = some object) :
    ∃ old, w.declarations.get? key = some old ∧ SameWatermark old object := by
  obtain ⟨ms, h⟩ := reconcile_ends h
  cases h with
  | unread passage outcome =>
    obtain ho | ho := outcome <;> cases ho.symm.trans (Option.some.inj failed)
  | overflow found outside => cases failed
  | echo found inside => cases failed
  | garbled found behind broken => cases failed
  | @attempted v u _ _ _ _ d _ ending found behind tried record =>
    cases ending with
    | ok progress => cases progress <;> cases failed
    | error failure =>
      obtain ⟨hv, hothersv⟩ := found.toPassage.keeps keepsWatermark_rely hothers
      obtain ⟨hu, hothersu⟩ := tried.keeps keepsWatermark_rely keepsWatermark_withSecret hothersv
      obtain ⟨before, hbefore, hleft⟩ := recorded_leaves hothersu record hobject
      obtain ⟨old, hold, hsame⟩ := keepsWatermark_rely.trans hv hu before hbefore
      refine ⟨old, hold, ?_⟩
      obtain heq | ⟨stored, now, version, hstored, heq⟩ := hleft
      · exact Or.inl (heq.trans hsame)
      · rw [Cluster.Declarations.statusBody, Declaration.watermarkOf_patched, lastSync_recorded_eq,
          watermarkAfter] at heq
        have hread := found.watermark hothers hold
        cases hlast : d.status.lastSync with
        | none =>
          rw [hlast] at heq
          exact Or.inl (heq.trans (hstored.trans hsame))
        | some t =>
          rw [hlast] at heq hread
          exact Or.inr ⟨t, hread, heq⟩

/-! ### Reconciles -/

/-- When a reconcile sends a write of its target, and others have changed what it has last seen
there, in whatever way, it fails.  All secrets stay as the others have left them by then, unless
these change them again, and the watermark stays. -/
theorem changed_target_stays {seen : Option String}
    (sent : WriteSent settings key w place seen u)
    (changed : (u.interlude.secrets.get? place).map (·.resourceVersion) ≠ seen.map some)
    (ends : Ends (reconcile settings key).run w ending w') :
    outcome? ending = some .failed ∧
    (∀ other, u.interlude.OthersKeep (KeepsSecret other) →
      w'.secrets.get? other = u.interlude.secrets.get? other) ∧
    (w.OthersKeep (KeepsWatermark key) → ∀ object, w'.declarations.get? key = some object →
      ∃ old, w.declarations.get? key = some old ∧ SameWatermark old object ∧
        (WatermarkInFourDigitYear old → readWatermark object = readWatermark old)) := by
  obtain ⟨failure, c, d, x, ms, rfl, hsame, hrecorded⟩ := sent.refused changed ends
  refine ⟨rfl, ?_, ?_⟩
  · intro other hothers
    have hsecrets : x.secrets = u.interlude.secrets := hsame.secrets
    have hothersx : x.OthersKeep (KeepsSecret other) := by
      rw [World.OthersKeep, hsame.others]
      exact hothers
    rw [← hsecrets]
    exact recorded_keepsSecret hothersx hrecorded
  · intro hothers object hobject
    obtain ⟨old, hold, hkept⟩ := failed_watermark hothers ends rfl hobject
    exact ⟨old, hold, hkept, hkept.reading⟩

namespace Sample

/-- Another writer deletes the target right before the reconcile that has created it replaces it. -/
def contestedWorld : World :=
  { world [] (session .zero [("a", "1")]) with
    others := List.replicate 9 [] ++ [[.deleteSecret ⟨"default", "app-env"⟩]] }

/-- The declaration of the sample, as it is read. -/
def declaration : Declaration :=
  ⟨"app", some "default", some "u1", none, none, Dict.empty, Dict.empty,
    ⟨"org", "app-env", ⟨"auth", "token"⟩, none⟩, ⟨none, []⟩⟩

/-- The world behind the reading of the access token. -/
def readWorld : World :=
  let w := (StateT.run
    (Cluster.Declarations.fetch Sample.settings.access Sample.key).run contestedWorld).2
  let w := (StateT.run Act.now w).2
  let w := (StateT.run (Act.log .info "reconcile_started"
    (logFields Sample.key [("message", .str ("Syncing " ++ Sample.key.text))])) w).2
  (StateT.run (readToken Sample.settings Sample.key declaration.spec).run w).2

/-- The world in which the changes have been pulled. -/
def pulledWorld : World :=
  (StateT.run (pullChanges Sample.settings declaration "token").run readWorld).2

/-- The world in which the target has been created. -/
def createdWorld : World :=
  (StateT.run (readTarget Sample.settings Sample.key declaration).run pulledWorld).2

/-- The world in which the replacement of the target is sent. -/
def sendingWorld : World := (StateT.run Act.now createdWorld).2

set_option maxRecDepth 10000 in
private theorem targetReached_pulledWorld :
    ∃ delta, TargetReached Sample.settings Sample.key contestedWorld declaration delta
      pulledWorld := by
  have hpulled : (StateT.run (pullChanges Sample.settings declaration "token").run
      readWorld).1.toOption.map (·.hasChanges) = some true := by decide +kernel
  obtain ⟨delta, hdelta, hchanged⟩ := Option.map_eq_some_iff.mp hpulled
  exact ⟨delta, .mk (ends_of_toOption (by decide +kernel)) (ends_self _ _) (by decide +kernel)
    (ends_self _ _) (ends_of_toOption (by decide +kernel)) (ends_of_toOption hdelta) hchanged⟩

set_option maxRecDepth 10000 in
private theorem writeSent_sendingWorld :
    WriteSent Sample.settings Sample.key contestedWorld declaration.targetKey (some "1")
      sendingWorld := by
  obtain ⟨delta, hreached⟩ := targetReached_pulledWorld
  have hread : (StateT.run (readTarget Sample.settings Sample.key declaration).run
      pulledWorld).1.toOption.map (fun s => (s.place, s.resourceVersion, s.annotations)) =
        some (declaration.targetKey, some "1", Dict.empty) := by decide +kernel
  obtain ⟨s, hs, hseen⟩ := Option.map_eq_some_iff.mp hread
  obtain ⟨hplace, hversion, hannotations⟩ : s.place = _ ∧ s.resourceVersion = _ ∧
    s.annotations = _ := by simpa using hseen
  have hrestore : restored s = .ok s := by
    rw [restored, Secret.restoreIds, hannotations]
    rfl
  obtain ⟨filled, hrefill⟩ := exists_refill Sample.key declaration delta.values
    (StateT.run Act.now createdWorld).1 s
  rw [← hplace]
  exact .replacement hreached (ends_of_toOption hs) hversion hrestore (ends_self _ _) hrefill

/-- Nothing that others do there touches a watermark. -/
theorem othersKeep_contestedWorld :
    contestedWorld.OthersKeep (KeepsWatermark Sample.key) := by
  intro deeds hdeeds deed hdeed v
  refine keepsWatermark_disturb v ?_
  rintro place object rfl
  rw [contestedWorld, List.mem_append] at hdeeds
  obtain hempty | hlast := hdeeds
  · cases List.eq_of_mem_replicate hempty ▸ hdeed
  · cases List.mem_singleton.mp hlast
    cases List.mem_singleton.mp hdeed

end Sample

set_option maxRecDepth 10000 in
/-- The statement at a target that is deleted before its replacement arrives. -/
theorem changed_target_stays_deleted :
    ∃ (ending : Except Escape Result) (w' : World),
      let w := Sample.contestedWorld
      let u := Sample.sendingWorld
      let place := Sample.declaration.targetKey
      WriteSent Sample.settings Sample.key w place (some "1") u ∧
      (u.interlude.secrets.get? place).map (·.resourceVersion) ≠ some (some "1") ∧
      Ends (reconcile Sample.settings Sample.key).run w ending w' ∧
      u.interlude.OthersKeep (KeepsSecret place) ∧ w.OthersKeep (KeepsWatermark Sample.key) ∧
      (w'.declarations.get? Sample.key).isSome = true ∧
      outcome? ending = some .failed ∧
      (∀ other, u.interlude.OthersKeep (KeepsSecret other) →
        w'.secrets.get? other = u.interlude.secrets.get? other) ∧
      (w.OthersKeep (KeepsWatermark Sample.key) →
        ∀ object, w'.declarations.get? Sample.key = some object →
          ∃ old, w.declarations.get? Sample.key = some old ∧ SameWatermark old object ∧
            (WatermarkInFourDigitYear old → readWatermark object = readWatermark old)) := by
  have hends := ends_self (reconcile Sample.settings Sample.key).run Sample.contestedWorld
  have hgone : (Sample.sendingWorld.interlude.secrets.get?
      Sample.declaration.targetKey).map (·.resourceVersion) ≠ some (some "1") := by decide +kernel
  have hkept : Sample.sendingWorld.interlude.OthersKeep
      (KeepsSecret Sample.declaration.targetKey) :=
    World.othersKeep_of_isEmpty (by decide +kernel)
  have hthere : ((StateT.run (reconcile Sample.settings Sample.key).run
      Sample.contestedWorld).2.declarations.get? Sample.key).isSome = true := by decide +kernel
  exact ⟨_, _, Sample.writeSent_sendingWorld, hgone, hends, hkept, Sample.othersKeep_contestedWorld,
    hthere, changed_target_stays Sample.writeSent_sendingWorld hgone hends⟩

end Sync
end SecretSync

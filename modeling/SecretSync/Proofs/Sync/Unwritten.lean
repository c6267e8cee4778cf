import SecretSync.Proofs.Declaration.Status
import SecretSync.Proofs.Sync.Advance

/-!
# Reconciles that write no target

A reconcile that does not end with a written target leaves every secret as it was; it may leave a
target that it has created and then failed to fill.  A failed one changes nothing in the status but
the condition that tells of the failure.
-/

namespace SecretSync

open Declaration (targetKey)

/-- A stored secret is empty and belongs to a declaration: it has no values and no annotations, its
one label names the uid of the declaration, and the declaration controls it as its one owner. -/
structure SecretObject.IsShell (d : Declaration) (object : SecretObject) : Prop where
  data : object.data = some Dict.empty
  annotations : object.fields.annotations = some Dict.empty
  owner : ∃ uid, d.uid = some uid ∧
    object.fields.labels = some (Dict.empty.insert Secret.ownerLabel uid) ∧
    object.fields.owners = some [(Secret.controllerRef d uid).toObject]

/-- What is created for a declaration is an empty secret that the declaration controls. -/
theorem Secret.isShell_stored {d : Declaration} {shell : Secret}
    (h : (Secret.shell d).own d = .ok shell) (ns uid : Option String) (version : String) :
    (shell.toObject.stored ns uid version).IsShell d := by
  unfold Secret.own at h
  dsimp only at h
  split at h
  · cases h
  · next hempty =>
    rw [if_neg (fun hne => hne rfl)] at h
    cases huid : d.uid with
    | none => simp [huid] at hempty
    | some own =>
      simp only [huid, Secret.shell, Option.getD_some, List.find?_nil, List.filter_nil,
        List.nil_append, Except.ok.injEq] at h
      subst h
      exact ⟨rfl, rfl, own, huid, rfl, rfl⟩

namespace Sync

variable {key place : ObjectKey} {d : Declaration} {v u w w' : World} {settings : Settings}

/-! ### Secrets -/

/-- Writing a secret keeps every other one. -/
theorem keepsSecret_withSecret (w : World) {other : ObjectKey} (hne : other ≠ place)
    (object : SecretObject) : KeepsSecret place w (w.withSecret other object) := by
  rw [KeepsSecret, World.withSecret, Dict.get?_insert, if_neg hne]

/-- An attempt that fails leaves a secret as it was, or has created it where there was none. -/
theorem failed_secrets {failure : Failure} {ms : List Moment}
    (hothers : v.OthersKeep (KeepsSecret place))
    (h : Attempted settings key d v ms (.error failure) u) :
    u.OthersKeep (KeepsSecret place) ∧ (KeepsSecret place v u ∨
      ms.any Moment.creates = true ∧ v.secrets.get? place = none ∧ place = d.targetKey ∧
        ∃ object, u.secrets.get? place = some object ∧ object.IsShell d) := by
  cases h with
  | abandoned failure passage =>
    obtain ⟨hkept, hothers'⟩ := passage.keeps keepsSecret_rely hothers
    exact ⟨hothers', Or.inl hkept⟩
  | @unfilled x y _ ms₁ ms₂ ms₃ _ s failure pulled changed target after =>
    obtain ⟨hx, hothersx⟩ := pulled.toPassage.keeps keepsSecret_rely hothers
    cases target with
    | found read passage stored holds =>
      obtain ⟨hy, hothersy⟩ := passage.keeps keepsSecret_rely hothersx
      obtain ⟨hu, hothersu⟩ := after.keeps keepsSecret_rely hothersy
      exact ⟨hothersu, Or.inl (keepsSecret_rely.trans hx (keepsSecret_rely.trans hy hu))⟩
    | @created z _ shell read sent uid passage owned free afterCreation =>
      obtain ⟨hz, hothersz⟩ := passage.keeps keepsSecret_rely hothersx
      obtain ⟨hy, hothersy⟩ := afterCreation.keeps keepsSecret_rely hothersz
      obtain ⟨hu, hothersu⟩ := after.keeps keepsSecret_rely hothersy
      have hlast := keepsSecret_rely.trans hy hu
      refine ⟨hothersu, ?_⟩
      by_cases hplace : d.targetKey = place
      · subst hplace
        have hstored : u.secrets.get? d.targetKey =
            some (shell.toObject.stored (some (d.ns.getD "")) uid z.newVersion) := by
          rw [hlast, World.withSecret, Dict.get?_insert, if_pos rfl]
        refine Or.inr ⟨?_, ?_, rfl, _, hstored, Secret.isShell_stored owned _ _ _⟩
        · simp [Moment.creates]
        · rw [← hx, ← hz, free]
      · exact Or.inl (keepsSecret_rely.trans hx (keepsSecret_rely.trans hz
          (keepsSecret_rely.trans (keepsSecret_withSecret z hplace _) hlast)))

/-! ### The declaration -/

/-- A world has come from another one without change to a declaration. -/
def KeepsDeclaration (key : ObjectKey) (v u : World) : Prop :=
  u.declarations.get? key = v.declarations.get? key

/-- Keeping a declaration can be relied on. -/
theorem keepsDeclaration_rely : Rely (KeepsDeclaration key) where
  trans h h' := h'.trans h
  objects hdeclarations _ := by rw [KeepsDeclaration, hdeclarations]

/-- Writing a secret keeps every declaration. -/
theorem keepsDeclaration_withSecret (w : World) (place : ObjectKey)
    (object : SecretObject) : KeepsDeclaration key w (w.withSecret place object) := rfl

/-- A recorded failure leaves a declaration that reads back with the same watermark, and with the
same conditions of all types but one. -/
theorem failed_status {failure : Failure} {ms : List Moment} {object : Json}
    (hothers : v.OthersKeep (KeepsDeclaration key))
    (hobject : v.declarations.get? key = some object)
    (hd : Declaration.ofObject object = .ok d) (hyears : d.status.InFourDigitYears)
    (hclock : ∀ m ∈ ms, m.ReadsFourDigitYear)
    (h : Recorded settings (recorded key d (.error failure)) v ms u) :
    ∃ object' d', u.declarations.get? key = some object' ∧
      Declaration.ofObject object' = .ok d' ∧ d'.status.lastSync = d.status.lastSync ∧
      d'.status.conditions.filter (·.type ≠ ConditionType.failedSync.name) =
        d.status.conditions.filter (·.type ≠ ConditionType.failedSync.name) := by
  cases h with
  | refused now sent passage =>
    have hkept := (passage.keeps keepsDeclaration_rely hothers).1
    exact ⟨object, d, hkept.trans hobject, hd, rfl, rfl⟩
  | @written x _ stored now sent passage hstored after =>
    obtain ⟨hx, hothersx⟩ := passage.keeps keepsDeclaration_rely hothers
    have hu := (after.keeps keepsDeclaration_rely hothersx).1
    have hnow : now.InFourDigitYear := hclock _ List.mem_cons_self
    rw [key_recorded] at hstored hu
    by_cases hplace : d.key = key
    · rw [hplace, hx, hobject] at hstored
      cases hstored
      rw [KeepsDeclaration, World.withDeclaration, Dict.get?_insert, if_pos hplace] at hu
      have hrecorded : (recorded key d (.error failure) now).status.InFourDigitYears :=
        ⟨hyears.lastSync, Report.inFourDigitYear_record hnow hyears.conditions⟩
      refine ⟨_, _, hu, Declaration.ofObject_patched hd hrecorded (Text.hasHalf_toString _), ?_, ?_⟩
      · rw [lastSync_recorded_eq, watermarkAfter, Option.or_self]
      · exact Report.filter_record
          ⟨.failedSync, false, .failed, failure.message, now, d.generation⟩ d.status.conditions
    · rw [KeepsDeclaration, World.withDeclaration, Dict.get?_insert, if_neg hplace] at hu
      exact ⟨object, d, (hu.trans hx).trans hobject, hd, rfl, rfl⟩

/-! ### Reconciles -/

/-- The secret at a place is as it was, or is an empty target that was created there. -/
def SecretLeft (settings : Settings) (key place : ObjectKey) (w : World) (ms : List Moment)
    (ending : Except Escape Result) (w' : World) : Prop :=
  KeepsSecret place w w' ∨
    outcome? ending = some .failed ∧ ms.any Moment.creates = true ∧
      w.secrets.get? place = none ∧
      ∃ (msFound : List Moment) (d : Declaration) (now : Time.Instant) (v : World)
          (object : SecretObject), Found settings key w msFound d now v ∧ place = d.targetKey ∧
        w'.secrets.get? place = some object ∧ object.IsShell d

private theorem reconciled_secrets {ms : List Moment} {ending : Except Escape Result}
    (hothers : w.OthersKeep (KeepsSecret place)) (notSynced : outcome? ending ≠ some .synced)
    (h : Reconciled settings key w ms ending w') :
    SecretLeft settings key place w ms ending w' := by
  cases h with
  | unread passage outcome => exact Or.inl (passage.keeps keepsSecret_rely hothers).1
  | overflow found outside => exact Or.inl (found.toPassage.keeps keepsSecret_rely hothers).1
  | echo found inside => exact Or.inl (found.toPassage.keeps keepsSecret_rely hothers).1
  | garbled found behind broken =>
    exact Or.inl ((found.toPassage.trans broken.toPassage).keeps keepsSecret_rely hothers).1
  | @attempted v u _ ms₁ ms₂ ms₃ d now ending found behind tried record =>
    obtain ⟨hv, hothersv⟩ := found.toPassage.keeps keepsSecret_rely hothers
    cases ending with
    | ok progress =>
      cases progress with
      | written => exact (notSynced rfl).elim
      | unchanged =>
        cases tried with
        | unchanged pulled quiet after =>
          obtain ⟨hx, hothersx⟩ := pulled.toPassage.keeps keepsSecret_rely hothersv
          obtain ⟨hu, hothersu⟩ := after.keeps keepsSecret_rely hothersx
          exact Or.inl (keepsSecret_rely.trans hv (keepsSecret_rely.trans hx
            (keepsSecret_rely.trans hu (recorded_keepsSecret hothersu record))))
    | error failure =>
      obtain ⟨hothersu, hkept | ⟨hcreates, hfree, hplace, object, hobject, hshell⟩⟩ :=
        failed_secrets hothersv tried
      · exact Or.inl (keepsSecret_rely.trans hv (keepsSecret_rely.trans hkept
          (recorded_keepsSecret hothersu record)))
      · refine Or.inr ⟨rfl, ?_, hv ▸ hfree, _, d, _, _, object, found, hplace, ?_, hshell⟩
        · rw [List.any_append, List.any_append, hcreates, Bool.true_or, Bool.or_true]
        · rw [recorded_keepsSecret hothersu record, hobject]

/-- A reconcile that does not end with a written target leaves every secret as it was that others
leave alone, except that a failed one may leave an empty target that it has created where there was
none.  The declaration of a failed one reads back with the watermark and with the conditions it
had, the one that tells of failures apart. -/
theorem unwritten_leaves_cluster {ms : List Moment} {ending : Except Escape Result}
    (ends : Act.Ends (reconcile settings key).run w ending w')
    (notSynced : outcome? ending ≠ some .synced) (history : w'.history = w.history ++ ms) :
    (∀ place, w.OthersKeep (KeepsSecret place) → SecretLeft settings key place w ms ending w') ∧
    (outcome? ending = some .failed → w.OthersKeep (KeepsDeclaration key) →
      (∀ object d, w.declarations.get? key = some object → Declaration.ofObject object = .ok d →
        d.status.InFourDigitYears) →
      (∀ m ∈ ms, m.ReadsFourDigitYear) →
      ∃ object d object' d',
        w.declarations.get? key = some object ∧ Declaration.ofObject object = .ok d ∧
        w'.declarations.get? key = some object' ∧ Declaration.ofObject object' = .ok d' ∧
        d'.status.lastSync = d.status.lastSync ∧
        d'.status.conditions.filter (·.type ≠ ConditionType.failedSync.name) =
          d.status.conditions.filter (·.type ≠ ConditionType.failedSync.name)) := by
  obtain ⟨ms', h⟩ := reconcile_ends ends
  cases List.append_cancel_left (history.symm.trans h.history)
  refine ⟨fun place hothers => reconciled_secrets hothers notSynced h, ?_⟩
  intro hfailed hothers hyears hclock
  cases h with
  | unread passage outcome =>
    rcases outcome with ho | ho <;> simp [outcome?, ho] at hfailed
  | overflow found outside => cases hfailed
  | echo found inside => cases hfailed
  | garbled found behind broken => cases hfailed
  | @attempted v u _ ms₁ ms₂ ms₃ d now ending found behind tried record =>
    cases ending with
    | ok progress => cases progress <;> cases hfailed
    | error failure =>
      rw [List.forall_mem_append, List.forall_mem_append] at hclock
      obtain ⟨hv, hothersv⟩ := found.toPassage.keeps keepsDeclaration_rely hothers
      obtain ⟨hu, hothersu⟩ :=
        tried.keeps keepsDeclaration_rely keepsDeclaration_withSecret hothersv
      cases found with
      | @mk x _ object _ asked now passage stored holds after =>
        have hx := (passage.keeps keepsDeclaration_rely hothers).1
        have hobject : w.declarations.get? key = some object := hx ▸ stored
        obtain ⟨object', d', hobject', hd', hlast, hconditions⟩ :=
          failed_status hothersu ((hu.trans hv).trans hobject) holds (hyears object d hobject holds)
            hclock.2.2 record
        exact ⟨object, d, object', d', hobject, holds, hobject', hd', hlast, hconditions⟩

/-- A world in which the cluster refuses to replace a secret. -/
def Sample.refusingWorld : World :=
  { Sample.world [] (Sample.session .zero [("a", "1")]) with
    faults := Dict.ofList [(.replaceSecret, [some (.refused (some 500) (some "Internal"))])] }

private theorem Sample.status_refusingWorld {object : Json} {d : Declaration}
    (hobject : Sample.refusingWorld.declarations.get? Sample.key = some object)
    (hd : Declaration.ofObject object = .ok d) : d.status.InFourDigitYears := by
  have hstored : Sample.refusingWorld.declarations.get? Sample.key = some (Sample.object []) := rfl
  have hread : (Declaration.ofObject (Sample.object [])).toOption.map (·.status) =
      some ⟨none, []⟩ := by decide +kernel
  cases hstored.symm.trans hobject
  rw [hd] at hread
  have hstatus : d.status = ⟨none, []⟩ := Option.some.inj hread
  rw [hstatus]
  exact ⟨fun _ h => (nomatch h), fun _ h => (nomatch h)⟩

set_option maxRecDepth 10000 in
/-- The statement at a replacement that is refused behind a creation. -/
theorem unwritten_leaves_cluster_when_refused :
    ∃ (w' : World) (ending : Except Escape Result) (ms : List Moment),
      let w := Sample.refusingWorld
      Act.Ends (reconcile Sample.settings Sample.key).run w ending w' ∧
      outcome? ending ≠ some .synced ∧ w'.history = w.history ++ ms ∧
      outcome? ending = some .failed ∧ w.OthersKeep (KeepsDeclaration Sample.key) ∧
      (∀ object d, w.declarations.get? Sample.key = some object →
        Declaration.ofObject object = .ok d → d.status.InFourDigitYears) ∧
      (∀ m ∈ ms, m.ReadsFourDigitYear) ∧
      w'.secrets.get? ⟨"default", "app-env"⟩ ≠ none ∧
      (∀ place, w.OthersKeep (KeepsSecret place) ∧
        SecretLeft Sample.settings Sample.key place w ms ending w') ∧
      ∃ object d object' d',
        w.declarations.get? Sample.key = some object ∧ Declaration.ofObject object = .ok d ∧
        w'.declarations.get? Sample.key = some object' ∧ Declaration.ofObject object' = .ok d' ∧
        d'.status.lastSync = d.status.lastSync ∧
        d'.status.conditions.filter (·.type ≠ ConditionType.failedSync.name) =
          d.status.conditions.filter (·.type ≠ ConditionType.failedSync.name) := by
  have hends := Act.ends_self (reconcile Sample.settings Sample.key).run Sample.refusingWorld
  have hfailed : outcome? (StateT.run (reconcile Sample.settings Sample.key).run
      Sample.refusingWorld).1 = some .failed := by decide +kernel
  have hshell : ((StateT.run (reconcile Sample.settings Sample.key).run
      Sample.refusingWorld).2.secrets.get? ⟨"default", "app-env"⟩).isSome = true := by
    decide +kernel
  have hclock : ∀ m ∈ (StateT.run (reconcile Sample.settings Sample.key).run
      Sample.refusingWorld).2.history.drop Sample.refusingWorld.history.length,
      m.ReadsFourDigitYear := by decide +kernel
  obtain ⟨ms, h⟩ := reconcile_ends hends
  rw [h.history, List.drop_left] at hclock
  have hnot : outcome? (StateT.run (reconcile Sample.settings Sample.key).run
      Sample.refusingWorld).1 ≠ some .synced := by
    rw [hfailed]
    decide
  have hothers (R : World → World → Prop) : Sample.refusingWorld.OthersKeep R :=
    fun _ hdeeds => nomatch hdeeds
  obtain ⟨hsecrets, hdeclaration⟩ := unwritten_leaves_cluster hends hnot h.history
  exact ⟨_, _, ms, hends, hnot, h.history, hfailed, hothers _,
    fun _ _ => Sample.status_refusingWorld, hclock, Option.isSome_iff_ne_none.mp hshell,
    fun place => ⟨hothers _, hsecrets place (hothers _)⟩,
    hdeclaration hfailed (hothers _) (fun _ _ => Sample.status_refusingWorld) hclock⟩

end Sync
end SecretSync

import SecretSync.Proofs.Sync.Moments
import SecretSync.Proofs.Sync.Refill
import SecretSync.Proofs.Sync.Run

/-!
# Targets that are built again

Whether a pull is a full one is decided by the watermark alone, and whether a target is created by
the target alone.  The watermark stays when a target is deleted or renamed, so a target that is
built again holds what has changed since the watermark and nothing else.
-/

namespace SecretSync.Sync

open Declaration (Marked watermarkOf)

/-- A world has come from another one without change to the watermark of a declaration. -/
def KeepsWatermark (key : ObjectKey) (v u : World) : Prop :=
  ∀ object, u.declarations.get? key = some object →
    ∃ old, v.declarations.get? key = some old ∧ watermarkOf object = watermarkOf old

/-- A world has come from another one without change to a secret. -/
def KeepsSecret (place : ObjectKey) (v u : World) : Prop :=
  u.secrets.get? place = v.secrets.get? place

/-- Others have left the watermark as it was, and will. -/
structure Spared (key : ObjectKey) (v u : World) : Prop where
  watermark : KeepsWatermark key v u
  others : u.OthersKeep (KeepsWatermark key)

/-- A target was written, or there was nothing to write. -/
def EndsWell (ending : Except Escape Result) : Prop :=
  outcome? ending = some .synced ∨ outcome? ending = some .noChanges

/-- A round ended well, and the declaration has a watermark behind it. -/
def Round.LeavesWatermark (key : ObjectKey) (r : Round) : Prop :=
  EndsWell r.ending ∧ ∃ object, r.after.declarations.get? key = some object ∧ Marked object

variable {key place : ObjectKey} {d : Declaration} {v u w w' : World} {settings : Settings}

/-! ### What others may do -/

/-- Who edits a declaration does not change its status. -/
theorem statusOf_editedObject (changes : List (String × Json)) (generation : Option Int)
    (object : Json) :
    Declaration.statusOf (World.editedObject changes generation object) =
      Declaration.statusOf object := by
  cases generation with
  | none => exact Declaration.statusOf_setMember (by decide) object _
  | some n =>
    exact (Declaration.statusOf_setMember (by decide) _ _).trans
      (Declaration.statusOf_setMember (by decide) object _)

/-- Nothing that others do, short of putting a declaration in place, changes a watermark. -/
theorem keepsWatermark_disturb (w : World) {deed : Disturbance}
    (hdeed : ∀ place object, deed ≠ .putDeclaration place object) :
    KeepsWatermark key w (w.disturb deed) := by
  intro object hobject
  cases deed with
  | putDeclaration place object' => exact (hdeed place object' rfl).elim
  | editDeclaration place changes generation =>
    cases hold : w.declarations.get? place with
    | none =>
      simp only [World.disturb, hold] at hobject
      exact ⟨object, hobject, rfl⟩
    | some old =>
      simp only [World.disturb, hold, Dict.get?_insert] at hobject
      split at hobject
      · next hplace =>
        cases hobject
        exact ⟨old, hplace ▸ hold,
          Declaration.watermarkOf_congr (statusOf_editedObject changes generation old)⟩
      · exact ⟨object, hobject, rfl⟩
  | deleteDeclaration place =>
    simp only [World.disturb, Dict.get?_erase] at hobject
    split at hobject
    · cases hobject
    · exact ⟨object, hobject, rfl⟩
  | advance _ => exact ⟨object, hobject, rfl⟩
  | setClock _ => exact ⟨object, hobject, rfl⟩
  | putSecret _ _ => exact ⟨object, hobject, rfl⟩
  | deleteSecret _ => exact ⟨object, hobject, rfl⟩
  | requestStop => exact ⟨object, hobject, rfl⟩

/-- Keeping the watermark can be relied on. -/
theorem keepsWatermark_rely : Rely (KeepsWatermark key) where
  trans h h' := by
    intro object hobject
    obtain ⟨old, hold, heq⟩ := h' object hobject
    obtain ⟨older, holder, heq'⟩ := h old hold
    exact ⟨older, holder, heq.trans heq'⟩
  objects hdeclarations _ := by
    intro object hobject
    rw [hdeclarations] at hobject
    exact ⟨object, hobject, rfl⟩

/-- Keeping a secret can be relied on. -/
theorem keepsSecret_rely : Rely (KeepsSecret place) where
  trans h h' := h'.trans h
  objects _ hsecrets := by rw [KeepsSecret, hsecrets]

/-- Writing a secret keeps every watermark. -/
theorem keepsWatermark_withSecret (w : World) (place : ObjectKey) (object : SecretObject) :
    KeepsWatermark key w (w.withSecret place object) :=
  fun object hobject => ⟨object, hobject, rfl⟩

/-! ### Steps of a round -/

/-- A recorded ending keeps the watermark, and brings one exactly if it is a good one. -/
theorem lastSync_recorded (key : ObjectKey) (d : Declaration) (ending : Except Failure Progress)
    (now : Time.Instant) :
    (recorded key d ending now).status.lastSync ≠ none ↔
      d.status.lastSync ≠ none ∨ ∃ progress, ending = .ok progress := by
  cases ending with
  | error failure =>
    refine ⟨Or.inl, ?_⟩
    rintro (h | ⟨_, h⟩)
    · exact h
    · cases h
  | ok progress => exact iff_of_true (Option.some_ne_none _) (Or.inr ⟨progress, rfl⟩)

/-- The watermark behind a recorded ending is the stored one, or that of the status that was written
over it. -/
theorem recorded_leaves {record : Time.Instant → Declaration} {ms : List Moment} {object : Json}
    (hothers : v.OthersKeep (KeepsWatermark key)) (h : Recorded settings record v ms u)
    (hobject : u.declarations.get? key = some object) :
    ∃ old, v.declarations.get? key = some old ∧ (watermarkOf object = watermarkOf old ∨
      ∃ stored now version, watermarkOf stored = watermarkOf old ∧
        watermarkOf object = watermarkOf (Cluster.patched stored
          (Cluster.Declarations.statusBody (record now)) version)) := by
  cases h with
  | refused now sent passage =>
    obtain ⟨old, hold, heq⟩ := (passage.keeps keepsWatermark_rely hothers).1 object hobject
    exact ⟨old, hold, Or.inl heq⟩
  | @written x _ stored now sent passage hstored after =>
    obtain ⟨hx, hothers'⟩ := passage.keeps keepsWatermark_rely hothers
    obtain ⟨hu, -⟩ := after.keeps keepsWatermark_rely hothers'
    obtain ⟨written, hwritten, heq⟩ := hu object hobject
    rw [World.withDeclaration, Dict.get?_insert] at hwritten
    split at hwritten
    · next hplace =>
      cases hwritten
      obtain ⟨old, hold, hsame⟩ := hx stored (hplace ▸ hstored)
      exact ⟨old, hold, Or.inr ⟨stored, now, _, hsame, heq⟩⟩
    · obtain ⟨old, hold, hsame⟩ := hx written hwritten
      exact ⟨old, hold, Or.inl (heq.trans hsame)⟩

/-- Recording an ending takes no watermark away, and brings one only with the declaration's or for a
good ending. -/
theorem recorded_marks {ending : Except Failure Progress} {ms : List Moment} {object : Json}
    (hothers : v.OthersKeep (KeepsWatermark key))
    (h : Recorded settings (recorded key d ending) v ms u)
    (hobject : u.declarations.get? key = some object) :
    ∃ old, v.declarations.get? key = some old ∧ (Marked old → Marked object) ∧
      (Marked object →
        Marked old ∨ d.status.lastSync ≠ none ∨ ∃ progress, ending = .ok progress) := by
  obtain ⟨old, hold, heq | ⟨stored, now, version, hstored, heq⟩⟩ :=
    recorded_leaves hothers h hobject
  · have hmarked := Declaration.marked_congr heq
    exact ⟨old, hold, hmarked.mpr, fun hm => Or.inl (hmarked.mp hm)⟩
  · have hmarked := (Declaration.marked_congr heq).trans
      (Declaration.marked_patched stored (recorded key d ending now) version)
    rw [lastSync_recorded, Declaration.marked_congr hstored] at hmarked
    exact ⟨old, hold, fun hm => hmarked.mpr (Or.inr hm), fun hm => (hmarked.mp hm).symm⟩

/-- The watermark of a declaration that was found is the stored one. -/
theorem found_marked {ms : List Moment} {now : Time.Instant}
    (hothers : v.OthersKeep (KeepsWatermark key)) (h : Found settings key v ms d now u) :
    ∃ old, v.declarations.get? key = some old ∧ (Marked old ↔ d.status.lastSync ≠ none) := by
  cases h with
  | @mk x _ read _ asked now passage stored holds after =>
    obtain ⟨old, hold, heq⟩ := (passage.keeps keepsWatermark_rely hothers).1 read stored
    exact ⟨old, hold, (Declaration.marked_congr heq).symm.trans (Declaration.marked_iff holds)⟩

/-- What a round keeps and what it brings decides what it leaves. -/
theorem leavesWatermark_iff {ending : Except Escape Result} {object old : Json}
    (hobject : u.declarations.get? key = some object) (hkeeps : Marked old → Marked object)
    (hbrings : Marked object → Marked old ∨ EndsWell ending) :
    Marked object ↔ Marked old ∨ Round.LeavesWatermark key ⟨v, ending, u⟩ := by
  constructor
  · intro hm
    rcases hbrings hm with hold | hgood
    · exact Or.inl hold
    · exact Or.inr ⟨hgood, object, hobject, hm⟩
  · rintro (hold | ⟨-, object', hobject', hm⟩)
    · exact hkeeps hold
    · cases hobject.symm.trans hobject'
      exact hm

/-- Without a write of the status the watermark stays as it is. -/
theorem passage_marks {ending : Except Escape Result} {ms : List Moment}
    {object : Json} (hothers : v.OthersKeep (KeepsWatermark key)) (passage : Passage v ms u)
    (hobject : u.declarations.get? key = some object) :
    ∃ old, v.declarations.get? key = some old ∧
      (Marked object ↔ Marked old ∨ Round.LeavesWatermark key ⟨v, ending, u⟩) := by
  obtain ⟨old, hold, heq⟩ := (passage.keeps keepsWatermark_rely hothers).1 object hobject
  have hmarked := Declaration.marked_congr heq
  exact ⟨old, hold, leavesWatermark_iff hobject hmarked.mpr (fun hm => Or.inl (hmarked.mp hm))⟩

/-- A round takes no watermark away, and brings one only if it ends well. -/
theorem reconcile_marks {ending : Except Escape Result} {object : Json}
    (hothers : v.OthersKeep (KeepsWatermark key))
    (h : Act.Ends (reconcile settings key).run v ending u)
    (hobject : u.declarations.get? key = some object) :
    ∃ old, v.declarations.get? key = some old ∧
      (Marked object ↔ Marked old ∨ Round.LeavesWatermark key ⟨v, ending, u⟩) := by
  obtain ⟨ms, h⟩ := reconcile_ends h
  cases h with
  | unread passage outcome => exact passage_marks hothers passage hobject
  | overflow found outside => exact passage_marks hothers found.toPassage hobject
  | echo found inside => exact passage_marks hothers found.toPassage hobject
  | garbled found behind broken =>
    exact passage_marks hothers (found.toPassage.trans broken.toPassage) hobject
  | @attempted x y _ _ _ _ d now ending found behind tried record =>
    obtain ⟨hx, hothersx⟩ := found.toPassage.keeps keepsWatermark_rely hothers
    obtain ⟨hy, hothersy⟩ := tried.keeps keepsWatermark_rely keepsWatermark_withSecret hothersx
    obtain ⟨objecty, hobjecty, hkeeps, hbrings⟩ := recorded_marks hothersy record hobject
    obtain ⟨objectx, hobjectx, heq⟩ := hy objecty hobjecty
    obtain ⟨old, hold, heq'⟩ := hx objectx hobjectx
    have hsame := Declaration.marked_congr (heq.trans heq')
    -- what the round goes on with is what it has found, though others may have edited it since
    obtain ⟨read, hread, hlast⟩ := found_marked hothers found
    cases hold.symm.trans hread
    refine ⟨old, hold, leavesWatermark_iff hobject (hkeeps ∘ hsame.mpr) ?_⟩
    intro hm
    rcases hbrings hm with hm' | hm' | ⟨progress, rfl⟩
    · exact Or.inl (hsame.mp hm')
    · exact Or.inl (hlast.mpr hm')
    · cases progress with
      | written => exact Or.inr (Or.inl rfl)
      | unchanged => exact Or.inr (Or.inr rfl)

/-- Along a run the declaration has a watermark exactly if it had one at the start or a round left
one. -/
theorem run_marks {rounds : List Round} {object : Json} (run : Run key (Spared key) w rounds w')
    (hobject : w'.declarations.get? key = some object) :
    ∃ first, w.declarations.get? key = some first ∧
      (Marked object ↔ Marked first ∨ ∃ r ∈ rounds, r.LeavesWatermark key) := by
  induction run generalizing object with
  | start =>
    refine ⟨object, hobject, Or.inl, ?_⟩
    rintro (hm | ⟨r, hr, -⟩)
    · exact hm
    · cases hr
  | round earlier between ends ih =>
    obtain ⟨old, hold, hround⟩ := reconcile_marks between.others ends hobject
    obtain ⟨left, hleft, heq⟩ := between.watermark old hold
    obtain ⟨first, hfirst, hrun⟩ := ih hleft
    refine ⟨first, hfirst, ?_⟩
    rw [hround, Declaration.marked_congr heq, hrun, or_assoc]
    simp only [List.mem_append, List.mem_singleton, or_and_right, exists_or, exists_eq_left]

/-- A round finds no watermark exactly if there was none at the start of the run and no round left
one. -/
theorem since_none_iff {rounds : List Round} {ms : List Moment} {now : Time.Instant}
    (run : Run key (Spared key) w rounds v) (between : Spared key v u)
    (found : Found settings key u ms d now w') :
    d.status.lastSync = none ↔
      (∀ first, w.declarations.get? key = some first → ¬ Marked first) ∧
        ∀ r ∈ rounds, ¬ r.LeavesWatermark key := by
  obtain ⟨old, hold, hlast⟩ := found_marked between.others found
  obtain ⟨left, hleft, heq⟩ := between.watermark old hold
  obtain ⟨first, hfirst, hrun⟩ := run_marks run hleft
  have hnone : d.status.lastSync = none ↔
      ¬ (Marked first ∨ ∃ r ∈ rounds, r.LeavesWatermark key) := by
    rw [← hrun, ← Declaration.marked_congr heq, hlast, ne_eq, Classical.not_not]
  rw [hnone, not_or]
  constructor
  · rintro ⟨hstart, hrounds⟩
    refine ⟨?_, fun r hr hleaves => hrounds ⟨r, hr, hleaves⟩⟩
    intro first' hfirst'
    cases hfirst.symm.trans hfirst'
    exact hstart
  · rintro ⟨hstart, hrounds⟩
    exact ⟨hstart first hfirst, fun ⟨r, hr, hleaves⟩ => hrounds r hr hleaves⟩

/-! ### Targets of one pull -/

/-- The target of a declaration holds what the key map makes of values, and nothing else. -/
def HoldsOnly (d : Declaration) (values : Data) (w : World) : Prop :=
  ∃ object s, w.secrets.get? d.targetKey = some object ∧ Secret.ofObject object = .ok s ∧
    s.data = KeyMap.applyOptional d.spec.map values

private theorem HoldsOnly.of_keeps {values : Data} (h : HoldsOnly d values v)
    (hsame : KeepsSecret d.targetKey v u) : HoldsOnly d values u := by
  obtain ⟨object, s, hobject, hs, hdata⟩ := h
  exact ⟨object, s, hsame.trans hobject, hs, hdata⟩

/-- A target that was created and filled holds the changed values only. -/
theorem refilled_holdsOnly {values : Data} {s : Secret} {ms : List Moment}
    (hs : s.Blank) (hplace : s.place = d.targetKey)
    (hothers : v.OthersKeep (KeepsSecret d.targetKey))
    (h : Refilled settings key d values s v ms u) :
    HoldsOnly d values u ∧ u.OthersKeep (KeepsSecret d.targetKey) := by
  cases h with
  | @mk x _ restored filled old now sent restores refills passage stored current after =>
    obtain ⟨-, hothersx⟩ := passage.keeps keepsSecret_rely hothers
    obtain ⟨hu, hothersu⟩ := after.keeps keepsSecret_rely hothersx
    have hfilled : filled.place = d.targetKey := (place_of_refill restores refills).trans hplace
    have hdata := refill_blank hs restores refills
    have hwritten : HoldsOnly d values (x.withSecret filled.place
        (filled.toObject.stored (some filled.place.ns) old.fields.uid x.newVersion)) := by
      have hofObject := Secret.ofObject_stored filled (some filled.place.ns) old.fields.uid
        x.newVersion
      refine ⟨_, _, ?_, hofObject, hdata⟩
      rw [World.withSecret, Dict.get?_insert, if_pos hfilled]
    exact ⟨hwritten.of_keeps hu, hothersu⟩

private theorem targetRead_others {s : Secret} {ms : List Moment}
    (hothers : v.OthersKeep (KeepsSecret place)) (h : TargetRead settings key d v ms s u) :
    u.OthersKeep (KeepsSecret place) := by
  cases h with
  | found read passage stored holds => exact (passage.keeps keepsSecret_rely hothers).2
  | created read sent uid passage owned free after =>
    exact (after.keeps keepsSecret_rely (passage.keeps keepsSecret_rely hothers).2).2

/-- Recording the status keeps every secret, if others do. -/
theorem recorded_keepsSecret {record : Time.Instant → Declaration} {ms : List Moment}
    (hothers : v.OthersKeep (KeepsSecret place)) (h : Recorded settings record v ms u) :
    KeepsSecret place v u := by
  cases h with
  | refused now sent passage => exact (passage.keeps keepsSecret_rely hothers).1
  | written now sent passage stored after =>
    obtain ⟨hx, hothersx⟩ := passage.keeps keepsSecret_rely hothers
    obtain ⟨hu, -⟩ := after.keeps keepsSecret_rely hothersx
    exact hu.trans hx

/-- A target that an attempt has created and filled holds what this attempt pulled. -/
theorem attempted_holdsOnly {ms : List Moment}
    (h : Attempted settings key d v ms (.ok .written) u) (hms : ms.any Moment.creates = true) :
    ∃ delta, v.session.delta? = some delta ∧ (v.OthersKeep (KeepsSecret d.targetKey) →
      HoldsOnly d delta.values u ∧ u.OthersKeep (KeepsSecret d.targetKey)) := by
  cases h with
  | @written _ _ _ _ _ _ delta s pulled changed target refilled =>
    rw [List.any_append, List.any_append, pulled.any_creates, refilled.any_creates,
      Bool.false_or, Bool.or_false] at hms
    obtain ⟨hblank, hplace⟩ := target.created_of_creates hms
    refine ⟨delta, pulled.offered, ?_⟩
    intro hothers
    have hothersx := (pulled.toPassage.keeps keepsSecret_rely hothers).2
    exact refilled_holdsOnly hblank hplace (targetRead_others hothersx target) refilled

/-- A target that a round creates holds the values of the one pull of this round, whatever was
pulled before.  That pull is a full one exactly if the declaration had no watermark when the run
began and no round of the run has left one. -/
theorem created_target_holds_one_pull {rounds : List Round} {result : Result} {ms : List Moment}
    (run : Run key (Spared key) w rounds v) (between : Spared key v u)
    (ends : Act.Ends (reconcile settings key).run u (.ok result) w')
    (synced : result.outcome = .synced) (history : w'.history = u.history ++ ms)
    (creates : ms.any Moment.creates = true) :
    ∃ (msFound : List Moment) (d : Declaration) (checked : Time.Instant) (x : World)
        (since : Option Time.Instant) (asked : Time.Instant) (delta : Vault.Delta),
      Found settings key u msFound d checked x ∧
      ms.findSome? Moment.pull? = some (since, asked) ∧
      (since = none ↔
        (∀ first, w.declarations.get? key = some first → ¬ Marked first) ∧
          ∀ r ∈ rounds, ¬ r.LeavesWatermark key) ∧
      u.session.delta? = some delta ∧
      (u.OthersKeep (KeepsSecret d.targetKey) → HoldsOnly d delta.values w') := by
  obtain ⟨ms', h⟩ := reconcile_ends ends
  cases List.append_cancel_left (history.symm.trans h.history)
  cases h with
  | unread passage outcome => rcases outcome with ho | ho <;> cases ho.symm.trans synced
  | echo found inside => cases synced
  | @attempted x y _ msFound msTried msRecord d checked ending found behind tried record =>
    cases ending with
    | error failure => cases synced
    | ok progress =>
      cases progress with
      | unchanged => cases synced
      | written =>
        rw [List.any_append, List.any_append, found.any_creates, record.any_creates,
          Bool.false_or, Bool.or_false] at creates
        obtain ⟨delta, hoffered, hholds⟩ := attempted_holdsOnly tried creates
        obtain ⟨before, asked, after, rfl, hidle⟩ := tried.asks
        refine ⟨msFound, d, checked, x, d.status.lastSync, asked, delta, found, ?_, ?_, ?_, ?_⟩
        · rw [List.append_assoc before, List.cons_append, ← List.append_assoc msFound]
          refine findSome?_pull_append ?_ _ _ _ _
          exact List.forall_mem_append.mpr ⟨found.idle, (List.forall_mem_append.mp hidle).1⟩
        · exact since_none_iff run between found
        · rw [← hoffered, found.session]
        · intro hothers
          have hothersx := (found.toPassage.keeps keepsSecret_rely hothers).2
          obtain ⟨hy, hothersy⟩ := hholds hothersx
          exact hy.of_keeps (recorded_keepsSecret hothersy record)

namespace Sample

/-- A world in which the vault is about to tell two values, and after that a change of one. -/
def changingWorld : World :=
  { world [] .quiet with sessions :=
    [session .zero [("a", "1"), ("b", "2")], session .zero [("a", "3")]] }

/-- The world a minute after the first reconcile, with the target deleted. -/
def strippedWorld : World :=
  ((StateT.run (reconcile Sample.settings Sample.key).run changingWorld).2.disturb
    (.deleteSecret ⟨"default", "app-env"⟩)).disturb (.advance (.ofSeconds 60))

/-- A value of the stored target. -/
def stored? (w : World) (k : String) : Option (List UInt8) := do
  let object ← w.secrets.get? ⟨"default", "app-env"⟩
  let s ← (Secret.ofObject object).toOption
  s.value? k

/-- Where nobody else acts, a kept watermark is spared. -/
theorem spared_of_isEmpty {v u : World} (h : KeepsWatermark Sample.key v u)
    (hothers : u.others.isEmpty = true) : Spared Sample.key v u :=
  ⟨h, World.othersKeep_of_isEmpty hothers⟩

end Sample

set_option maxRecDepth 10000 in
/-- The statement at a target that was deleted behind its first sync. -/
theorem created_target_holds_one_pull_after_deletion :
    ∃ (rounds : List Round) (v w' : World) (result : Result) (ms : List Moment),
      Run Sample.key (Spared Sample.key) Sample.changingWorld rounds v ∧
      Spared Sample.key v Sample.strippedWorld ∧
      Act.Ends (reconcile Sample.settings Sample.key).run Sample.strippedWorld (.ok result) w' ∧
      result.outcome = .synced ∧ w'.history = Sample.strippedWorld.history ++ ms ∧
      ms.any Moment.creates = true ∧
      ∃ (msFound : List Moment) (d : Declaration) (checked : Time.Instant) (x : World)
          (since : Option Time.Instant) (asked : Time.Instant) (delta : Vault.Delta),
        Found Sample.settings Sample.key Sample.strippedWorld msFound d checked x ∧
        ms.findSome? Moment.pull? = some (since, asked) ∧
        (since = none ↔
          (∀ first, Sample.changingWorld.declarations.get? Sample.key = some first →
              ¬ Marked first) ∧
            ∀ r ∈ rounds, ¬ r.LeavesWatermark Sample.key) ∧
        Sample.strippedWorld.session.delta? = some delta ∧
        (Sample.strippedWorld.OthersKeep (KeepsSecret d.targetKey) →
          HoldsOnly d delta.values w') := by
  have hfirst : Spared Sample.key Sample.changingWorld Sample.changingWorld :=
    Sample.spared_of_isEmpty (keepsWatermark_rely.refl _) rfl
  have hrun : Run Sample.key (Spared Sample.key) Sample.changingWorld _ _ :=
    .round (.start _) hfirst
      (Act.ends_self (reconcile Sample.settings Sample.key).run Sample.changingWorld)
  have hbetween : Spared Sample.key
      (StateT.run (reconcile Sample.settings Sample.key).run Sample.changingWorld).2
      Sample.strippedWorld := by
    refine Sample.spared_of_isEmpty ?_ (by decide +kernel)
    refine keepsWatermark_rely.trans (keepsWatermark_disturb _ ?_) (keepsWatermark_disturb _ ?_)
    · intro _ _ he
      cases he
    · intro _ _ he
      cases he
  have houtcome : outcome? (StateT.run (reconcile Sample.settings Sample.key).run
      Sample.strippedWorld).1 = some .synced := by decide +kernel
  obtain ⟨result, hresult, hends⟩ := exists_result houtcome
  obtain ⟨ms, hreconciled⟩ := reconcile_ends hends
  have hcreates : ((StateT.run (reconcile Sample.settings Sample.key).run
      Sample.strippedWorld).2.history.drop Sample.strippedWorld.history.length).any
        Moment.creates = true := by decide +kernel
  rw [hreconciled.history, List.drop_left] at hcreates
  exact ⟨_, _, _, result, ms, hrun, hbetween, hends, hresult, hreconciled.history, hcreates,
    created_target_holds_one_pull hrun hbetween hends hresult hreconciled.history hcreates⟩

set_option maxRecDepth 10000 in
/-- A target is deleted behind a first reconcile, and one of its two values changes.  The next
reconcile creates it again from a pull since the first one, and the value that has not changed is
missing from then on. -/
theorem rebuilt_target_misses_value :
    let first := StateT.run (reconcile Sample.settings Sample.key).run Sample.changingWorld
    let second := StateT.run (reconcile Sample.settings Sample.key).run Sample.strippedWorld
    outcome? first.1 = some .synced ∧ Sample.stored? first.2 "b" = some "2".toUTF8.toList ∧
      outcome? second.1 = some .synced ∧
      (second.2.history.drop Sample.strippedWorld.history.length).any Moment.creates = true ∧
      ((second.2.history.drop Sample.strippedWorld.history.length).findSome? Moment.pull?).map
        Prod.fst = some (some Sample.noon) ∧
      Sample.stored? second.2 "a" = some "3".toUTF8.toList ∧
      Sample.stored? second.2 "b" = none := by
  decide +kernel

end SecretSync.Sync

import SecretSync.Proofs.Declaration.Status
import SecretSync.Proofs.Sync.Accounting
import SecretSync.Proofs.Sync.Advance

/-!
# What the echo guard skips

The guard goes by the clock alone: whatever called for a reconcile, it is skipped exactly if the
clock has not left the window behind the stored watermark.  A declaration that is skipped tells the
generation at which it was last synced; that is the one at which it is found unless it has been
edited since.
-/

namespace SecretSync.Sync

open Act
open Declaration (Marked statusOf conditionsOf)

/-- A world has come from another one without change to the status of a declaration; at most the
declaration was put in place anew without a watermark. -/
def KeepsStatus (key : ObjectKey) (v u : World) : Prop :=
  ∀ object, u.declarations.get? key = some object → Marked object →
    ∃ old, v.declarations.get? key = some old ∧ statusOf object = statusOf old

/-- Others have left the status as it was, and will. -/
structure StatusSpared (key : ObjectKey) (v u : World) : Prop where
  status : KeepsStatus key v u
  others : u.OthersKeep (KeepsStatus key)

/-- An object tells a generation as that of its last sync, if its conditions can be read. -/
def Tells (generation : Option Int) (object : Json) : Prop :=
  ∀ cs, conditionsOf object = .ok cs → Report.observed? cs = some generation

/-- A round found a declaration at a generation, ended well, and left the status in which it
recorded that. -/
def Round.Syncs (key : ObjectKey) (generation : Option Int) (r : Round) : Prop :=
  EndsWell r.ending ∧ ∃ found d object old message now version,
    r.before.interlude.declarations.get? key = some found ∧
    Declaration.ofObject found = .ok d ∧ d.generation = generation ∧
    r.after.declarations.get? key = some object ∧
    statusOf object = statusOf (Cluster.patched old
      (Cluster.Declarations.statusBody (completed d message now)) version)

/-- The last round that synced a declaration found it at a generation. -/
def LastSynced (key : ObjectKey) (generation : Option Int) (rounds : List Round) : Prop :=
  ∃ before r after, rounds = before ++ r :: after ∧ r.Syncs key generation ∧
    ∀ later ∈ after, ∀ g, ¬ later.Syncs key g

variable {key : ObjectKey} {d : Declaration} {object old : Json} {generation : Option Int}
  {v u w w' : World} {settings : Settings} {rounds : List Round}

/-! ### What others may do -/

private theorem marked_of_status (h : statusOf object = statusOf old) :
    Marked object ↔ Marked old :=
  Declaration.marked_congr (Declaration.watermarkOf_congr h)

private theorem Tells.of_status (h : Tells generation old)
    (hsame : statusOf object = statusOf old) :
    Tells generation object := by
  intro cs hcs
  exact h cs ((Declaration.conditionsOf_congr hsame).symm.trans hcs)

private theorem keepsStatus_rely : Rely (KeepsStatus key) where
  trans h h' := by
    intro object hobject hmarked
    obtain ⟨old, hold, heq⟩ := h' object hobject hmarked
    obtain ⟨older, holder, heq'⟩ := h old hold ((marked_of_status heq).mp hmarked)
    exact ⟨older, holder, heq.trans heq'⟩
  objects hdeclarations _ := by
    intro object hobject _
    rw [hdeclarations] at hobject
    exact ⟨object, hobject, rfl⟩

private theorem keepsStatus_withSecret (w : World) (place : ObjectKey) (object : SecretObject) :
    KeepsStatus key w (w.withSecret place object) :=
  fun object hobject _ => ⟨object, hobject, rfl⟩

/-- Nothing that others do, short of putting a declaration with a watermark in place, changes a
status. -/
theorem keepsStatus_disturb (w : World) {deed : Disturbance}
    (hdeed : ∀ place object, deed = .putDeclaration place object → ¬ Marked object) :
    KeepsStatus key w (w.disturb deed) := by
  intro object hobject hmarked
  cases deed with
  | putDeclaration place _ =>
    simp only [World.disturb, Dict.get?_insert] at hobject
    split at hobject
    · cases hobject
      exact (hdeed place _ rfl hmarked).elim
    · exact ⟨object, hobject, rfl⟩
  | editDeclaration place changes generation =>
    cases hold : w.declarations.get? place with
    | none =>
      simp only [World.disturb, hold] at hobject
      exact ⟨object, hobject, rfl⟩
    | some old =>
      simp only [World.disturb, hold, Dict.get?_insert] at hobject
      split at hobject
      · next hplace =>
        cases hobject
        exact ⟨old, hplace ▸ hold, statusOf_editedObject changes generation old⟩
      · exact ⟨object, hobject, rfl⟩
  | deleteDeclaration place =>
    simp only [World.disturb, Dict.get?_erase] at hobject
    split at hobject
    · cases hobject
    · exact ⟨object, hobject, rfl⟩
  | _ => exact ⟨object, hobject, rfl⟩

/-! ### What a round tells -/

/-- A written status tells what was written. -/
theorem tells_patched {s : Status} {stored : Json} {version : String}
    (hs : Report.observed? s.conditions = some generation)
    (hsame : statusOf object =
      statusOf (Cluster.patched stored (.obj [("status", s.toJson)]) version)) :
    Tells generation object := by
  intro cs hcs
  rw [Declaration.conditionsOf_congr hsame, Declaration.conditionsOf_patched] at hcs
  rw [Declaration.observed?_of_mapM hcs, hs]

/-- A completed declaration stores the generation it was read at. -/
theorem observed?_completed (d : Declaration) (message : String) (now : Time.Instant) :
    Report.observed? (completed d message now).status.conditions = some d.generation :=
  Report.observed?_record ⟨.successfulSync, true, .complete, message, now, d.generation⟩ rfl _

private theorem observed?_failed (d : Declaration) (failure : Failure) (now : Time.Instant) :
    Report.observed? (recorded key d (.error failure) now).status.conditions =
      Report.observed? d.status.conditions :=
  Report.observed?_record_of_ne ⟨.failedSync, false, .failed, failure.message, now, d.generation⟩
    nofun _

/-- A round that syncs leaves a declaration that tells its generation. -/
theorem Round.Syncs.tells {r : Round} (h : r.Syncs key generation)
    (hobject : r.after.declarations.get? key = some object) : Tells generation object := by
  obtain ⟨-, found, d, left, old, message, now, version, -, -, rfl, hleft, hsame⟩ := h
  cases hobject.symm.trans hleft
  exact tells_patched (observed?_completed d message now) hsame

/-- The status behind a recorded ending is the stored one, or the recorded one if it was written. -/
theorem recorded_status {ending : Except Failure Progress} {ms : List Moment}
    (hothers : v.OthersKeep (KeepsStatus key))
    (h : Recorded settings (recorded key d ending) v ms u)
    (hobject : u.declarations.get? key = some object) (hmarked : Marked object) :
    (∃ stored, v.declarations.get? key = some stored ∧ statusOf object = statusOf stored) ∨
      ∃ stored now version, statusOf object = statusOf (Cluster.patched stored
          (Cluster.Declarations.statusBody (recorded key d ending now)) version) ∧
        (d.status.lastSync = none → (∃ progress, ending = .ok progress) ∨
          ∃ before, v.declarations.get? key = some before ∧ Marked before) := by
  cases h with
  | refused now sent passage =>
    exact Or.inl ((passage.keeps keepsStatus_rely hothers).1 object hobject hmarked)
  | @written x _ stored now sent passage hstored after =>
    obtain ⟨hx, hothersx⟩ := passage.keeps keepsStatus_rely hothers
    obtain ⟨written, hwritten, heq⟩ :=
      (after.keeps keepsStatus_rely hothersx).1 object hobject hmarked
    have hmarked' := (marked_of_status heq).mp hmarked
    rw [World.withDeclaration, Dict.get?_insert] at hwritten
    split at hwritten
    · next hplace =>
      cases hwritten
      refine Or.inr ⟨stored, now, _, heq, fun hnone => ?_⟩
      have hmarks := (Declaration.marked_patched stored (recorded key d ending now) _).mp hmarked'
      rw [lastSync_recorded] at hmarks
      obtain (hlast | hgood) | hold := hmarks
      · exact (hlast hnone).elim
      · exact Or.inl hgood
      · obtain ⟨before, hbefore, hsame⟩ := hx stored (hplace ▸ hstored) hold
        exact Or.inr ⟨before, hbefore, (marked_of_status hsame).mp hold⟩
    · obtain ⟨before, hbefore, hsame⟩ := hx written hwritten hmarked'
      exact Or.inl ⟨before, hbefore, heq.trans hsame⟩

/-- A round that does not sync a declaration leaves the generation that its status tells. -/
theorem reconcile_tells {ending : Except Escape Result}
    (hothers : u.OthersKeep (KeepsStatus key))
    (h : Ends (reconcile settings key).run u ending w')
    (hobject : w'.declarations.get? key = some object) (hmarked : Marked object)
    (hsyncs : ∀ g, ¬ Round.Syncs key g ⟨u, ending, w'⟩) :
    ∃ old, u.declarations.get? key = some old ∧ Marked old ∧
      ∀ g, Tells g old → Tells g object := by
  have hkept : KeepsStatus key u w' → ∃ old, u.declarations.get? key = some old ∧ Marked old ∧
      ∀ g, Tells g old → Tells g object := by
    intro hkeeps
    obtain ⟨old, hold, heq⟩ := hkeeps object hobject hmarked
    exact ⟨old, hold, (marked_of_status heq).mp hmarked, fun g htells => htells.of_status heq⟩
  obtain ⟨_, _, -, hpass, -⟩ | ⟨left, d, asked, now, x, hleft, hd, hfound, hgoes⟩ :=
    reconcile_reads h
  · exact hkept (hpass.keeps keepsStatus_rely hothers).1
  have hthrough := (hfound.toPassage.keeps keepsStatus_rely hothers).1
  split at hgoes
  · exact hkept (hgoes.2 ▸ hthrough)
  · exact hkept (hgoes.2 ▸ hthrough)
  · obtain ⟨ending, ms, ms', y, htried, hrecorded, rfl⟩ | ⟨_, _, hgarbled, -⟩ := hgoes
    case inr =>
      exact hkept ((hfound.toPassage.trans hgarbled.toPassage).keeps keepsStatus_rely hothers).1
    cases hfound with
    | @mk z _ read _ _ _ passage hread holds after =>
    obtain ⟨hz, hothersz⟩ := passage.keeps keepsStatus_rely hothers
    obtain ⟨hx, hothersx⟩ := after.keeps keepsStatus_rely hothersz
    obtain ⟨hy, hothersy⟩ := htried.keeps keepsStatus_rely keepsStatus_withSecret hothersx
    -- What was read has the status that is stored when the ending is recorded.
    have hstill : ∀ stored, y.declarations.get? key = some stored → Marked stored →
        statusOf stored = statusOf read := by
      intro stored hstored hmarks
      obtain ⟨read', hread', heq⟩ := keepsStatus_rely.trans hx hy stored hstored hmarks
      cases hread.symm.trans hread'
      exact heq
    obtain ⟨stored, hstored, heq⟩ | ⟨stored, recordedAt, version, heq, hbare⟩ :=
      recorded_status hothersy hrecorded hobject hmarked
    · have hmarks := (marked_of_status heq).mp hmarked
      have heq' := heq.trans (hstill stored hstored hmarks)
      obtain ⟨old, hold, hsame⟩ := hz read hread ((marked_of_status heq').mp hmarked)
      have hall := heq'.trans hsame
      exact ⟨old, hold, (marked_of_status hall).mp hmarked, fun g htells => htells.of_status hall⟩
    cases ending with
    | ok progress =>
      refine (hsyncs d.generation ⟨(endsWell_reported _).mpr ⟨progress, rfl⟩, left, d, object,
        stored, _, recordedAt, version, hleft, hd, rfl, hobject, heq⟩).elim
    | error failure =>
      have hmarks : Marked read := by
        rw [Declaration.marked_iff holds]
        intro hnone
        obtain ⟨_, ⟨⟩⟩ | ⟨before, hbefore, hmarks⟩ := hbare hnone
        have hread' := (marked_of_status (hstill before hbefore hmarks)).mp hmarks
        exact (Declaration.marked_iff holds).mp hread' hnone
      obtain ⟨old, hold, hsame⟩ := hz read hread hmarks
      refine ⟨old, hold, (marked_of_status hsame).mp hmarks, fun g htells => ?_⟩
      have hobserved := htells.of_status hsame _ (Declaration.conditionsOf_eq_ok holds)
      exact tells_patched ((observed?_failed d failure recordedAt).trans hobserved) heq

/-- Along a run that starts without a watermark, a declaration with one tells the generation at
which it was last synced. -/
theorem run_tells (fresh : ∀ object, w.declarations.get? key = some object → ¬ Marked object)
    (run : Run key (StatusSpared key) w rounds v)
    (hobject : v.declarations.get? key = some object) (hmarked : Marked object) :
    ∃ generation, LastSynced key generation rounds ∧ Tells generation object := by
  induction run generalizing object with
  | start => exact (fresh object hobject hmarked).elim
  | @round left u w' rounds settings ending earlier between ends ih =>
    by_cases hsyncs : ∃ g, Round.Syncs key g ⟨u, ending, w'⟩
    · obtain ⟨g, hsyncs⟩ := hsyncs
      refine ⟨g, ⟨rounds, ⟨u, ending, w'⟩, [], rfl, hsyncs, ?_⟩, hsyncs.tells hobject⟩
      exact List.forall_mem_nil _
    · have hsyncs := not_exists.mp hsyncs
      obtain ⟨old, hold, hmarks, htells⟩ :=
        reconcile_tells between.others ends hobject hmarked hsyncs
      obtain ⟨kept, hkept, heq⟩ := between.status old hold hmarks
      obtain ⟨g, ⟨before, r, after, rfl, hr, hafter⟩, hold⟩ :=
        ih hkept ((marked_of_status heq).mp hmarks)
      refine ⟨g, ⟨before, r, after ++ [⟨u, ending, w'⟩], List.append_assoc _ _ _, hr, ?_⟩,
        htells g (hold.of_status heq)⟩
      exact List.forall_mem_append.mpr ⟨hafter, List.forall_mem_singleton.mpr hsyncs⟩

private theorem Round.Syncs.generation_unique {r : Round} {g g' : Option Int} (h : r.Syncs key g)
    (h' : r.Syncs key g') : g = g' := by
  obtain ⟨-, found, d, _, _, _, _, _, hfound, hd, rfl, -⟩ := h
  obtain ⟨-, found', d', _, _, _, _, _, hfound', hd', rfl, -⟩ := h'
  cases hfound.symm.trans hfound'
  cases hd.symm.trans hd'
  rfl

/-- There is one generation at which a declaration was last synced. -/
theorem LastSynced.unique {g g' : Option Int} (h : LastSynced key g rounds)
    (h' : LastSynced key g' rounds) : g = g' := by
  obtain ⟨before, r, after, rfl, hr, hafter⟩ := h
  obtain ⟨before', r', after', heq, hr', hafter'⟩ := h'
  obtain ⟨mid, -, hrest⟩ | ⟨mid, -, hrest⟩ := List.append_eq_append_iff.mp heq
  · cases mid with
    | nil =>
      obtain ⟨rfl, -⟩ := List.cons.inj hrest
      exact hr.generation_unique hr'
    | cons first mid =>
      obtain ⟨-, rfl⟩ := List.cons.inj hrest
      exact (hafter r' (List.mem_append_right _ List.mem_cons_self) g' hr').elim
  · cases mid with
    | nil =>
      obtain ⟨rfl, -⟩ := List.cons.inj hrest
      exact hr.generation_unique hr'
    | cons first mid =>
      obtain ⟨-, rfl⟩ := List.cons.inj hrest
      exact (hafter' r (List.mem_append_right _ List.mem_cons_self) g hr).elim

/-! ### What is skipped -/

private theorem isEcho?_eq_true {last : Option Time.Instant} {now : Time.Instant}
    {window : Time.Duration} :
    isEcho? last now window = some true ↔
      ∃ t limit, last = some t ∧ t.add? window = some limit ∧ now < limit := by
  cases last with
  | none => simp [isEcho?]
  | some t => simp [isEcho?]

/-- A reconcile has read a declaration with a watermark, and then the clock before the end of the
guard window behind the watermark. -/
def InGuardWindow (settings : Settings) (key : ObjectKey) (w : World) (ms : List Moment) : Prop :=
  ∃ object d t limit asked now rest,
    w.interlude.declarations.get? key = some object ∧ Declaration.ofObject object = .ok d ∧
    ms = .call (.getDeclaration key settings.access.timeout) asked :: .reading now :: rest ∧
    d.status.lastSync = some t ∧ t.add? settings.guardWindow = some limit ∧ now < limit

/-- Whatever called for it, a reconcile is skipped exactly inside the guard window. -/
theorem skippedEcho_iff {ending : Except Escape Result} {ms : List Moment}
    (h : Ends (reconcile settings key).run w ending w') (history : w'.history = w.history ++ ms) :
    outcome? ending = some .skippedEcho ↔ InGuardWindow settings key w ms := by
  obtain ⟨asked, result, rfl, hpass, houtcome, -⟩ |
    ⟨object, d, asked, now, x, hobject, hd, hfound, hgoes⟩ := reconcile_reads h
  · cases List.append_cancel_left (history.symm.trans hpass.history)
    constructor
    · intro hskipped
      obtain hnone | hnone := houtcome <;> cases hnone.symm.trans (Option.some.inj hskipped)
    · rintro ⟨_, _, _, _, _, _, _, -, -, ⟨⟩, -⟩
  have hwindow : ∀ rest,
      ms = .call (.getDeclaration key settings.access.timeout) asked :: .reading now :: rest →
      (InGuardWindow settings key w ms ↔
        isEcho? d.status.lastSync now settings.guardWindow = some true) := by
    rintro rest rfl
    rw [isEcho?_eq_true]
    constructor
    · rintro ⟨object', d', t, limit, _, now', rest', hobject', hd', hms, hlast, hlimit, hlt⟩
      cases hms
      cases hobject.symm.trans hobject'
      cases hd.symm.trans hd'
      exact ⟨t, limit, hlast, hlimit, hlt⟩
    · rintro ⟨t, limit, hlast, hlimit, hlt⟩
      exact ⟨object, d, t, limit, asked, now, rest, hobject, hd, rfl, hlast, hlimit, hlt⟩
  have hread := hfound.toPassage.history
  split at hgoes
  · next hecho =>
    obtain ⟨rfl, rfl⟩ := hgoes
    rw [hwindow [] (List.append_cancel_left (history.symm.trans hread)), hecho]
    exact iff_of_false nofun nofun
  · next hecho =>
    obtain ⟨rfl, rfl⟩ := hgoes
    rw [hwindow [] (List.append_cancel_left (history.symm.trans hread)), hecho]
    exact iff_of_true rfl rfl
  · next hecho =>
    obtain ⟨ending, ms', ms'', u, htried, hrecorded, rfl⟩ | ⟨_, ms', hgarbled, rfl⟩ := hgoes
    case inr =>
      have hall : ms = _ :: _ :: ms' := List.append_cancel_left (history.symm.trans (by
        rw [hgarbled.toPassage.history, hread, List.append_assoc]
        rfl))
      rw [hwindow _ hall, hecho]
      exact iff_of_false nofun nofun
    have hall : ms = _ :: _ :: (ms' ++ ms'') := List.append_cancel_left (history.symm.trans (by
      rw [hrecorded.history, htried.history, hread, List.append_assoc, List.append_assoc]
      rfl))
    rw [hwindow _ hall, hecho]
    refine iff_of_false (fun hskipped => ?_) nofun
    exact (@requeueAfter_reported settings key ending).2.2 (Option.some.inj hskipped)

/-- In every run of a declaration that starts without a watermark, while others edit it, delete it
and put it in place again but do not write its status: a reconcile is skipped as an echo exactly
inside the guard window behind the stored watermark.  The declaration that it finds then tells the
generation at which it was last synced, and that is the generation at which it is found exactly if
it was last synced at that generation. -/
theorem echo_in_guard_window {ending : Except Escape Result} {ms : List Moment}
    (fresh : ∀ object, w.declarations.get? key = some object → ¬ Marked object)
    (run : Run key (StatusSpared key) w rounds v) (between : StatusSpared key v u)
    (ends : Ends (reconcile settings key).run u ending w')
    (history : w'.history = u.history ++ ms) :
    (outcome? ending = some .skippedEcho ↔ InGuardWindow settings key u ms) ∧
      (outcome? ending = some .skippedEcho → ∃ object d c,
        u.interlude.declarations.get? key = some object ∧ Declaration.ofObject object = .ok d ∧
        d.status.condition? ConditionType.successfulSync.name = some c ∧
        LastSynced key c.observedGeneration rounds ∧
        (c.observedGeneration = d.generation ↔ LastSynced key d.generation rounds)) := by
  have hiff := skippedEcho_iff ends history
  refine ⟨hiff, fun hskipped => ?_⟩
  obtain ⟨object, d, t, limit, asked, now, rest, hobject, hd, -, hlast, -⟩ := hiff.mp hskipped
  have hmarked : Marked object := (Declaration.marked_iff hd).mpr (hlast ▸ Option.some_ne_none t)
  obtain ⟨hturn, -⟩ := World.interlude_keeps keepsStatus_rely between.others
  obtain ⟨old, hold, heq⟩ := keepsStatus_rely.trans between.status hturn object hobject hmarked
  obtain ⟨generation, hsynced, htells⟩ :=
    run_tells fresh run hold ((marked_of_status heq).mp hmarked)
  have hobserved := htells.of_status heq _ (Declaration.conditionsOf_eq_ok hd)
  obtain ⟨c, hc, rfl⟩ := Option.map_eq_some_iff.mp hobserved
  refine ⟨object, d, c, hobject, hd, hc, hsynced, ?_, hsynced.unique⟩
  intro hsame
  exact hsame ▸ hsynced

namespace Sample

/-- A declaration at its first generation, and a vault with two values. -/
def generatedWorld : World := changingWorld.disturb (.editDeclaration Sample.key [] (some 1))

/-- Half a second behind the first reconcile; the key map has been edited meanwhile. -/
def editedWorld : World :=
  ((StateT.run (reconcile Sample.settings Sample.key).run generatedWorld).2.disturb
    (.editDeclaration Sample.key [("map", .arr [.obj [("bwSecretId", .str "a"),
      ("secretKeyName", .str "X")]])] (some 2))).disturb (.advance (.ofMillis 500))

/-- The generation of a declaration. -/
def generation? (w : World) : Option Int := do
  let object ← w.declarations.get? Sample.key
  let d ← (Declaration.ofObject object).toOption
  d.generation

/-- The generation that a declaration tells as that of its last sync. -/
def observed? (w : World) : Option Int := do
  let object ← w.declarations.get? Sample.key
  let d ← (Declaration.ofObject object).toOption
  let c ← d.status.condition? ConditionType.successfulSync.name
  c.observedGeneration

private theorem statusSpared_of_isEmpty {v u : World} (h : KeepsStatus Sample.key v u)
    (hothers : u.others.isEmpty = true) : StatusSpared Sample.key v u :=
  ⟨h, World.othersKeep_of_isEmpty hothers⟩

end Sample

set_option maxRecDepth 10000 in
/-- The statement half a second behind a sync, with an edit in between. -/
theorem echo_in_guard_window_behind_edit :
    ∃ (rounds : List Round) (v w' : World) (ending : Except Escape Result)
        (ms : List Moment),
      let u := Sample.editedWorld
      (∀ object, Sample.generatedWorld.declarations.get? Sample.key = some object →
        ¬ Marked object) ∧
      Run Sample.key (StatusSpared Sample.key) Sample.generatedWorld rounds v ∧
      StatusSpared Sample.key v u ∧
      Ends (reconcile Sample.settings Sample.key).run u ending w' ∧
      w'.history = u.history ++ ms ∧ outcome? ending = some .skippedEcho ∧
      InGuardWindow Sample.settings Sample.key u ms ∧ ∃ object d c,
        u.interlude.declarations.get? Sample.key = some object ∧
        Declaration.ofObject object = .ok d ∧
        d.status.condition? ConditionType.successfulSync.name = some c ∧
        LastSynced Sample.key c.observedGeneration rounds ∧
        (c.observedGeneration = d.generation ↔ LastSynced Sample.key d.generation rounds) := by
  have hfresh : ∀ object, Sample.generatedWorld.declarations.get? Sample.key = some object →
      ¬ Marked object := by
    rintro object ⟨⟩ hmarked
    exact hmarked rfl
  have hrun : Run Sample.key (StatusSpared Sample.key) Sample.generatedWorld _ _ :=
    .round (.start _) (Sample.statusSpared_of_isEmpty (keepsStatus_rely.refl _) rfl)
      (ends_self (reconcile Sample.settings Sample.key).run Sample.generatedWorld)
  have hbetween : StatusSpared Sample.key
      (StateT.run (reconcile Sample.settings Sample.key).run Sample.generatedWorld).2
      Sample.editedWorld := by
    refine Sample.statusSpared_of_isEmpty ?_ (by decide +kernel)
    refine keepsStatus_rely.trans (keepsStatus_disturb _ ?_) (keepsStatus_disturb _ ?_)
    · intro _ _ he
      cases he
    · intro _ _ he
      cases he
  have hends := ends_self (reconcile Sample.settings Sample.key).run Sample.editedWorld
  have hskipped : outcome? (StateT.run (reconcile Sample.settings Sample.key).run
      Sample.editedWorld).1 = some .skippedEcho := by decide +kernel
  obtain ⟨ms, h⟩ := reconcile_ends hends
  obtain ⟨hiff, htells⟩ := echo_in_guard_window hfresh hrun hbetween hends h.history
  exact ⟨_, _, _, _, ms, hfresh, hrun, hbetween, hends, h.history, hskipped, hiff.mp hskipped,
    htells hskipped⟩

set_option maxRecDepth 10000 in
/-- Half a second behind a sync the key map of the declaration is edited.  The reconcile that this
calls for is skipped, although the declaration has another generation than the sync tells. -/
theorem edit_skipped_as_echo :
    outcome? (StateT.run (reconcile Sample.settings Sample.key).run Sample.generatedWorld).1 =
        some .synced ∧
      outcome? (StateT.run (reconcile Sample.settings Sample.key).run Sample.editedWorld).1 =
        some .skippedEcho ∧
      Sample.generation? Sample.editedWorld = some 2 ∧
      Sample.observed? Sample.editedWorld = some 1 := by
  decide +kernel

end SecretSync.Sync

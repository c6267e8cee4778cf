import SecretSync.Proofs.Sync.Rebuild
import SecretSync.Proofs.Sync.Watermark

/-!
# The course of the watermark

The watermark is kept as text in the status of a declaration, and every round that records
something reads it and writes it again.  A round that ends well moves it to the clock at its end,
unless it is there or further already; no other round changes what it reads as.
-/

namespace SecretSync

open Declaration (readWatermark)

/-- The clock shows a year of four digits wherever it is read. -/
def Moment.ReadsFourDigitYear : Moment → Prop
  | .reading t => t.InFourDigitYear
  | .call _ _ => True

/-- Which year a moment reads can be decided. -/
instance : DecidablePred Moment.ReadsFourDigitYear
  | .reading t => inferInstanceAs (Decidable t.InFourDigitYear)
  | .call _ _ => isTrue trivial

/-- If the watermark of an object is readable, it lies in a year of four digits. -/
def Declaration.WatermarkInFourDigitYear (object : Json) : Prop :=
  ∀ t, readWatermark object = .ok (some t) → t.InFourDigitYear

namespace Sync

open Declaration (watermarkOf WatermarkInFourDigitYear)

/-- What a watermark reads as after another reading: the same, or an instant that is not before
it. -/
def Follows (before after : Except ReadError (Option Time.Instant)) : Prop :=
  after = before ∨ ∃ previous t, before = .ok previous ∧ after = .ok (some t) ∧
    ∀ s, previous = some s → s ≤ t

/-- Readings follow each other through a third one. -/
theorem Follows.trans {a b c : Except ReadError (Option Time.Instant)} (h : Follows a b)
    (h' : Follows b c) : Follows a c := by
  rcases h' with rfl | ⟨previous, t, hb, hc, hle⟩
  · exact h
  · rcases h with rfl | ⟨first, s, ha, hb', hle'⟩
    · exact Or.inr ⟨previous, t, hb, hc, hle⟩
    · cases hb.symm.trans hb'
      refine Or.inr ⟨first, t, ha, hc, ?_⟩
      intro u hu
      exact Nat.le_trans (hle' u hu) (hle s rfl)

/-! ### The next watermark -/

private theorem micros_nextWatermark (previous : Option Time.Instant) (now : Time.Instant) :
    (nextWatermark previous now).micros = max ((previous.map (·.micros)).getD 0) now.micros := by
  cases previous with
  | none => simp [nextWatermark]
  | some t =>
    simp only [nextWatermark, Option.map_some, Option.getD_some, Time.Instant.lt_iff]
    split <;> omega

private theorem nextWatermark_inFourDigitYear {previous : Option Time.Instant} {now : Time.Instant}
    (hprevious : ∀ t, previous = some t → t.InFourDigitYear) (hnow : now.InFourDigitYear) :
    (nextWatermark previous now).InFourDigitYear := by
  cases previous with
  | none => exact hnow
  | some t =>
    simp only [nextWatermark]
    split
    · exact hprevious t rfl
    · exact hnow

private theorem follows_nextWatermark (previous : Option Time.Instant) (now : Time.Instant) :
    Follows (.ok previous) (.ok (some (nextWatermark previous now))) := by
  refine Or.inr ⟨previous, _, rfl, rfl, ?_⟩
  rintro s rfl
  rw [Time.Instant.le_iff, micros_nextWatermark]
  exact Nat.le_max_left _ _

variable {key : ObjectKey} {d : Declaration} {v u w w' : World} {settings : Settings}

/-! ### Steps of a round -/

/-- The watermark that a recorded ending leaves. -/
def watermarkAfter (d : Declaration) (ending : Except Failure Progress) (now : Time.Instant) :
    Option Time.Instant :=
  match ending with
  | .error _ => d.status.lastSync
  | .ok _ => some (nextWatermark d.status.lastSync now)

/-- The recorded watermark is the one that the ending calls for. -/
theorem lastSync_recorded_eq (ending : Except Failure Progress) (now : Time.Instant) :
    (recorded key d ending now).status.lastSync = watermarkAfter d ending now := by
  cases ending <;> rfl

/-- Recording an ending keeps the place. -/
theorem key_recorded (ending : Except Failure Progress) (now : Time.Instant) :
    (recorded key d ending now).key = d.key := by
  cases ending <;> rfl

private theorem watermarkAfter_inFourDigitYear {ending : Except Failure Progress}
    {now : Time.Instant}
    (hlast : ∀ t, d.status.lastSync = some t → t.InFourDigitYear) (hnow : now.InFourDigitYear) :
    ∀ t, watermarkAfter d ending now = some t → t.InFourDigitYear := by
  intro t ht
  cases ending with
  | error failure => exact hlast t ht
  | ok progress =>
    cases ht
    exact nextWatermark_inFourDigitYear hlast hnow

private theorem readWatermark_recorded {ending : Except Failure Progress} {now : Time.Instant}
    (hlast : ∀ t, d.status.lastSync = some t → t.InFourDigitYear) (hnow : now.InFourDigitYear)
    {old : Json} (hold : readWatermark old = .ok d.status.lastSync) (version : String) :
    readWatermark (Cluster.patched old
      (Cluster.Declarations.statusBody (recorded key d ending now)) version) =
        .ok (watermarkAfter d ending now) := by
  have hyears : ∀ t, watermarkAfter d ending now = some t → t.InFourDigitYear :=
    watermarkAfter_inFourDigitYear hlast hnow
  rw [← @lastSync_recorded_eq key] at hyears ⊢
  rw [Cluster.Declarations.statusBody, Declaration.readWatermark_patched _ _ hyears]
  cases hrecorded : (recorded key d ending now).status.lastSync with
  | some t => rfl
  | none =>
    rw [lastSync_recorded_eq] at hrecorded
    cases ending with
    | error failure => exact hold.trans (congrArg Except.ok hrecorded)
    | ok progress => cases hrecorded

/-- The moments at which a status is written: a reading of the clock and the request. -/
def statusMoments (settings : Settings) (place : ObjectKey) (body : Json)
    (now sent : Time.Instant) : List Moment :=
  [.reading now, .call (.patchStatus place body settings.access.timeout) sent]

/-- The cluster refuses a status, and the watermark reads as before; or it stores the status over
the one that lies at its place, and there the watermark reads as the next one. -/
def StatusAnswered (settings : Settings) (key place : ObjectKey) (body : Json)
    (now sent : Time.Instant) (previous next : Option Time.Instant) (v u : World) : Prop :=
  (Passage v (statusMoments settings place body now sent) u ∧
    ∀ object, u.declarations.get? key = some object → readWatermark object = .ok previous) ∨
  ∃ x stored, Passage v (statusMoments settings place body now sent) x ∧
    x.declarations.get? place = some stored ∧
    Passage (x.withDeclaration place (Cluster.patched stored body x.newVersion)) [] u ∧
    ∀ object, u.declarations.get? key = some object →
      readWatermark object = .ok (if place = key then next else previous)

/-- A recorded ending leaves the watermark as it was unless the cluster takes the status in, and for
this declaration. -/
theorem recorded_watermark {ending : Except Failure Progress} {ms : List Moment}
    (hothers : v.OthersKeep (KeepsWatermark key))
    (hread : ∀ old, v.declarations.get? key = some old →
      readWatermark old = .ok d.status.lastSync)
    (hlast : ∀ t, d.status.lastSync = some t → t.InFourDigitYear)
    (hclock : ∀ m ∈ ms, m.ReadsFourDigitYear)
    (h : Recorded settings (recorded key d ending) v ms u) :
    ∃ now sent, ms = statusMoments settings d.key
        (Cluster.Declarations.statusBody (recorded key d ending now)) now sent ∧
      StatusAnswered settings key d.key
        (Cluster.Declarations.statusBody (recorded key d ending now)) now sent d.status.lastSync
        (watermarkAfter d ending now) v u := by
  cases h with
  | refused now sent passage =>
    rw [key_recorded] at passage ⊢
    refine ⟨now, sent, rfl, Or.inl ⟨passage, fun object hobject => ?_⟩⟩
    obtain ⟨old, hold, heq⟩ := (passage.keeps keepsWatermark_rely hothers).1 object hobject
    rw [Declaration.readWatermark_congr heq, hread old hold]
  | @written x _ stored now sent passage hstored after =>
    have hnow : now.InFourDigitYear := hclock _ List.mem_cons_self
    obtain ⟨hx, hothers'⟩ := passage.keeps keepsWatermark_rely hothers
    rw [key_recorded] at passage hstored after ⊢
    refine ⟨now, sent, rfl, Or.inr ⟨x, stored, passage, hstored, after, fun object hobject => ?_⟩⟩
    obtain ⟨written, hwritten, heq⟩ := (after.keeps keepsWatermark_rely hothers').1 object hobject
    rw [World.withDeclaration, Dict.get?_insert] at hwritten
    rw [Declaration.readWatermark_congr heq]
    split at hwritten
    · next hplace =>
      cases hwritten
      obtain ⟨old, hold, heq'⟩ := hx stored (hplace ▸ hstored)
      have hstill := (Declaration.readWatermark_congr heq').trans (hread old hold)
      rw [if_pos hplace, readWatermark_recorded hlast hnow hstill]
    · next hplace =>
      obtain ⟨old, hold, heq'⟩ := hx written hwritten
      rw [if_neg hplace, Declaration.readWatermark_congr heq', hread old hold]

/-- What others leave alone reads as it did. -/
theorem KeepsWatermark.reading {old object : Json} (h : KeepsWatermark key v u)
    (hold : v.declarations.get? key = some old) (hobject : u.declarations.get? key = some object) :
    readWatermark object = readWatermark old := by
  obtain ⟨old', hold', heq⟩ := h object hobject
  cases hold.symm.trans hold'
  exact Declaration.readWatermark_congr heq

/-- The declaration that a round goes on with has the stored watermark. -/
theorem Found.watermark {ms : List Moment} {now : Time.Instant} {old : Json}
    (hothers : u.OthersKeep (KeepsWatermark key)) (hold : u.declarations.get? key = some old)
    (h : Found settings key u ms d now v) : readWatermark old = .ok d.status.lastSync := by
  cases h with
  | mk asked now passage stored holds after =>
    rw [← (passage.keeps keepsWatermark_rely hothers).1.reading hold stored]
    exact (Declaration.ofObject_eq_ok holds).2.2.2

/-! ### Writes of secrets -/

/-- The replacement of a secret is accepted: one lies at the place, under the version that the new
one carries if it carries any, and the new one is stored there. -/
def ReplacedIn (place : ObjectKey) (body : SecretObject) (v u : World) : Prop :=
  ∃ old, v.secrets.get? place = some old ∧
    (body.resourceVersion.isSome → body.resourceVersion = old.resourceVersion) ∧
    Passage (v.withSecret place (body.stored (some place.ns) old.fields.uid v.newVersion)) [] u

/-- The target of a declaration is read, or created where there is none, and the replacement of what
was read is the next write and accepted. -/
def TargetReplaced (settings : Settings) (key : ObjectKey) (d : Declaration) (v : World)
    (ms : List Moment) (u : World) : Prop :=
  ∃ (front read last : List Moment) (target : Secret) (body : SecretObject)
      (now sent : Time.Instant) (x y z : World),
    ms = front ++ (read ++ last) ∧
    last = [.reading now,
      .call (.replaceSecret target.place body settings.access.timeout) sent] ∧
    Passage v front x ∧ TargetRead settings key d x read target y ∧ Passage y last z ∧
    ReplacedIn target.place body z u

/-- An attempt without changes writes no secret. -/
theorem Attempted.unwritten {ms : List Moment}
    (h : Attempted settings key d v ms (.ok .unchanged) u) : Passage v ms u := by
  cases h with
  | unchanged pulled quiet after =>
    have passage := pulled.toPassage.trans after
    rwa [List.append_nil] at passage

/-- An attempt that writes its target has seen the replacement accepted at its end. -/
theorem Attempted.replaced {ms : List Moment}
    (h : Attempted settings key d v ms (.ok .written) u) :
    TargetReplaced settings key d v ms u := by
  cases h with
  | written pulled changed target refilled =>
    cases refilled with
    | mk now sent restores refills passage stored current after =>
      rw [place_of_refill restores refills] at passage stored after ⊢
      exact ⟨_, _, _, _, _, now, sent, _, _, _, rfl, rfl, pulled.toPassage, target, passage,
        _, stored, current, after⟩

/-- A reported attempt ends well exactly if it made progress. -/
theorem endsWell_reported (ending : Except Failure Progress) :
    EndsWell (.ok (reported settings key ending)) ↔ ∃ progress, ending = .ok progress := by
  cases ending with
  | error failure => simp [EndsWell, outcome?, reported]
  | ok progress => cases progress <;> simp [EndsWell, outcome?, reported, Progress.outcome]

/-! ### Rounds -/

/-- A round that ended well has found its declaration, read the clock behind everything else and
then sent the status with a watermark: the later of the previous one and that reading.  Up to there
it has written no secret, or it has had the replacement of its target accepted.  The watermark is
stored if the cluster accepts the status, and for this declaration. -/
def CompletedWith (settings : Settings) (key : ObjectKey) (previous : Option Time.Instant)
    (u : World) (ms : List Moment) (synced : Bool) (w' : World) : Prop :=
  ∃ (d : Declaration) (found before : List Moment) (v x : World) (body : Json)
      (checked now sent t : Time.Instant),
    Found settings key u found d checked v ∧
    ms = found ++ (before ++ statusMoments settings d.key body now sent) ∧
    (∀ m ∈ before, m.status? = none) ∧
    t.micros = max ((previous.map (·.micros)).getD 0) now.micros ∧
    Status.writtenWatermark? body = some (Time.Timestamp.format t) ∧
    (synced = false → Passage v before x) ∧
    (synced = true → TargetReplaced settings key d v before x) ∧
    StatusAnswered settings key d.key body now sent previous (some t) x w'

/-- A round that records nothing leaves the watermark as it was. -/
theorem passage_watermark {ms : List Moment} {old : Json}
    (hothers : u.OthersKeep (KeepsWatermark key)) (hold : u.declarations.get? key = some old)
    (passage : Passage u ms w') :
    ∀ object, w'.declarations.get? key = some object → readWatermark object = readWatermark old :=
  fun _ hobject => (passage.keeps keepsWatermark_rely hothers).1.reading hold hobject

/-- What a round makes of the watermark. -/
theorem reconciled_watermark {ending : Except Escape Result} {ms : List Moment} {old : Json}
    (hothers : u.OthersKeep (KeepsWatermark key)) (hold : u.declarations.get? key = some old)
    (hyear : WatermarkInFourDigitYear old) (hclock : ∀ m ∈ ms, m.ReadsFourDigitYear)
    (h : Reconciled settings key u ms ending w') :
    (¬ EndsWell ending → ∀ object, w'.declarations.get? key = some object →
        readWatermark object = readWatermark old) ∧
      (EndsWell ending → ∃ previous, readWatermark old = .ok previous ∧
        CompletedWith settings key previous u ms (outcome? ending = some .synced) w') := by
  cases h with
  | unread passage outcome =>
    refine ⟨fun _ => passage_watermark hothers hold passage, ?_⟩
    rintro (hgood | hgood) <;> rcases outcome with ho | ho <;> simp [outcome?, ho] at hgood
  | overflow found outside =>
    refine ⟨fun _ => passage_watermark hothers hold found.toPassage, ?_⟩
    rintro (hgood | hgood) <;> cases hgood
  | echo found inside =>
    refine ⟨fun _ => passage_watermark hothers hold found.toPassage, ?_⟩
    rintro (hgood | hgood) <;> cases hgood
  | garbled found behind broken =>
    refine ⟨fun _ => passage_watermark hothers hold (found.toPassage.trans broken.toPassage), ?_⟩
    rintro (hgood | hgood) <;> cases hgood
  | @attempted x y _ ms₁ ms₂ ms₃ d _ ending found behind tried record =>
    have hfound := found.watermark hothers hold
    obtain ⟨hx, hothersx⟩ := found.toPassage.keeps keepsWatermark_rely hothers
    obtain ⟨hy, hothersy⟩ := tried.keeps keepsWatermark_rely keepsWatermark_withSecret hothersx
    have hread : ∀ object, y.declarations.get? key = some object →
        readWatermark object = .ok d.status.lastSync := fun object hobject =>
      ((keepsWatermark_rely.trans hx hy).reading hold hobject).trans hfound
    have hlast : ∀ t, d.status.lastSync = some t → t.InFourDigitYear := fun t ht =>
      hyear t (hfound.trans (congrArg Except.ok ht))
    rw [List.forall_mem_append, List.forall_mem_append] at hclock
    obtain ⟨now, sent, rfl, hanswered⟩ := recorded_watermark hothersy hread hlast hclock.2.2 record
    rw [endsWell_reported]
    refine ⟨?_, ?_⟩
    · intro hbad object hobject
      rw [hfound]
      cases ending with
      | error failure =>
        rcases hanswered with ⟨-, hleft⟩ | ⟨_, _, -, -, -, hleft⟩
        · exact hleft object hobject
        · rw [hleft object hobject, watermarkAfter, ite_self]
      | ok progress => exact (hbad ⟨progress, rfl⟩).elim
    · rintro ⟨progress, rfl⟩
      refine ⟨_, hfound, d, ms₁, ms₂, x, y, _, _, now, sent, nextWatermark d.status.lastSync now,
        found, rfl, fun m hm => (tried.inAttempt m hm).status?_eq_none, micros_nextWatermark _ _,
        writtenWatermark?_statusBody rfl, ?_, ?_, hanswered⟩
      · intro hquiet
        cases progress with
        | unchanged => exact tried.unwritten
        | written => cases of_decide_eq_false hquiet rfl
      · intro hsynced
        cases progress with
        | unchanged => cases of_decide_eq_true hsynced
        | written => exact tried.replaced

/-- A round pulls the changes since the stored watermark. -/
theorem reconciled_pull {ending : Except Escape Result} {ms : List Moment} {old : Json}
    (hothers : u.OthersKeep (KeepsWatermark key)) (hold : u.declarations.get? key = some old)
    (h : Reconciled settings key u ms ending w') {m : Moment} (hm : m ∈ ms)
    {since : Option Time.Instant} {asked : Time.Instant} (hpull : m.pull? = some (since, asked)) :
    readWatermark old = .ok since := by
  cases h with
  | unread passage outcome requeue request =>
    obtain ⟨t, rfl⟩ := request
    cases List.mem_singleton.mp hm
    cases hpull
  | overflow found outside => cases (found.idle m hm).1.symm.trans hpull
  | echo found inside => cases (found.idle m hm).1.symm.trans hpull
  | garbled found behind broken =>
    rcases List.mem_append.mp hm with hm | hm
    · cases (found.idle m hm).1.symm.trans hpull
    · rw [found.watermark hothers hold, (broken.inAttempt m hm).pull?_eq hpull]
  | attempted found behind tried record =>
    rcases List.mem_append.mp hm with hm | hm
    · cases (found.idle m hm).1.symm.trans hpull
    · rcases List.mem_append.mp hm with hm | hm
      · rw [found.watermark hothers hold, (tried.inAttempt m hm).pull?_eq hpull]
      · obtain ⟨now, sent, rfl⟩ := record.moments
        simp at hm
        rcases hm with rfl | rfl <;> cases hpull

/-- What a completed round leaves follows the previous watermark, in a year of four digits. -/
theorem CompletedWith.follows {previous : Option Time.Instant} {ms : List Moment}
    {synced : Bool} {old object : Json} (hclock : ∀ m ∈ ms, m.ReadsFourDigitYear)
    (hyear : WatermarkInFourDigitYear old) (hold : readWatermark old = .ok previous)
    (hobject : w'.declarations.get? key = some object)
    (h : CompletedWith settings key previous u ms synced w') :
    WatermarkInFourDigitYear object ∧ Follows (readWatermark old) (readWatermark object) := by
  obtain ⟨d, found, before, v, x, body, checked, now, sent, t, -, rfl, -, ht, -, -, -, hanswered⟩ :=
    h
  have hnext : t = nextWatermark previous now :=
    Time.Instant.ext (ht.trans (micros_nextWatermark previous now).symm)
  have hnow : now.InFourDigitYear :=
    hclock (.reading now) (List.mem_append_right _ (List.mem_append_right _ List.mem_cons_self))
  have hstill : readWatermark object = .ok previous ∨ readWatermark object = .ok (some t) := by
    rcases hanswered with ⟨-, hleft⟩ | ⟨_, _, -, -, -, hleft⟩
    · exact Or.inl (hleft object hobject)
    · rw [hleft object hobject]
      split
      · exact Or.inr rfl
      · exact Or.inl rfl
  unfold WatermarkInFourDigitYear
  rw [hold]
  rcases hstill with hsame | hmoved
  · rw [hsame]
    exact ⟨fun s hs => hyear s (hold.trans hs), Or.inl rfl⟩
  · rw [hmoved]
    refine ⟨?_, hnext ▸ follows_nextWatermark previous now⟩
    intro s hs
    cases hs
    rw [hnext]
    exact nextWatermark_inFourDigitYear (fun s hs => hyear s (hs ▸ hold)) hnow

/-- What a round leaves follows what it found, in a year of four digits. -/
theorem reconciled_follows {ending : Except Escape Result} {ms : List Moment}
    {old object : Json} (hothers : u.OthersKeep (KeepsWatermark key))
    (hold : u.declarations.get? key = some old) (hyear : WatermarkInFourDigitYear old)
    (hclock : ∀ m ∈ ms, m.ReadsFourDigitYear) (h : Reconciled settings key u ms ending w')
    (hobject : w'.declarations.get? key = some object) :
    WatermarkInFourDigitYear object ∧ Follows (readWatermark old) (readWatermark object) ∧
      (readWatermark object = readWatermark old ∨ EndsWell ending) := by
  obtain ⟨hbad, hgood⟩ := reconciled_watermark hothers hold hyear hclock h
  by_cases hends : EndsWell ending
  · obtain ⟨previous, hprevious, hcompleted⟩ := hgood hends
    obtain ⟨hyear', hfollows⟩ := hcompleted.follows hclock hyear hprevious hobject
    exact ⟨hyear', hfollows, Or.inr hends⟩
  · have heq := hbad hends object hobject
    refine ⟨?_, Or.inl heq, Or.inl heq⟩
    rw [WatermarkInFourDigitYear, heq]
    exact hyear

/-! ### Runs -/

/-- What a round did. -/
def Round.moments (r : Round) : List Moment := r.after.history.drop r.before.history.length

/-- Along a run the watermark follows the first one, and is still that one if no round has ended
well. -/
theorem run_watermark {rounds : List Round} {object : Json}
    (run : Run key (Spared key) w rounds v)
    (years : ∀ first, w.declarations.get? key = some first → WatermarkInFourDigitYear first)
    (clocks : ∀ r ∈ rounds, ∀ m ∈ r.moments, m.ReadsFourDigitYear)
    (hobject : v.declarations.get? key = some object) :
    WatermarkInFourDigitYear object ∧ ∃ first, w.declarations.get? key = some first ∧
      Follows (readWatermark first) (readWatermark object) ∧
      (readWatermark object = readWatermark first ∨ ∃ r ∈ rounds, EndsWell r.ending) := by
  induction run generalizing object with
  | start => exact ⟨years object hobject, object, hobject, Or.inl rfl, Or.inl rfl⟩
  | @round v u w' rounds settings ending earlier between ends ih =>
    obtain ⟨old, hold, -⟩ := reconcile_marks between.others ends hobject
    obtain ⟨left, hleft, heq⟩ := between.watermark old hold
    have hsame := Declaration.readWatermark_congr heq
    obtain ⟨hyear, first, hfirst, hfollows, hstill⟩ :=
      ih (fun r hr => clocks r (List.mem_append_left _ hr)) hleft
    obtain ⟨ms, h⟩ := reconcile_ends ends
    have hclock : ∀ m ∈ ms, m.ReadsFourDigitYear := by
      have hmoments := clocks _ (List.mem_append_right _ (List.mem_singleton.mpr rfl))
      rw [Round.moments, h.history, List.drop_left] at hmoments
      exact hmoments
    rw [WatermarkInFourDigitYear, ← hsame] at hyear
    rw [← hsame] at hfollows hstill
    obtain ⟨hyear', hfollows', hstill'⟩ :=
      reconciled_follows between.others hold hyear hclock h hobject
    refine ⟨hyear', first, hfirst, hfollows.trans hfollows', ?_⟩
    rcases hstill' with hround | hgood
    · rw [hround]
      exact hstill.imp_right (fun ⟨r, hr, hgood⟩ => ⟨r, List.mem_append_left _ hr, hgood⟩)
    · exact Or.inr ⟨_, List.mem_append_right _ (List.mem_singleton.mpr rfl), hgood⟩

/-- Along a run the watermark, as it is read back from the status, never goes back and is never
absent again, and until a round has ended well it is the one of the start.  The next round pulls the
changes since exactly this watermark; if it does not end well it leaves the watermark as it was, and
else it writes the later of it and the clock at its end, behind the accepted write of its target. -/
theorem watermark_advances {rounds : List Round} {ending : Except Escape Result}
    {ms : List Moment} {old : Json} (run : Run key (Spared key) w rounds v)
    (between : Spared key v u) (ends : Act.Ends (reconcile settings key).run u ending w')
    (history : w'.history = u.history ++ ms) (stored : u.declarations.get? key = some old)
    (years : ∀ first, w.declarations.get? key = some first → WatermarkInFourDigitYear first)
    (clocks : ∀ r ∈ rounds, ∀ m ∈ r.moments, m.ReadsFourDigitYear)
    (clock : ∀ m ∈ ms, m.ReadsFourDigitYear) :
    (∃ first, w.declarations.get? key = some first ∧
      Follows (readWatermark first) (readWatermark old) ∧
      (readWatermark old = readWatermark first ∨ ∃ r ∈ rounds, EndsWell r.ending)) ∧
    (∀ m ∈ ms, ∀ since asked, m.pull? = some (since, asked) → readWatermark old = .ok since) ∧
    (∀ object, w'.declarations.get? key = some object →
      Follows (readWatermark old) (readWatermark object) ∧
      (¬ EndsWell ending → readWatermark object = readWatermark old)) ∧
    (EndsWell ending → ∃ previous, readWatermark old = .ok previous ∧
      CompletedWith settings key previous u ms (outcome? ending = some .synced) w') := by
  obtain ⟨ms', h⟩ := reconcile_ends ends
  cases List.append_cancel_left (history.symm.trans h.history)
  obtain ⟨left, hleft, heq⟩ := between.watermark old stored
  have hsame := Declaration.readWatermark_congr heq
  obtain ⟨hyear, first, hfirst, hfollows, hstill⟩ := run_watermark run years clocks hleft
  rw [WatermarkInFourDigitYear, ← hsame] at hyear
  rw [← hsame] at hfollows hstill
  obtain ⟨hbad, hgood⟩ := reconciled_watermark between.others stored hyear clock h
  refine ⟨⟨first, hfirst, hfollows, hstill⟩, ?_, ?_, hgood⟩
  · intro m hm since asked hpull
    exact reconciled_pull between.others stored h hm hpull
  · intro object hobject
    refine ⟨?_, fun hends => hbad hends object hobject⟩
    exact (reconciled_follows between.others stored hyear clock h hobject).2.1

/-- A minute behind a first reconcile. -/
def Sample.laterWorld : World :=
  (StateT.run (reconcile Sample.settings Sample.key).run Sample.changingWorld).2.disturb
    (.advance (.ofSeconds 60))

set_option maxRecDepth 10000 in
/-- The statement at a second sync, a minute behind the first. -/
theorem watermark_advances_a_minute_later :
    ∃ (rounds : List Round) (v w' : World) (ending : Except Escape Result)
        (ms : List Moment) (old : Json),
      let w := Sample.changingWorld
      let u := Sample.laterWorld
      Run Sample.key (Spared Sample.key) w rounds v ∧ Spared Sample.key v u ∧
      Act.Ends (reconcile Sample.settings Sample.key).run u ending w' ∧
      w'.history = u.history ++ ms ∧ u.declarations.get? Sample.key = some old ∧
      (∀ first, w.declarations.get? Sample.key = some first → WatermarkInFourDigitYear first) ∧
      (∀ r ∈ rounds, ∀ m ∈ r.moments, m.ReadsFourDigitYear) ∧
      (∀ m ∈ ms, m.ReadsFourDigitYear) ∧ EndsWell ending ∧
      (∃ first, w.declarations.get? Sample.key = some first ∧
        Follows (readWatermark first) (readWatermark old) ∧
        (readWatermark old = readWatermark first ∨ ∃ r ∈ rounds, EndsWell r.ending)) ∧
      (∀ m ∈ ms, ∀ since asked, m.pull? = some (since, asked) → readWatermark old = .ok since) ∧
      (∀ object, w'.declarations.get? Sample.key = some object →
        Follows (readWatermark old) (readWatermark object) ∧
        (¬ EndsWell ending → readWatermark object = readWatermark old)) ∧
      (EndsWell ending → ∃ previous, readWatermark old = .ok previous ∧
        CompletedWith Sample.settings Sample.key previous u ms
          (outcome? ending = some .synced) w') := by
  have hrun : Run Sample.key (Spared Sample.key) Sample.changingWorld _ _ :=
    .round (.start _) (Sample.spared_of_isEmpty (keepsWatermark_rely.refl _) rfl)
      (Act.ends_self (reconcile Sample.settings Sample.key).run Sample.changingWorld)
  have hbetween : Spared Sample.key
      (StateT.run (reconcile Sample.settings Sample.key).run Sample.changingWorld).2
      Sample.laterWorld := by
    refine Sample.spared_of_isEmpty (keepsWatermark_disturb _ ?_) (by decide +kernel)
    intro _ _ he
    cases he
  have hends := Act.ends_self (reconcile Sample.settings Sample.key).run Sample.laterWorld
  have hgood : EndsWell
      (StateT.run (reconcile Sample.settings Sample.key).run Sample.laterWorld).1 :=
    Or.inl (by decide +kernel)
  obtain ⟨ms, h⟩ := reconcile_ends hends
  have hstored : (Sample.laterWorld.declarations.get? Sample.key).isSome = true := by decide +kernel
  obtain ⟨old, hold⟩ := Option.isSome_iff_exists.mp hstored
  have hyears : ∀ first, Sample.changingWorld.declarations.get? Sample.key = some first →
      WatermarkInFourDigitYear first := by
    intro first hfirst t ht
    have hobject : Sample.changingWorld.declarations.get? Sample.key = some (Sample.object []) :=
      rfl
    cases hobject.symm.trans hfirst
    cases ht
  have hclocks : ∀ r ∈ [Round.mk Sample.changingWorld
      (StateT.run (reconcile Sample.settings Sample.key).run Sample.changingWorld).1
      (StateT.run (reconcile Sample.settings Sample.key).run Sample.changingWorld).2],
      ∀ m ∈ r.moments, m.ReadsFourDigitYear := by
    rw [List.forall_mem_singleton]
    decide +kernel
  have hclock : ∀ m ∈ (StateT.run (reconcile Sample.settings Sample.key).run
      Sample.laterWorld).2.history.drop Sample.laterWorld.history.length,
      m.ReadsFourDigitYear := by decide +kernel
  rw [h.history, List.drop_left] at hclock
  exact ⟨_, _, _, _, ms, old, hrun, hbetween, hends, h.history, hold, hyears, hclocks, hclock,
    hgood, watermark_advances hrun hbetween hends h.history hold hyears hclocks hclock⟩

end Sync
end SecretSync

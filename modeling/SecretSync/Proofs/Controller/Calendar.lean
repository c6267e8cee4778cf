import SecretSync.Cli.Execution
import SecretSync.Proofs.Controller.Due
import SecretSync.Proofs.Sync.Accounting

/-!
# Where the calendar ends

Times are added up in three places: the refresh interval has to be a span of time, an attempt lies
behind the guard window that follows the watermark, and the next run follows the end of the last
one.  Nothing bounds the interval from above, and nothing the watermark, so each of the sums can
fail; here it is told exactly when it does.
-/

namespace SecretSync

namespace Time

/-- So many seconds are a span of time: at most `Duration.maxDays` days in each direction. -/
def IsSpan (seconds : Int) : Prop :=
  -(Duration.maxDays : Int) * 86400 ≤ seconds ∧ seconds < (Duration.maxDays + 1 : Int) * 86400

/-- So many seconds behind an instant the calendar has no instant. -/
def OutsideCalendar (t : Instant) (seconds : Int) : Prop :=
  (t.micros : Int) + seconds * 1000000 < 0 ∨
    (Instant.limit : Int) ≤ (t.micros : Int) + seconds * 1000000

private theorem Duration.ofSeconds?_cases (n : Int) :
    (IsSpan n ∧ ofSeconds? n = .ok (ofSeconds n)) ∨
      (¬ IsSpan n ∧ ∃ fault, ofSeconds? n = .error fault) := by
  have hdays : n.fdiv 86400 = n / 86400 := Int.fdiv_eq_ediv_of_nonneg n (by decide)
  have hmax : (maxDays : Int) = 999999999 := rfl
  unfold ofSeconds? IsSpan
  dsimp only
  rw [hdays, hmax]
  split
  · next hword =>
    refine Or.inr ⟨?_, _, rfl⟩
    omega
  · split
    · next hmany =>
      refine Or.inr ⟨?_, _, rfl⟩
      omega
    · next hword hmany =>
      refine Or.inl ⟨?_, rfl⟩
      omega

private theorem Instant.add?_eq_none_iff {t : Instant} {n : Int} :
    t.add? (.ofSeconds n) = none ↔ OutsideCalendar t n := by
  have hsome := @add?_isSome_iff t (.ofSeconds n)
  have hlength : (Duration.ofSeconds n).micros = n * 1000000 := rfl
  have hlimit : (limit : Int) = 315537897600000000 := rfl
  rw [hlength] at hsome
  rw [← Option.not_isSome_iff_eq_none, hsome, OutsideCalendar, hlimit]
  omega

private theorem Instant.add?_zero (t : Instant) : t.add? .zero = some t := by
  have hrange := t.inRange
  have hzero : (t.micros : Int) + Duration.zero.micros = t.micros := Int.add_zero _
  rw [add?, hzero, ofMicros?, dif_pos (by omega)]
  apply congrArg some
  apply Instant.ext
  exact Int.toNat_natCast t.micros

end Time

namespace Sync

open Act

variable {settings : Settings} {key : ObjectKey} {w : World}

private theorem attemptAndRecord_stays {d : Declaration} {w' : World} :
    ¬ Ends (attemptAndRecord settings key d).run w (.error .leavesCalendar) w' := by
  intro h
  rcases ends_run_lift_bind.mp h with ⟨_, v, -, h⟩
  rcases ends_run_lift_bind.mp h with ⟨answer, u, -, h⟩
  split at h
  · rcases ends_run_lift.mp h with ⟨result, -, hresult⟩
    cases hresult
  · cases (ends_run_throw.mp h).1
  · rcases ends_run_lift.mp h with ⟨result, -, hresult⟩
    cases hresult

/-- A reconcile leaves the calendar exactly if it reads a declaration behind whose watermark the
guard window does. -/
theorem reconcile_leaves_iff :
    (∃ v, Ends (reconcile settings key).run w (.error .leavesCalendar) v) ↔
      ∃ d v t, Ends (Cluster.Declarations.fetch settings.access key).run w (.ok d) v ∧
        d.status.lastSync = some t ∧ t.add? settings.guardWindow = none := by
  constructor
  · rintro ⟨w', h⟩
    rcases ends_run_lift_bind.mp h with ⟨answer, v, hfetch, h⟩
    cases answer with
    | error e =>
      rcases ends_run_lift.mp h with ⟨result, -, hresult⟩
      cases hresult
    | ok d =>
      rcases ends_run_lift_bind.mp h with ⟨now, u, -, hrest⟩
      cases hlast : d.status.lastSync with
      | none =>
        rw [hlast] at hrest
        exact absurd hrest attemptAndRecord_stays
      | some t =>
        refine ⟨d, v, t, hfetch, hlast, ?_⟩
        cases hadd : t.add? settings.guardWindow with
        | none => rfl
        | some limit =>
          have hecho : isEcho? d.status.lastSync now settings.guardWindow =
              some (decide (now < limit)) := by
            rw [hlast, isEcho?, hadd]
            rfl
          rw [hecho] at hrest
          cases hinside : decide (now < limit) with
          | true =>
            rw [hinside] at hrest
            rcases ends_run_lift_bind.mp hrest with ⟨_, x, -, hskip⟩
            cases (ends_run_pure.mp hskip).1
          | false =>
            rw [hinside] at hrest
            exact absurd hrest attemptAndRecord_stays
  · rintro ⟨d, v, t, hfetch, hlast, hleaves⟩
    have hreading := ends_self Act.now v
    exists (StateT.run Act.now v).2
    apply ends_run_lift_bind.mpr
    refine ⟨.ok d, v, hfetch, ends_run_lift_bind.mpr ⟨_, _, hreading, ?_⟩⟩
    rw [hlast, isEcho?, hleaves]
    exact ends_run_throw.mpr ⟨rfl, rfl⟩

end Sync

namespace Controller

variable {c : Settings} {key : ObjectKey} {s : Schedule} {w : World}

/-- A run leaves the calendar exactly if its reconcile does or the next run would be due outside of
it. -/
theorem dispatch_leaves_iff :
    (∃ s' w', Ends (dispatch c key) s w (.error .leavesCalendar) s' w') ↔
      (∃ v, Act.Ends (c.reconcile key).run w (.error .leavesCalendar) v) ∨
        RequeuesOutside c key w := by
  constructor
  · rintro ⟨s', w', h⟩
    rcases breaksOff_of_dispatch h with ⟨escape, v, hends, hescape⟩ | ⟨houtside, -⟩
    · cases escape with
      | leavesCalendar => exact Or.inl ⟨v, hends⟩
      | value error => cases hescape
    · exact Or.inr houtside
  · rintro (⟨v, h⟩ | ⟨result, delay, ended, v, u, h, hreading, hdelay, hleaves⟩)
    · exact ⟨s, v, ends_act_bind.mpr ⟨_, v, h, ends_throw.mpr ⟨rfl, rfl, rfl⟩⟩⟩
    · have hunsettled : s.settle? key result ended = none := by
        rw [Schedule.settle?, hdelay]
        show Option.map _ (ended.add? delay) = none
        rw [hleaves, Option.map_none]
      exact ⟨s, u, ends_dispatch_breaks h hreading hunsettled⟩

/-- To schedule a key for the moment never fails. -/
theorem ends_enqueue_zero {now : Time.Instant} {v : World} (hreading : Act.Ends Act.now w now v) :
    Ends (enqueue key .zero) s w (.ok ()) (s.enqueueAt key now) v := by
  apply ends_act_bind.mpr
  refine ⟨now, v, hreading, ?_⟩
  rw [Time.Instant.add?_zero]
  exact ends_change.mpr ⟨rfl, rfl, rfl⟩

/-- The declaration that a reconcile reads was last synced so late that the guard window ends
outside the calendar. -/
def LateWatermark (access : Cluster.Access) (key : ObjectKey) (w : World) : Prop :=
  ∃ d v t, Act.Ends (Cluster.Declarations.fetch access key).run w (.ok d) v ∧
    d.status.lastSync = some t ∧ Time.OutsideCalendar t 1

/-- A reconcile asks for the next run, which would be due outside the calendar. -/
def LateRequeue (c : Settings) (refresh : Int) (key : ObjectKey) (w : World) : Prop :=
  ∃ result v ended u, Act.Ends (c.reconcile key).run w (.ok result) v ∧
    result.outcome ≠ .notFound ∧ result.outcome ≠ .skippedEcho ∧
    Act.Ends (noteResult c key result) v ended u ∧ Time.OutsideCalendar ended refresh

private theorem reconcile_leaves_iff_lateWatermark {sync : Sync.Settings}
    (hguard : sync.guardWindow = Sync.guardWindow) :
    (∃ v, Act.Ends (Sync.reconcile sync key).run w (.error .leavesCalendar) v) ↔
      LateWatermark sync.access key w := by
  rw [Sync.reconcile_leaves_iff]
  unfold LateWatermark
  simp only [hguard, Sync.guardWindow, Time.Instant.add?_eq_none_iff]

/-- With a refresh interval of whole seconds, the next run would be due outside the calendar exactly
if so many seconds lead out of it. -/
theorem requeuesOutside_iff_lateRequeue {sync : Sync.Settings} {refresh : Int}
    (hreconcile : c.reconcile = Sync.reconcile sync)
    (hrefresh : sync.refresh = .ofSeconds refresh) :
    RequeuesOutside c key w ↔ LateRequeue c refresh key w := by
  have hrequeue {result : Sync.Result} {v : World}
      (hends : Act.Ends (c.reconcile key).run w (.ok result) v) : result.requeueAfter =
        if result.outcome = .notFound ∨ result.outcome = .skippedEcho then none
        else some sync.refresh := by
    rw [hreconcile] at hends
    rcases Sync.reconcile_ends hends with ⟨ms, hreconciled⟩
    exact (Sync.reconciled_accounted hreconciled).requeue
  constructor
  · rintro ⟨result, delay, ended, v, u, hends, hreading, hdelay, hleaves⟩
    rw [hrequeue hends] at hdelay
    split at hdelay
    · cases hdelay
    · next hasks =>
      cases hdelay
      rw [hrefresh, Time.Instant.add?_eq_none_iff] at hleaves
      rw [not_or] at hasks
      exact ⟨result, v, ended, u, hends, hasks.1, hasks.2, hreading, hleaves⟩
  · rintro ⟨result, v, ended, u, hends, hfound, hreal, hreading, hleaves⟩
    have hdelay := hrequeue hends
    rw [if_neg (not_or.mpr ⟨hfound, hreal⟩)] at hdelay
    rw [← Time.Instant.add?_eq_none_iff, ← hrefresh] at hleaves
    exact ⟨result, sync.refresh, ended, v, u, hends, hreading, hdelay, hleaves⟩

/-- For all settings of the operator, every declaration and every clock:

* nothing can be reconciled exactly if the refresh interval is no span of time;
* else a run leaves the calendar exactly if the guard window behind the watermark does, or the next
  run would be due outside of it.

To schedule a key for the moment never fails. -/
theorem dates_overflow_iff (settings : Config.OperatorSettings) (client : Cluster.Client)
    (c : Settings) (key : ObjectKey) (s : Schedule) (w : World) :
    (match Cli.syncSettings settings client with
      | .error _ => ¬ Time.IsSpan settings.refreshInterval
      | .ok sync => Time.IsSpan settings.refreshInterval ∧
        ((∃ v, Act.Ends (Sync.reconcile sync key).run w (.error .leavesCalendar) v) ↔
          LateWatermark client.access key w) ∧
        ((∃ s' w', Ends (dispatch { c with reconcile := Sync.reconcile sync } key) s w
            (.error .leavesCalendar) s' w') ↔
          LateWatermark client.access key w ∨ LateRequeue
            { c with reconcile := Sync.reconcile sync } settings.refreshInterval key w)) ∧
    ∃ s' w', Ends (enqueue key .zero) s w (.ok ()) s' w' := by
  constructor
  · rcases Time.Duration.ofSeconds?_cases settings.refreshInterval with
      ⟨hspan, hrefresh⟩ | ⟨hspan, fault, hrefresh⟩
    · have hsync : Cli.syncSettings settings client = .ok ⟨client.access, settings.vault.endpoints,
          settings.vault.statePath, .ofSeconds settings.refreshInterval, Sync.guardWindow⟩ := by
        rw [Cli.syncSettings, hrefresh]
        rfl
      rw [hsync]
      refine ⟨hspan, reconcile_leaves_iff_lateWatermark rfl, ?_⟩
      rw [dispatch_leaves_iff]
      exact or_congr (reconcile_leaves_iff_lateWatermark rfl)
        (requeuesOutside_iff_lateRequeue rfl rfl)
    · have hsync : Cli.syncSettings settings client = .error fault := by
        rw [Cli.syncSettings, hrefresh]
        rfl
      rw [hsync]
      exact hspan
  · exact ⟨_, _, ends_enqueue_zero (Act.ends_self Act.now w)⟩

namespace Sample

/-- Half a second before the end of the calendar. -/
def lastMoment : Time.Instant := ⟨315537897599500000, by decide⟩

/-- Settings with a refresh interval. -/
def refreshed (refresh : Int) : Config.OperatorSettings :=
  ⟨refresh, Config.VaultSettings.default, Config.ClusterSettings.default⟩

/-- A client of a cluster in which the settings are of no matter. -/
def client : Cluster.Client := ⟨Config.ClusterSettings.default, "in-cluster", []⟩

/-- What is reconciled with under these settings. -/
def sync (refresh : Int) : Sync.Settings :=
  ⟨client.access, (refreshed refresh).vault.endpoints, (refreshed refresh).vault.statePath,
    .ofSeconds refresh, Sync.guardWindow⟩

/-- The controller that reconciles with them. -/
def refreshing (refresh : Int) : Settings :=
  { controller with reconcile := Sync.reconcile (sync refresh) }

/-- An environment without variables. -/
def environment : Config.Environment := ⟨[], some "/root", []⟩

/-- A file that sets the refresh interval. -/
def refreshFile (refresh : Int) : Yaml.Value :=
  .map [(.text "refresh_interval", .int refresh)]

end Sample

open Sync.Sample (noon morning session syncedWorld) in
set_option maxRecDepth 10000 in
/-- At noon of a day in May: a refresh interval that is accepted is no span of time; a declaration
that was last synced half a second before the end of the calendar is not reconciled; and under
another interval that is accepted, the run of a reconcile that went well is broken off. -/
theorem dates_overflow_at_noon :
    (∃ v fault, Act.Ends (Config.OperatorSettings.load Sample.environment
          (Sample.refreshFile 86400000000000)).run (World.atTime noon)
        (.ok (Sample.refreshed 86400000000000)) v ∧
      Cli.syncSettings (Sample.refreshed 86400000000000) Sample.client = .error fault) ∧
    (∃ v, Act.Ends (Sync.reconcile (Sample.sync 300) Sync.Sample.key).run
      (syncedWorld Sample.lastMoment (session .zero [])) (.error .leavesCalendar) v) ∧
    ∃ v, Act.Ends (Config.OperatorSettings.load Sample.environment
          (Sample.refreshFile 252000000000)).run (World.atTime noon)
        (.ok (Sample.refreshed 252000000000)) v ∧
      Cli.syncSettings (Sample.refreshed 252000000000) Sample.client =
        .ok (Sample.sync 252000000000) ∧
      ∃ s' w', Ends (dispatch (Sample.refreshing 252000000000) Sync.Sample.key) .empty
        (syncedWorld morning (session .zero [("a", "1")])) (.error .leavesCalendar) s' w' := by
  refine ⟨?_, ?_, ?_⟩
  · exact ⟨_, _, Act.ends_of_toOption (by decide +kernel), rfl⟩
  · apply Sync.reconcile_leaves_iff.mpr
    have hread : ((StateT.run (Cluster.Declarations.fetch (Sample.sync 300).access
        Sync.Sample.key).run (syncedWorld Sample.lastMoment (session .zero []))).1.toOption.map
          (·.status.lastSync)) = some (some Sample.lastMoment) := by decide +kernel
    rcases Option.map_eq_some_iff.mp hread with ⟨d, hfetched, hlast⟩
    exact ⟨d, _, _, Act.ends_of_toOption hfetched, hlast, rfl⟩
  · refine ⟨_, Act.ends_of_toOption (by decide +kernel), rfl, dispatch_leaves_iff.mpr ?_⟩
    have hends := Act.ends_of_toOption (by decide +kernel :
      (StateT.run (Sync.reconcile (Sample.sync 252000000000) Sync.Sample.key).run
        (syncedWorld morning (session .zero [("a", "1")]))).1.toOption =
          some ⟨.synced, some (.ofSeconds 252000000000), "Completed sync for default/app"⟩)
    have hlate : (StateT.run (noteResult (Sample.refreshing 252000000000) Sync.Sample.key
        ⟨.synced, some (.ofSeconds 252000000000), "Completed sync for default/app"⟩) (StateT.run
        (Sync.reconcile (Sample.sync 252000000000) Sync.Sample.key).run
        (syncedWorld morning (session .zero [("a", "1")]))).2).1.add? (.ofSeconds 252000000000) =
          none := by decide +kernel
    exact Or.inr ⟨_, _, _, _, _, hends, Act.ends_self _ _, rfl, hlate⟩

end Controller
end SecretSync

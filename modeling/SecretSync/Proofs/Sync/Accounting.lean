import SecretSync.Proofs.Declaration.Status
import SecretSync.Proofs.Sync.Indifference
import SecretSync.Proofs.Sync.Moments
import SecretSync.Proofs.Sync.Run
import SecretSync.Proofs.Vault.Account

/-!
# Every reconcile gives an account

A reconcile can fail to give a result in two ways only: the watermark is so late that the guard
window behind it leaves the calendar, or the vault answers a value with a half of a surrogate pair
in it, which cannot be encoded.  Each result tells whether and when the next run is due, and the
attempts among them are recorded by one status request that tells the same as the result.  Whether
the cluster accepts that request is of no consequence for the result.
-/

namespace SecretSync.Sync

open Act World

/-- The type of the condition that records an outcome. -/
def Outcome.conditionType? : Outcome → Option ConditionType
  | .failed => some .failedSync
  | .synced => some .successfulSync
  | .noChanges => some .successfulSync
  | _ => none

/-- A result and the moments of its reconcile agree: another run is due after the refresh interval
unless there is nothing to wait for, and a result is recorded once if it is recorded at all. -/
structure Accounted (settings : Settings) (result : Result) (ms : List Moment) : Prop where
  requeue : result.requeueAfter =
    if result.outcome = .notFound ∨ result.outcome = .skippedEcho then none
    else some settings.refresh
  silent : result.outcome.conditionType? = none → ms.filterMap Moment.status? = []
  recorded : ∀ type, result.outcome.conditionType? = some type →
    ∃ (s : Status) (c : Condition),
      ms.filterMap Moment.status? = [.obj [("status", s.toJson)]] ∧
        s.condition? type.name = some c ∧ c.message = result.message

variable {w w' : World} {settings : Settings} {key : ObjectKey} {d : Declaration}

/-! ### Accounts -/

private theorem filterMap_status?_eq_nil {ms : List Moment} (h : ∀ m ∈ ms, m.status? = none) :
    ms.filterMap Moment.status? = [] := List.filterMap_eq_nil_iff.mpr h

private theorem conditionType?_reported (ending : Except Failure Progress) :
    (reported settings key ending).outcome.conditionType? =
      some (match ending with | .error _ => .failedSync | .ok _ => .successfulSync) := by
  cases ending with
  | error failure => rfl
  | ok progress => cases progress <;> rfl

/-- A reported attempt asks for the next one and counts as neither gone nor an echo. -/
theorem requeueAfter_reported (ending : Except Failure Progress) :
    (reported settings key ending).requeueAfter = some settings.refresh ∧
      (reported settings key ending).outcome ≠ .notFound ∧
      (reported settings key ending).outcome ≠ .skippedEcho := by
  cases ending with
  | error failure => exact ⟨rfl, nofun, nofun⟩
  | ok progress => cases progress <;> exact ⟨rfl, nofun, nofun⟩

/-- The recorded status tells what is reported. -/
theorem condition?_recorded (ending : Except Failure Progress) (now : Time.Instant)
    {type : ConditionType}
    (htype : (reported settings key ending).outcome.conditionType? = some type) :
    ∃ c, (recorded key d ending now).status.condition? type.name = some c ∧
      c.message = (reported settings key ending).message := by
  rw [conditionType?_reported] at htype
  cases htype
  cases ending with
  | error failure =>
    obtain ⟨c, hfind, htold⟩ := Report.find?_record
      ⟨.failedSync, false, .failed, failure.message, now, d.generation⟩ d.status.conditions
    exact ⟨c, hfind, htold.message⟩
  | ok progress =>
    obtain ⟨c, hfind, htold⟩ := Report.find?_record
      ⟨.successfulSync, true, .complete, progress.message key, now, d.generation⟩
      d.status.conditions
    exact ⟨c, hfind, htold.message⟩

/-- Each way in which a reconcile ends with a result gives an account. -/
theorem reconciled_accounted {ms : List Moment} {result : Result}
    (h : Reconciled settings key w ms (.ok result) w') : Accounted settings result ms := by
  cases h with
  | unread passage outcome requeue asked =>
    obtain ⟨t, rfl⟩ := asked
    have hsilent : result.outcome.conditionType? = none ∧ result.outcome ≠ .skippedEcho := by
      rcases outcome with ho | ho <;> rw [ho] <;> exact ⟨rfl, nofun⟩
    refine ⟨?_, fun _ => rfl, fun type htype => nomatch hsilent.1.symm.trans htype⟩
    simp only [requeue, hsilent.2, or_false]
  | echo found inside =>
    exact ⟨rfl, fun _ => filterMap_status?_eq_nil (fun m hm => (found.idle m hm).2), nofun⟩
  | @attempted v u _ msFound msTried _ d now ending found behind tried record =>
    obtain ⟨hrequeue, hread, hecho⟩ := @requeueAfter_reported settings key ending
    obtain ⟨now, sent, rfl⟩ := record.moments
    refine ⟨?_, fun hnone => ?_, fun type htype => ?_⟩
    · rw [hrequeue, if_neg (not_or.mpr ⟨hread, hecho⟩)]
    · cases (conditionType?_reported ending).symm.trans hnone
    · obtain ⟨c, hfind, hmessage⟩ := @condition?_recorded settings key d ending now type htype
      refine ⟨(Sync.recorded key d ending now).status, c, ?_, hfind, hmessage⟩
      rw [List.filterMap_append, List.filterMap_append,
        filterMap_status?_eq_nil (fun m hm => (found.idle m hm).2),
        filterMap_status?_eq_nil (fun m hm => (tried.inAttempt m hm).status?_eq_none)]
      rfl

/-! ### Results -/

/-- Within the calendar only a value that cannot be encoded leaves a reconcile without a result. -/
theorem reconcile_error {e : Escape}
    (representable : ∀ object d t, w.interlude.declarations.get? key = some object →
      Declaration.ofObject object = .ok d → d.status.lastSync = some t →
      (t.add? settings.guardWindow).isSome)
    (h : Ends (reconcile settings key).run w (.error e) w') : ∃ error, e = .value error := by
  obtain ⟨_, _, hresult, -⟩ | ⟨object, d, _, now, v, hobject, hd, -, hgoes⟩ := reconcile_reads h
  · cases hresult
  · split at hgoes
    · next hecho =>
      obtain ⟨t, hlast⟩ : ∃ t, d.status.lastSync = some t := by
        cases hlast : d.status.lastSync with
        | none =>
          rw [hlast] at hecho
          cases hecho
        | some t => exact ⟨t, rfl⟩
      rw [hlast] at hecho
      have hsome := representable object d t hobject hd hlast
      rw [Option.map_eq_none_iff.mp hecho] at hsome
      cases hsome
    · cases hgoes.1
    · obtain ⟨_, _, _, _, -, -, hresult⟩ | ⟨error, _, -, hresult⟩ := hgoes
      · cases hresult
      · cases hresult
        exact ⟨error, rfl⟩

/-- A reconcile that breaks off over a value has asked for changes and was told one that cannot be
encoded; it writes no status. -/
theorem reconciled_garbled {ms : List Moment} {error : Text.Utf8.EncodeError}
    (h : Reconciled settings key w ms (.error (.value error)) w') :
    w.session.sync.Garbles ∧ (∃ m ∈ ms, m.pull?.isSome = true) ∧
      ms.filterMap Moment.status? = [] := by
  cases h with
  | garbled found behind broken =>
    refine ⟨?_, ?_, filterMap_status?_eq_nil (List.forall_mem_append.mpr ⟨?_, ?_⟩)⟩
    · rw [← Vault.Session.garbled?_ne_none_iff, ← found.session, broken.told]
      exact nofun
    · obtain ⟨m, hm, hasks⟩ := broken.asked
      exact ⟨m, List.mem_append_right _ hm, hasks⟩
    · exact fun m hm => (found.idle m hm).2
    · exact fun m hm => (broken.inAttempt m hm).status?_eq_none

/-- A reconcile with a result that has asked for changes was told none that cannot be encoded. -/
theorem reconciled_clean {ms : List Moment} {result : Result}
    (h : Reconciled settings key w ms (.ok result) w') (asked : ∃ m ∈ ms, m.pull?.isSome = true) :
    ¬ w.session.sync.Garbles := by
  have hidle {ms' : List Moment} {d : Declaration} {now : Time.Instant} {v : World}
      (found : Found settings key w ms' d now v) : ∀ m ∈ ms', ¬ m.pull?.isSome = true := by
    intro m hm hasks
    rw [(found.idle m hm).1] at hasks
    cases hasks
  obtain ⟨m, hm, hasks⟩ := asked
  cases h with
  | unread passage outcome requeue unfinished =>
    obtain ⟨t, rfl⟩ := unfinished
    obtain rfl := List.mem_singleton.mp hm
    cases hasks
  | echo found inside => exact absurd hasks (hidle found m hm)
  | attempted found behind tried record =>
    obtain ⟨now, sent, rfl⟩ := record.moments
    rw [← Vault.Session.garbled?_ne_none_iff, ← found.session]
    refine not_not_intro ?_
    obtain hm | hm := List.mem_append.mp hm
    · exact absurd hasks (hidle found m hm)
    · obtain hm | hm := List.mem_append.mp hm
      · exact tried.clean ⟨m, hm, hasks⟩
      · obtain rfl | hm := List.mem_cons.mp hm
        · cases hasks
        · obtain rfl := List.mem_singleton.mp hm
          cases hasks

/-! ### Faults of the status request -/

private theorem reportUnread_respects {api : Api} (e : ClusterError) :
    Respects (SameButFaults api) (reportUnread settings key e) := by
  unfold reportUnread
  split <;> exact (steady_sameButFaults.log_respects _ _ _).bind (fun _ => respects_pure _)

/-- How an attempt is reported does not depend on how the request to record it goes. -/
theorem attemptAndRecord_agrees :
    Agrees (SameButFaults .patchStatus) (attemptAndRecord settings key d).run := by
  refine (steady_sameButFaults.log_respects _ _ _).run_lift_bind_agrees (fun _ => ?_)
  refine (attempt_respects (by decide) (by decide) (by decide)).run_lift_bind_agrees
    (fun ending => ?_)
  split
  · next failure =>
    exact (agrees_of_const (reported settings key (.error failure))
      (fun _ _ _ h => (recordFailure_ends h).1)).run_lift
  · exact (respects_run_throw _).agrees
  · next progress =>
    exact (agrees_of_const (reported settings key (.ok progress))
      (fun _ _ _ h => (recordProgress_ends h).1)).run_lift

/-- Faults of the status request do not change how a reconcile ends. -/
theorem reconcile_agrees :
    Agrees (SameButFaults .patchStatus) (reconcile settings key).run := by
  refine (Cluster.Declarations.fetch_respects (by decide) key).run_lift_bind_agrees
    (fun answer => ?_)
  cases answer with
  | error e => exact (reportUnread_respects e).agrees.run_lift
  | ok d =>
    refine steady_sameButFaults.now_respects.run_lift_bind_agrees (fun now => ?_)
    split
    · exact (respects_run_throw _).agrees
    · exact ((steady_sameButFaults.log_respects _ _ _).run_lift_bind
        (fun _ => respects_run_pure _)).agrees
    · exact attemptAndRecord_agrees

/-- The sample declaration was last synced an hour ago, and the cluster refuses to write its
status. -/
def Sample.refusedStatus : World :=
  (Sample.syncedWorld Sample.morning (Sample.session .zero [("a", "1")])).withFaults
    (Dict.ofList [(.patchStatus, [some (.refused (some 500) (some "Internal"))])])

/-- The guard window behind the stored watermark of the sample declaration lies in the calendar. -/
theorem sample_representable (next : Vault.Session) (object : Json) (d : Declaration)
    (t : Time.Instant)
    (hobject : (Sample.syncedWorld Sample.morning next).interlude.declarations.get? Sample.key =
      some object)
    (hd : Declaration.ofObject object = .ok d) (hlast : d.status.lastSync = some t) :
    (t.add? Sample.settings.guardWindow).isSome := by
  have hread : (Declaration.ofObject object).toOption.map (·.status.lastSync) =
      some (some Sample.morning) := by
    cases hobject
    decide +kernel
  rw [hd] at hread
  cases hlast.symm.trans (Option.some.inj hread)
  decide +kernel

end SecretSync.Sync

import SecretSync.Proofs.Sync.Attempt
import SecretSync.Sync.Reconcile

/-!
# What a reconcile can do

A reconcile that does not find a declaration, or takes it for an echo, changes nothing.  Otherwise
it makes one attempt and then one request to record in the status how the attempt ended, unless a
value that was pulled cannot be encoded.  `Reconciled` lists these ways, and `reconcile_ends` says
that there are no others.
-/

namespace SecretSync.Sync

open Act

/-- A declaration was read, and then the clock. -/
inductive Found (settings : Settings) (key : ObjectKey) (w : World) :
    List Moment → Declaration → Time.Instant → World → Prop
  | mk {v w' : World} {object : Json} {d : Declaration} (asked now : Time.Instant)
    (passage : Passage w [.call (.getDeclaration key settings.access.timeout) asked] v)
    (stored : v.declarations.get? key = some object)
    (holds : Declaration.ofObject object = .ok d)
    (after : Passage v [.reading now] w') :
    Found settings key w
      [.call (.getDeclaration key settings.access.timeout) asked, .reading now] d now w'

/-- The clock was read, and the status of a declaration was written as of that time, or the request
was refused. -/
inductive Recorded (settings : Settings) (record : Time.Instant → Declaration) (w : World) :
    List Moment → World → Prop
  | refused {w' : World} (now sent : Time.Instant)
    (passage : Passage w [.reading now, .call (.patchStatus (record now).key
      (Cluster.Declarations.statusBody (record now)) settings.access.timeout) sent] w') :
    Recorded settings record w [.reading now, .call (.patchStatus (record now).key
      (Cluster.Declarations.statusBody (record now)) settings.access.timeout) sent] w'
  | written {v w' : World} {old : Json} (now sent : Time.Instant)
    (passage : Passage w [.reading now, .call (.patchStatus (record now).key
      (Cluster.Declarations.statusBody (record now)) settings.access.timeout) sent] v)
    (stored : v.declarations.get? (record now).key = some old)
    (after : Passage (v.withDeclaration (record now).key (Cluster.patched old
      (Cluster.Declarations.statusBody (record now)) v.newVersion)) [] w') :
    Recorded settings record w [.reading now, .call (.patchStatus (record now).key
      (Cluster.Declarations.statusBody (record now)) settings.access.timeout) sent] w'

/-- The declaration with the ending of an attempt recorded. -/
def recorded (key : ObjectKey) (d : Declaration) (ending : Except Failure Progress)
    (now : Time.Instant) : Declaration :=
  match ending with
  | .error failure => d.setCondition .failedSync false .failed failure.message now
  | .ok progress => completed d (progress.message key) now

/-- The report on the ending of an attempt. -/
def reported (settings : Settings) (key : ObjectKey) (ending : Except Failure Progress) : Result :=
  match ending with
  | .error failure => ⟨.failed, some settings.refresh, failure.message⟩
  | .ok progress => ⟨progress.outcome, some settings.refresh, progress.message key⟩

/-- The ways in which a reconcile ends. -/
inductive Reconciled (settings : Settings) (key : ObjectKey) (w : World) :
    List Moment → Except Escape Result → World → Prop
  | unread {w' : World} {ms : List Moment} {result : Result} (passage : Passage w ms w')
    (outcome : result.outcome = .notFound ∨ result.outcome = .lookupFailed)
    (requeue : result.requeueAfter =
      if result.outcome = .notFound then none else some settings.refresh)
    (asked : ∃ t, ms = [.call (.getDeclaration key settings.access.timeout) t]) :
    Reconciled settings key w ms (.ok result) w'
  | overflow {w' : World} {ms : List Moment} {d : Declaration} {now : Time.Instant}
    (found : Found settings key w ms d now w')
    (outside : isEcho? d.status.lastSync now settings.guardWindow = none) :
    Reconciled settings key w ms (.error .leavesCalendar) w'
  | echo {w' : World} {ms : List Moment} {d : Declaration} {now : Time.Instant}
    (found : Found settings key w ms d now w')
    (inside : isEcho? d.status.lastSync now settings.guardWindow = some true) :
    Reconciled settings key w ms (.ok ⟨.skippedEcho, none, ""⟩) w'
  | garbled {v w' : World} {ms ms' : List Moment} {d : Declaration} {now : Time.Instant}
    {e : Text.Utf8.EncodeError} (found : Found settings key w ms d now v)
    (behind : isEcho? d.status.lastSync now settings.guardWindow = some false)
    (broken : Garbled settings key d v ms' e w') :
    Reconciled settings key w (ms ++ ms') (.error (.value e)) w'
  | attempted {v u w' : World} {ms ms' ms'' : List Moment} {d : Declaration} {now : Time.Instant}
    {ending : Except Failure Progress} (found : Found settings key w ms d now v)
    (behind : isEcho? d.status.lastSync now settings.guardWindow = some false)
    (tried : Attempted settings key d v ms' ending u)
    (record : Recorded settings (recorded key d ending) u ms'' w') :
    Reconciled settings key w (ms ++ (ms' ++ ms'')) (.ok (reported settings key ending)) w'

variable {w w' : World} {settings : Settings} {key : ObjectKey} {d : Declaration}

/-- Reading a declaration and the clock writes nothing. -/
theorem Found.toPassage {ms : List Moment} {now : Time.Instant}
    (h : Found settings key w ms d now w') : Passage w ms w' := by
  cases h with
  | mk asked now passage stored holds after => exact passage.trans after

/-- What only puts something on record may follow the reading of a declaration. -/
theorem Found.behind {ms : List Moment} {now : Time.Instant} {v : World}
    (h : Found settings key w ms d now v) (after : Passage v [] w') :
    Found settings key w ms d now w' := by
  cases h with
  | mk asked now passage stored holds reading =>
    exact .mk asked now passage stored holds (reading.trans after)

/-- Finding the declaration leaves the session. -/
theorem Found.session {ms : List Moment} {now : Time.Instant}
    (h : Found settings key w ms d now w') : w'.session = w.session := by
  cases h with
  | mk asked now passage stored holds after =>
    exact (after.session (List.forall_mem_singleton.mpr rfl)).trans
      (passage.session (List.forall_mem_singleton.mpr rfl))

/-- Recording the status adds just its moments to the history. -/
theorem Recorded.history {record : Time.Instant → Declaration} {ms : List Moment}
    (h : Recorded settings record w ms w') : w'.history = w.history ++ ms := by
  cases h with
  | refused now sent passage => exact passage.history
  | written now sent passage stored after =>
    rw [after.history, List.append_nil]
    exact passage.history

/-- The moments of a reconcile are added to the history. -/
theorem Reconciled.history {ms : List Moment} {ending : Except Escape Result}
    (h : Reconciled settings key w ms ending w') : w'.history = w.history ++ ms := by
  cases h with
  | unread passage outcome => exact passage.history
  | overflow found outside => exact found.toPassage.history
  | echo found inside => exact found.toPassage.history
  | garbled found behind broken =>
    rw [broken.toPassage.history, found.toPassage.history, List.append_assoc]
  | attempted found behind tried record =>
    rw [record.history, tried.history, found.toPassage.history, List.append_assoc,
      List.append_assoc]

private theorem log_ends {level : LogLevel} {event : String} {fields : List (String × Json)}
    {u : Unit} (h : Ends (Act.log level event fields) w u w') : Passage w [] w' := by
  cases ends_modify.mp h
  exact (Passage.refl w).logged _

/-- A declaration that cannot be read is reported without a further moment. -/
theorem reportUnread_ends {e : ClusterError} {result : Result}
    (h : Ends (reportUnread settings key e) w result w') :
    Passage w [] w' ∧ (result.outcome = .notFound ∨ result.outcome = .lookupFailed) ∧
      result.requeueAfter = if result.outcome = .notFound then none else some settings.refresh := by
  unfold reportUnread at h
  split at h
  · obtain ⟨_, _, hlog, h⟩ := ends_bind.mp h
    obtain ⟨rfl, rfl⟩ := ends_pure.mp h
    exact ⟨log_ends hlog, Or.inl rfl, rfl⟩
  · obtain ⟨_, _, hlog, h⟩ := ends_bind.mp h
    obtain ⟨rfl, rfl⟩ := ends_pure.mp h
    exact ⟨log_ends hlog, Or.inr rfl, rfl⟩

/-- The status is written as of a reading of the clock. -/
theorem writeStatus_ends (record : Time.Instant → Declaration) {v : World} {u : Unit}
    {now : Time.Instant} (hnow : Passage w [.reading now] v)
    (h : Ends (writeStatus settings key (record now)) v u w') :
    ∃ ms, Recorded settings record w ms w' := by
  obtain ⟨answer, x, hupdate, h⟩ := ends_bind.mp h
  have hlast : Passage x [] w' := by
    split at h
    · obtain ⟨-, rfl⟩ := ends_pure.mp h
      exact Passage.refl _
    · exact log_ends h
  obtain ⟨t, x', hpass, ⟨-, hafter⟩ | ⟨old, hold, hafter⟩⟩ :=
    Cluster.Declarations.updateStatus_ends hupdate
  · refine ⟨_, .refused now t ?_⟩
    have hall := (hnow.trans hpass).trans (hafter.trans hlast)
    rw [List.append_nil] at hall
    exact hall
  · exact ⟨_, .written now t (hnow.trans hpass) hold (hafter.trans hlast)⟩

/-- A failure is recorded, whatever becomes of the write. -/
theorem recordFailure_ends {failure : Failure} {result : Result}
    (h : Ends (recordFailure settings key d failure) w result w') :
    result = reported settings key (.error failure) ∧
      ∃ ms, Recorded settings (recorded key d (.error failure)) w ms w' := by
  obtain ⟨_, _, hlog, h⟩ := ends_bind.mp h
  obtain ⟨now, v, hnow, h⟩ := ends_bind.mp h
  obtain ⟨_, _, hwrite, h⟩ := ends_bind.mp h
  obtain ⟨rfl, rfl⟩ := ends_pure.mp h
  exact ⟨rfl, writeStatus_ends (recorded key d (.error failure))
    ((log_ends hlog).trans (now_ends hnow).1) hwrite⟩

/-- Progress is recorded, whatever becomes of the write. -/
theorem recordProgress_ends {progress : Progress} {result : Result}
    (h : Ends (recordProgress settings key d progress) w result w') :
    result = reported settings key (.ok progress) ∧
      ∃ ms, Recorded settings (recorded key d (.ok progress)) w ms w' := by
  obtain ⟨now, v, hnow, h⟩ := ends_bind.mp h
  obtain ⟨_, _, hlog, h⟩ := ends_bind.mp h
  obtain ⟨_, _, hwrite, h⟩ := ends_bind.mp h
  obtain ⟨rfl, rfl⟩ := ends_pure.mp h
  exact ⟨rfl, writeStatus_ends (recorded key d (.ok progress))
    ((now_ends hnow).1.trans (log_ends hlog)) hwrite⟩

private theorem attemptAndRecord_ends {r : Except Escape Result}
    (h : Ends (attemptAndRecord settings key d).run w r w') :
    ∃ v, Passage w [] v ∧
      ((∃ ending ms ms' u, Attempted settings key d v ms ending u ∧
        Recorded settings (recorded key d ending) u ms' w' ∧
        r = .ok (reported settings key ending)) ∨
      ∃ e ms, Garbled settings key d v ms e w' ∧ r = .error (.value e)) := by
  obtain ⟨_, v, hlog, h⟩ := ends_run_lift_bind.mp h
  obtain ⟨answer, u, htried, h⟩ := ends_run_lift_bind.mp h
  refine ⟨v, log_ends hlog, ?_⟩
  obtain ⟨ending, ms, rfl, hattempted⟩ | ⟨e, ms, rfl, hgarbled⟩ := attempt_ends htried
  · refine Or.inl ⟨ending, ms, ?_⟩
    cases ending with
    | error failure =>
      obtain ⟨result, hrecord, rfl⟩ := ends_run_lift.mp h
      obtain ⟨rfl, ms', hrecorded⟩ := recordFailure_ends hrecord
      exact ⟨ms', u, hattempted, hrecorded, rfl⟩
    | ok progress =>
      obtain ⟨result, hrecord, rfl⟩ := ends_run_lift.mp h
      obtain ⟨rfl, ms', hrecorded⟩ := recordProgress_ends hrecord
      exact ⟨ms', u, hattempted, hrecorded, rfl⟩
  · obtain ⟨rfl, rfl⟩ := ends_run_throw.mp h
    exact Or.inr ⟨e, ms, hgarbled, rfl⟩

/-- A reconcile reads no declaration, or goes on with the one that others have left: it leaves the
calendar, skips an echo, or attempts and records, or breaks off over a value that cannot be
encoded. -/
theorem reconcile_reads {r : Except Escape Result}
    (h : Ends (reconcile settings key).run w r w') :
    (∃ asked result, r = .ok result ∧
      Passage w [.call (.getDeclaration key settings.access.timeout) asked] w' ∧
      (result.outcome = .notFound ∨ result.outcome = .lookupFailed) ∧
      result.requeueAfter = if result.outcome = .notFound then none else some settings.refresh) ∨
    ∃ object d asked now v, w.interlude.declarations.get? key = some object ∧
      Declaration.ofObject object = .ok d ∧
      Found settings key w [.call (.getDeclaration key settings.access.timeout) asked,
        .reading now] d now v ∧
      match isEcho? d.status.lastSync now settings.guardWindow with
      | none => r = .error .leavesCalendar ∧ w' = v
      | some true => r = .ok ⟨.skippedEcho, none, ""⟩ ∧ w' = v
      | some false =>
        (∃ ending ms ms' u, Attempted settings key d v ms ending u ∧
          Recorded settings (recorded key d ending) u ms' w' ∧
          r = .ok (reported settings key ending)) ∨
        ∃ e ms, Garbled settings key d v ms e w' ∧ r = .error (.value e) := by
  obtain ⟨answer, v, hfetch, h⟩ := ends_run_lift_bind.mp h
  obtain ⟨⟨t, hpass⟩, hstored⟩ := Cluster.Declarations.fetch_ends hfetch
  cases answer with
  | error e =>
    obtain ⟨result, hreport, rfl⟩ := ends_run_lift.mp h
    obtain ⟨hlast, houtcome, hrequeue⟩ := reportUnread_ends hreport
    exact Or.inl ⟨t, result, rfl, hpass.trans hlast, houtcome, hrequeue⟩
  | ok d =>
    obtain ⟨object, hobject, hd⟩ := hstored d rfl
    obtain ⟨left, hleft, hd'⟩ := Cluster.Declarations.fetch_reads hfetch
    obtain ⟨now, u, hnow, hrest⟩ := ends_run_lift_bind.mp h
    obtain ⟨hreading, -⟩ := now_ends hnow
    have hfound : Found settings key w _ d now u := .mk t now hpass hobject hd hreading
    cases hecho : isEcho? d.status.lastSync now settings.guardWindow with
    | none =>
      rw [hecho] at hrest
      obtain ⟨rfl, rfl⟩ := ends_run_throw.mp hrest
      refine Or.inr ⟨left, d, t, now, _, hleft, hd', hfound, ?_⟩
      rw [hecho]
      exact ⟨rfl, rfl⟩
    | some inside =>
      rw [hecho] at hrest
      cases inside with
      | true =>
        obtain ⟨_, _, hlog, hrest⟩ := ends_run_lift_bind.mp hrest
        obtain ⟨rfl, rfl⟩ := ends_run_pure.mp hrest
        refine Or.inr ⟨left, d, t, now, _, hleft, hd', hfound.behind (log_ends hlog), ?_⟩
        rw [hecho]
        exact ⟨rfl, rfl⟩
      | false =>
        obtain ⟨v', hlog, hgoes⟩ := attemptAndRecord_ends hrest
        have hfound' : Found settings key w _ d now v' :=
          .mk t now hpass hobject hd (hreading.trans hlog)
        refine Or.inr ⟨left, d, t, now, v', hleft, hd', hfound', ?_⟩
        rw [hecho]
        exact hgoes

/-- A reconcile ends in one of the ways of `Reconciled`. -/
theorem reconcile_ends {r : Except Escape Result}
    (h : Ends (reconcile settings key).run w r w') :
    ∃ ms, Reconciled settings key w ms r w' := by
  obtain ⟨asked, result, rfl, hpass, houtcome, hrequeue⟩ |
    ⟨object, d, asked, now, v, -, -, hfound, hgoes⟩ := reconcile_reads h
  · exact ⟨_, .unread hpass houtcome hrequeue ⟨asked, rfl⟩⟩
  · split at hgoes
    · next hecho =>
      obtain ⟨rfl, rfl⟩ := hgoes
      exact ⟨_, .overflow hfound hecho⟩
    · next hecho =>
      obtain ⟨rfl, rfl⟩ := hgoes
      exact ⟨_, .echo hfound hecho⟩
    · next hecho =>
      obtain ⟨ending, ms, ms', u, htried, hrecorded, rfl⟩ | ⟨e, ms, hbroken, rfl⟩ := hgoes
      · exact ⟨_, .attempted hfound hecho htried hrecorded⟩
      · exact ⟨_, .garbled hfound hecho hbroken⟩

end SecretSync.Sync

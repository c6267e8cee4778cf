import SecretSync.Proofs.Controller.Polling
import SecretSync.Proofs.Controller.Steps

/-!
# Stopping the controller

A request to stop can come before a run of the controller, from others while it reconciles, waits or
reads the clock, and over an open watch.  Once it is there it stays, and no move that looks for it
first is made any more: no window begins, no key is run and no watch is timed.  A watch that has
been timed is still opened, at most one event that is on its way is still handled, what is due stays
due, and the run comes to its end. -/

namespace SecretSync.Controller

open Cluster.Declarations (openWatch_takes)

variable {c : Settings} {settings : Sync.Settings} {x y z : State} {m : Move}
  {ms before after : List Move} {key : ObjectKey} {s s' t : Schedule} {w w' v : World} {n : Nat}

/-! ### Moves behind the request -/

/-- Whether a move is made only if the request to stop is looked for and not there. -/
def Move.guarded : Move → Bool
  | .began | .ran _ _ _ | .broken _ _ | .timed _ | .continued => true
  | _ => false

/-- A guarded move goes only while no stop is asked for. -/
theorem Step.going (step : Step c x m y) (guarded : m.guarded = true) :
    x.world.stopRequested = false := by
  cases step with
  | began going | ran _ going | broken _ going | timed going | continued going => exact going
  | _ => cases guarded

/-- Behind a request to stop no move is made that looks for it first. -/
theorem Path.unguarded (hreconcile : c.reconcile = Sync.reconcile settings)
    (path : Path c x ms y) (stopped : x.world.stopRequested = true) :
    ∀ m ∈ ms, m.guarded = false := by
  induction path with
  | none => exact List.forall_mem_nil _
  | cons first _ ih =>
    refine List.forall_mem_cons.mpr ⟨Bool.eq_false_iff.mpr (fun hguarded => ?_), ?_⟩
    · cases (first.going hguarded).symm.trans stopped
    · exact ih ((first.asks hreconcile).stays stopped)

/-- Whether an event is handled in a move. -/
def Move.handles : Move → Bool
  | .handled _ _ => true
  | _ => false

/-- Whether a watch is opened in a move. -/
def Move.opens : Move → Bool
  | .opened _ _ => true
  | _ => false

/-- How many watches can be opened from a point on without looking for the request to stop. -/
def Point.pending : Point → Nat
  | timed _ => 1
  | _ => 0

/-- How many events can be handled from a point on without looking for the request to stop. -/
def Point.allowance : Point → Nat
  | timed _ | watching _ => 1
  | _ => 0

/-- What every move takes from what is left at its point bounds how often it is made. -/
theorem Path.countP_le {counted : Move → Bool} {left : Point → Nat}
    (spends : ∀ {x m y}, Step c x m y → m.guarded = false →
      (if counted m then 1 else 0) + left y.point ≤ left x.point)
    (path : Path c x ms y) (unguarded : ∀ m ∈ ms, m.guarded = false) :
    ms.countP counted ≤ left x.point := by
  induction path with
  | none => exact Nat.zero_le _
  | cons first _ ih =>
    obtain ⟨hfirst, hrest⟩ := List.forall_mem_cons.mp unguarded
    have hlater := ih hrest
    have hstep := spends first hfirst
    rw [List.countP_cons]
    omega

/-- To time a watch takes a look for the request to stop. -/
theorem Step.pending (step : Step c x m y) (unguarded : m.guarded = false) :
    (if m.opens then 1 else 0) + y.point.pending ≤ x.point.pending := by
  cases step with
  | began | ran | broken | timed | continued => cases unguarded
  | looked => exact Nat.le_of_eq (Nat.zero_add _)
  | _ => simp [Move.opens, Point.pending]

/-- To come to a stream takes such a look too, and an event leads away from it. -/
theorem Step.allowance (step : Step c x m y) (unguarded : m.guarded = false) :
    (if m.handles then 1 else 0) + y.point.allowance ≤ x.point.allowance := by
  cases step with
  | began | ran | broken | timed | continued => cases unguarded
  | looked => exact Nat.le_of_eq (Nat.zero_add _)
  | _ => simp [Move.handles, Point.allowance]

/-- Of what is due nothing is run without a look for the request to stop, and only an event that
tells of a removal takes a key off. -/
theorem Move.keeps_due {h : Happening} (unguarded : m.guarded = false) (hh : h ∈ m.happenings)
    (kept : ∀ type d, m = .handled type d → type.text? = some "DELETED" → d.key ≠ key) :
    ¬ h.Runs key ∧ ¬ h.Removes key := by
  cases m with
  | listed ds version =>
    obtain hlisted | hcursor := List.mem_append.mp hh
    · obtain ⟨d, -, rfl⟩ := List.mem_map.mp hlisted
      exact ⟨id, id⟩
    · cases List.mem_singleton.mp hcursor
      exact ⟨id, id⟩
  | handled type d =>
    cases List.mem_singleton.mp hh
    exact ⟨id, fun ⟨hdeleted, hkey⟩ => kept type d rfl hdeleted hkey⟩
  | expired =>
    cases List.mem_singleton.mp hh
    exact ⟨id, id⟩
  | ran => cases unguarded
  | _ => cases hh

/-- What a row of moves does that begins when a request to stop is there, at a point and with a
schedule, and that leads to another schedule. -/
structure Honours (p : Point) (s : Schedule) (ms : List Move) (s' : Schedule) : Prop where
  /-- No window begins, no key is run and no watch is timed; no further event is waited for. -/
  unstarted : ∀ m ∈ ms, m.guarded = false
  /-- No watch is opened but one that has been timed. -/
  unopened : ms.countP Move.opens ≤ p.pending
  once : ms.countP Move.handles ≤ 1
  /-- What was due stays due, unless an event that is still handled tells that it is gone. -/
  kept : ∀ key time, s.due.get? key = some time → DueBy key time s' ∨
    ∃ type d, .handled type d ∈ ms ∧ type.text? = some "DELETED" ∧ d.key = key
  /-- Of a key that neither a list nor an event names all stays as it was. -/
  untold : ∀ key, (∀ m ∈ ms, ∀ h ∈ m.happenings, ¬ h.Concerns key) → SameAt key s s'

private theorem Path.honours (hreconcile : c.reconcile = Sync.reconcile settings)
    (path : Path c x ms y) (stopped : x.world.stopRequested = true) :
    Honours x.point x.schedule ms y.schedule := by
  have hunguarded := path.unguarded hreconcile stopped
  have hhappened : Happened x.schedule (ms.flatMap Move.happenings) y.schedule := by
    refine path.happened (fun m hm key e hbroken => ?_)
    subst hbroken
    cases hunguarded _ hm
  refine ⟨hunguarded, path.countP_le Step.pending hunguarded, ?_, fun key time hdue => ?_,
    fun key huntold => ?_⟩
  · have hallowed : x.point.allowance ≤ 1 := by
      cases x.point <;> simp [Point.allowance]
    exact Nat.le_trans (path.countP_le Step.allowance hunguarded) hallowed
  · by_cases hdeleted : ∃ type d, .handled type d ∈ ms ∧ type.text? = some "DELETED" ∧ d.key = key
    · exact Or.inr hdeleted
    · refine Or.inl (hhappened.dueBy ⟨time, hdue, Nat.le_refl _⟩ (fun h hh => ?_))
      obtain ⟨m, hm, hh⟩ := List.mem_flatMap.mp hh
      refine m.keeps_due (hunguarded m hm) hh (fun type d hhandled htype hkey => ?_)
      exact hdeleted ⟨type, d, hhandled ▸ hm, htype, hkey⟩
  · refine hhappened.sameAt (fun h hh => ?_)
    obtain ⟨m, hm, hh⟩ := List.mem_flatMap.mp hh
    exact huntold m hm h hh

/-- A move takes nothing off that is due but the key that is run in it, or that it tells to be
gone. -/
theorem Step.dueBy {time : Time.Instant} (step : Step c x m y)
    (hdue : x.schedule.due.get? key = some time) :
    DueBy key time y.schedule ∨ (∃ h ∈ m.happenings, h.Runs key ∨ h.Removes key) ∨
      ∃ e, m = .broken key e := by
  by_cases htaken : ∃ h ∈ m.happenings, h.Runs key ∨ h.Removes key
  · exact Or.inr (Or.inl htaken)
  by_cases hbroken : ∃ k e, m = .broken k e
  · obtain ⟨k, e, rfl⟩ := hbroken
    by_cases hkey : k = key
    · subst hkey
      exact Or.inr (Or.inr ⟨e, rfl⟩)
    · cases step
      refine Or.inl ⟨time, ?_, Nat.le_refl _⟩
      rw [Schedule.start, Dict.get?_erase, if_neg hkey, hdue]
  · have hwhole : ∀ k e, m ≠ .broken k e := fun k e heq => hbroken ⟨k, e, heq⟩
    refine Or.inl ((step.happened hwhole).dueBy ⟨time, hdue, Nat.le_refl _⟩ (fun h hh => ?_))
    exact not_or.mp (fun hboth => htaken ⟨h, hh, hboth⟩)

/-! ### The end of a run -/

/-- Whether a watch has been opened since the window began. -/
def Point.behindWatch : Point → Bool
  | fresh | opening | timed _ | raised _ => false
  | _ => true

/-- A window that began when so many watches waited has taken one, or has been asked to stop, once
it is behind its watch. -/
structure Progresses (n : Nat) (x : State) : Prop where
  idle : x.world.stopWhenIdle = true
  windows : x.world.windows.length ≤ n
  taken : x.point.behindWatch = true →
    x.world.windows.length < n ∨ x.world.stopRequested = true

/-- What leads behind a watch from behind a watch keeps the progress. -/
theorem Progresses.asks {calls : List Call} (progress : Progresses n x)
    (asks : x.world.Asks calls y.world)
    (behind : y.point.behindWatch = true → x.point.behindWatch = true) : Progresses n y where
  idle := asks.stopWhenIdle.trans progress.idle
  windows := Nat.le_trans asks.windows progress.windows
  taken hbehind :=
    (progress.taken (behind hbehind)).imp (Nat.lt_of_le_of_lt asks.windows) asks.stays

/-- A move keeps the progress that is made. -/
theorem Progresses.step (hreconcile : c.reconcile = Sync.reconcile settings)
    (progress : Progresses n x) (step : Step c x m y) : Progresses n y := by
  have hasks := step.asks hreconcile
  cases step with
  | opened opens =>
    refine ⟨hasks.stopWhenIdle.trans progress.idle, Nat.le_trans hasks.windows progress.windows,
      fun _ => (openWatch_takes opens progress.idle).imp_left (fun hfewer => ?_)⟩
    exact Nat.lt_of_lt_of_le hfewer progress.windows
  | halted here stopped => exact ⟨progress.idle, progress.windows, fun _ => Or.inr stopped⟩
  | _ => exact progress.asks hasks (by simp [Point.behindWatch])

private theorem Path.progresses (hreconcile : c.reconcile = Sync.reconcile settings)
    (path : Path c x ms y) (progress : Progresses n x) : Progresses n y := by
  induction path with
  | none => exact progress
  | cons first _ ih => exact ih (progress.step hreconcile first)

/-- Windows that end because no more are allowed have been asked to stop when every watch is taken
by then. -/
theorem runWindows_stopped (hreconcile : c.reconcile = Sync.reconcile settings)
    (idle : w.stopWhenIdle = true)
    (enough : w.windows.length < n ∨ w.stopRequested = true)
    (h : Ends (runWindows c n) s w (.ok ()) s' w') : w'.stopRequested = true := by
  induction n generalizing s w with
  | zero =>
    obtain ⟨-, -, rfl⟩ := ends_pure.mp h
    exact enough.resolve_left (Nat.not_lt_zero _)
  | succ n ih =>
    rw [runWindows, ends_stopRequested_bind] at h
    split at h
    · next hstopped =>
      obtain ⟨-, -, rfl⟩ := ends_pure.mp h
      exact hstopped
    · next hgoing =>
      have hlength := enough.resolve_right hgoing
      obtain ⟨e, -, he⟩ | ⟨_, t, u, hwindow, h⟩ := ends_bind.mp h
      · cases he
      obtain ⟨ms, hms⟩ := runWindow_path hwindow
      have hfresh : Progresses w.windows.length ⟨.fresh, s, w⟩ :=
        ⟨idle, Nat.le_refl _, by simp [Point.behindWatch]⟩
      have hdone := hms.progresses hreconcile hfresh
      refine ih hdone.idle ((hdone.taken rfl).imp_left (fun hfewer => ?_)) h
      exact Nat.lt_of_lt_of_le hfewer (Nat.le_of_lt_succ hlength)

/-- The world in which a run of the controller begins its windows. -/
def startedWorld (c : Settings) (w : World) : World :=
  let record : LogRecord := ⟨.info, "controller_started", [("namespace", .str c.scope)]⟩
  { w.logged record with stopWhenIdle := true }

/-- A run of the controller makes its windows between two log records. -/
theorem run_ends {r : Except Cluster.Escape Unit} (h : Ends (run c) s w r s' w') :
    ∃ v, Ends (runWindows c (w.windows.length + 1)) s (startedWorld c w) r s' v ∧
      w'.asked = v.asked ∧ w'.stopRequested = v.stopRequested := by
  obtain ⟨_, x, hlogged, h⟩ := ends_act_bind.mp h
  cases Act.ends_modify.mp hlogged
  obtain ⟨_, _, hget, h⟩ := ends_act_bind.mp h
  cases hget
  obtain ⟨_, _, hset, h⟩ := ends_act_bind.mp h
  cases hset
  obtain ⟨result, t, v, hwindows, h⟩ := ends_lift_run_bind.mp h
  obtain ⟨_, u, hidle, h⟩ := ends_act_bind.mp h
  cases Act.ends_modify.mp hidle
  cases result with
  | error e =>
    obtain ⟨rfl, rfl, rfl⟩ := ends_throw.mp h
    exact ⟨v, hwindows, rfl, rfl⟩
  | ok u =>
    obtain ⟨_, hlogged, rfl, rfl⟩ := ends_act.mp h
    cases Act.ends_modify.mp hlogged
    exact ⟨v, hwindows, rfl, rfl⟩

/-- The moves of a run of the controller, up to the world behind its last window, and what a request
to stop does to it. -/
structure StopsWhenAsked (c : Settings) (settings : Sync.Settings) (s : Schedule) (w : World)
    (ms : List Move) (v : World) (r : Except Cluster.Escape Unit) (s' : Schedule) (w' : World) :
    Prop where
  path : Path c ⟨.done, s, startedWorld c w⟩ ms ⟨Point.done.after r, s', v⟩
  /-- The moves account for all lists, watches and reconciles. -/
  asked : w'.asked = w.asked ++ ms.flatMap (Move.asks c settings)
  /-- A request that is there between two moves, before the first one or behind the last is honoured
  by all that follow. -/
  honours : ∀ before after x, ms = before ++ after →
    Path c ⟨.done, s, startedWorld c w⟩ before x →
    Path c x after ⟨Point.done.after r, s', v⟩ → x.world.stopRequested = true →
    Honours x.point x.schedule after s'
  /-- In whichever move a request comes, what is due before it and not run in it stays due. -/
  meanwhile : ∀ before m after x y, ms = before ++ m :: after →
    Path c ⟨.done, s, startedWorld c w⟩ before x → Step c x m y →
    Path c y after ⟨Point.done.after r, s', v⟩ →
    ∀ key time, x.schedule.due.get? key = some time → DueBy key time y.schedule ∨
      (∃ h ∈ m.happenings, h.Runs key ∨ h.Removes key) ∨ ∃ e, m = .broken key e
  /-- The run returns because it is asked to stop, or ends with the error of its last move. -/
  ends : r = .ok () ∧ w'.stopRequested = true ∨
    ∃ e before m, r = .error e ∧ ms = before ++ [m] ∧ m.error? = some e

/-- Every run of the controller comes to its end, whatever its schedule and the world, and at
whichever moment it is asked to stop, no window begins any more, no key is run, no watch is opened
but one that has been timed by then, at most one event is still handled, and what is due stays due
unless that event tells that it is gone. -/
theorem stop_honoured (hreconcile : c.reconcile = Sync.reconcile settings)
    (s : Schedule) (w : World) :
    ∃ r s' w' ms v, Ends (run c) s w r s' w' ∧ StopsWhenAsked c settings s w ms v r s' w' := by
  obtain ⟨r, s', w', h⟩ : ∃ r s' w', Ends (run c) s w r s' w' := ⟨_, _, _, rfl⟩
  obtain ⟨v, hwindows, hasked, hstopped⟩ := run_ends h
  obtain ⟨ms, hms⟩ := runWindows_path hwindows
  refine ⟨r, s', w', ms, v, h, hms, hasked.trans (hms.asks hreconcile).asked, ?_, ?_, ?_⟩
  · intro before after x _ _ hafter hthere
    exact hafter.honours hreconcile hthere
  · intro before m after x y _ _ step _ key time hdue
    exact step.dueBy hdue
  · cases r with
    | ok u =>
      refine Or.inl ⟨rfl, hstopped.trans ?_⟩
      exact runWindows_stopped hreconcile rfl (Or.inl (Nat.lt_succ_self _)) hwindows
    | error e =>
      obtain ⟨before, m, hbefore, hm⟩ := hms.raises nofun
      exact Or.inr ⟨e, before, m, rfl, hbefore, hm⟩

namespace Sample

/-- An event that tells of a declaration with a name. -/
def added (name : String) : WindowItem :=
  .event (.obj [("type", .str "ADDED"),
    ("object", (Sync.Sample.object []).setMember "metadata" (.obj [("name", .str name)]))])

/-- The world at noon, with a watch over which a request to stop comes ahead of two events, and with
another watch behind it. -/
def stoppingWorld : World :=
  { World.atTime Sync.Sample.noon with windows := [[.stop, added "a", added "b"], [added "c"]] }

/-- The controller run there. -/
def stoppedRun : (Except Cluster.Escape Unit × Schedule) × World :=
  StateT.run ((run controller).run.run .empty) stoppingWorld

end Sample

set_option maxRecDepth 10000 in
/-- Of the two events behind the request the first one is handled, and its key stays due; the second
watch is not opened. -/
theorem stop_honoured_over_watch :
    Sample.stoppedRun.1.1.toOption = some () ∧
    Sample.stoppedRun.1.2.due.entries = [(⟨"", "a"⟩, Sync.Sample.noon)] ∧
    Sample.stoppedRun.2.windows.length = 1 ∧
    ∃ r s' w' ms v, Ends (run Sample.controller) .empty Sample.stoppingWorld r s' w' ∧
      StopsWhenAsked Sample.controller Sync.Sample.settings .empty Sample.stoppingWorld ms v
        r s' w' :=
  ⟨by decide +kernel, by decide +kernel, by decide +kernel, stop_honoured rfl _ _⟩

namespace Sample

/-- Half a minute past noon. -/
def halfMinutePast : Time.Instant := ⟨63850161630000000, by decide⟩

/-- Twenty seconds to noon. -/
def shortlyBefore : Time.Instant := ⟨63850161580000000, by decide⟩

/-- A schedule with one key, behind a list. -/
def listed : Schedule :=
  { Schedule.empty.enqueueAt ⟨"", "a"⟩ halfMinutePast with cursor := .str "5" }

/-- The world at noon, with a watch over which an event comes, where others ask to stop when the
clock is read for the second time. -/
def stopAtReading : World :=
  { World.atTime Sync.Sample.noon with windows := [[added "a"]], others := [[], [.requestStop]] }

/-- The world at noon, with a watch over which the request to stop comes when the key is due; then
the clock is set back, and an event tells of the declaration. -/
def setBack : World :=
  { World.atTime Sync.Sample.noon with
    windows := [[.advance (.ofSeconds 40), .stop, .advance (.ofSeconds (-60)), added "a"]] }

/-- The controller run from that schedule in a world. -/
def runFrom (w : World) : (Except Cluster.Escape Unit × Schedule) × World :=
  StateT.run ((run controller).run.run listed) w

private theorem secondsUntilDue_listed {w w' : World}
    (reading : Act.Ends Act.now w Sync.Sample.noon w') :
    Ends (secondsUntilDue controller) listed w (.ok 20) listed w' := by
  unfold secondsUntilDue
  refine ends_getThe_bind.mpr (ends_act_bind.mpr ⟨_, _, reading, ?_⟩)
  exact ends_pure.mpr ⟨congrArg Except.ok (by decide +kernel), rfl, rfl⟩

/-- A run from that schedule times its watch at noon. -/
theorem path_timed {w v v' : World} (going : w.stopRequested = false)
    (look : Act.Ends Act.now w Sync.Sample.noon v) (again : v.stopRequested = false)
    (reading : Act.Ends Act.now v Sync.Sample.noon v') :
    Path controller ⟨.done, listed, w⟩ [.began, .resumed, .looked Sync.Sample.noon, .timed 20]
      ⟨.timed 20, listed, v'⟩ :=
  .cons (.began going) (.cons (.resumed nofun) (.cons (.looked rfl look)
    (Step.timed again (secondsUntilDue_listed reading)).path))

end Sample

set_option maxRecDepth 10000 in
/-- A request that comes when the clock is read to time a watch comes too late for that watch and
its first event.  And behind a request, a clock that is set back brings what is due forward when an
event names it. -/
theorem stop_comes_late :
    (∃ x y, Path Sample.controller
        ⟨.done, Sample.listed, startedWorld Sample.controller Sample.stopAtReading⟩
        [.began, .resumed, .looked Sync.Sample.noon, .timed 20] x ∧
      x.world.stopRequested = true ∧ Path Sample.controller x [.opened (.str "5") 20] y) ∧
    (Sample.runFrom Sample.stopAtReading).2.windows.length = 0 ∧
    (Sample.runFrom Sample.stopAtReading).1.2.due.entries = [(⟨"", "a"⟩, Sync.Sample.noon)] ∧
    (∃ x, Path Sample.controller
        ⟨.done, Sample.listed, startedWorld Sample.controller Sample.setBack⟩
        [.began, .resumed, .looked Sync.Sample.noon, .timed 20, .opened (.str "5") 20,
          .skipped, .skipped] x ∧
      x.world.stopRequested = true ∧ Sample.halfMinutePast ≤ x.world.clock ∧
      x.schedule.due.entries = [(⟨"", "a"⟩, Sample.halfMinutePast)]) ∧
    (Sample.runFrom Sample.setBack).1.2.due.entries = [(⟨"", "a"⟩, Sample.shortlyBefore)] := by
  have hstopped := (Sample.path_timed (w := startedWorld Sample.controller Sample.setBack)
    rfl rfl rfl rfl).trans (.cons (.opened rfl) (.cons (.skipped (by rfl))
      (Step.skipped (by rfl)).path))
  exact ⟨⟨_, _, Sample.path_timed rfl rfl rfl rfl, by decide +kernel, (Step.opened rfl).path⟩,
    by decide +kernel, by decide +kernel,
    ⟨_, hstopped, by decide +kernel, by decide +kernel, by decide +kernel⟩, by decide +kernel⟩

end SecretSync.Controller

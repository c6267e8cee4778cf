import SecretSync.Proofs.Controller.Report
import SecretSync.Proofs.Controller.Trace
import SecretSync.Proofs.Sync.Asking

/-!
# What moves do

Of every move it is told which calls for declarations it makes, what happens to the schedule in
it, where the cursor is behind it, and with which error it ends a window.  Along a path these add
up, and a request to stop stays.
-/

namespace SecretSync.Controller

variable {c : Settings} {settings : Sync.Settings} {x y z : State} {m : Move} {ms : List Move}
  {key : ObjectKey}
  {s s' : Schedule} {w w' : World}

/-! ### Calls -/

private theorem enlist_asks {d : Declaration} {r : Except Cluster.Escape Unit}
    (h : Ends (enlist d) s w r s' w') : w.Asks [] w' := by
  obtain ⟨-, now, hreading, -⟩ := enlist_ends h
  exact Act.now_asks hreading

private theorem enlistAll_asks {ds : List Declaration} {r : Except Cluster.Escape Unit}
    (h : Ends (ds.forM enlist) s w r s' w') : w.Asks [] w' := by
  induction ds generalizing s w with
  | nil =>
    obtain ⟨-, -, rfl⟩ := ends_pure.mp h
    exact World.Asks.refl _
  | cons d ds ih =>
    obtain ⟨e, hfirst, -⟩ | ⟨_, t, v, hfirst, hrest⟩ :=
      (ends_bind (x := enlist d) (f := fun _ => ds.forM enlist)).mp h
    · exact enlist_asks hfirst
    · exact (enlist_asks hfirst).trans (ih hrest)

private theorem resync_asks {r : Except Cluster.Escape Unit} (h : Ends (resync c) s w r s' w') :
    w.Asks [.listDeclarations (Subject.part c.ns) c.access.timeout] w' := by
  obtain ⟨e, hlist, -⟩ | ⟨⟨ds, version⟩, t, v, hlist, h⟩ := ends_bind.mp h
  · exact Cluster.Declarations.list_asks _ _ (ends_mk_lift.mp hlist).1
  have hlisted := Cluster.Declarations.list_asks _ _ (ends_mk_lift.mp hlist).1
  obtain ⟨e, henlist, -⟩ | ⟨_, t', u, henlist, h⟩ := ends_bind.mp h
  · exact hlisted.trans (enlistAll_asks henlist)
  · rw [ends_change_bind] at h
    obtain ⟨_, hlog, -⟩ := ends_act.mp h
    exact hlisted.trans ((enlistAll_asks henlist).trans (Act.log_asks _ _ _ hlog))

private theorem handleEvent_asks {type : Option String} {d : Declaration}
    {r : Except Cluster.Escape Unit} (h : Ends (handleEvent c type d) s w r s' w') :
    w.Asks [] w' := by
  unfold handleEvent at h
  rw [ends_change_bind] at h
  split at h
  · obtain ⟨_, v, hlog, h⟩ := ends_act_bind.mp h
    obtain ⟨-, -, rfl⟩ := ends_change.mp h
    exact Act.log_asks _ _ _ hlog
  · rw [ends_getThe_bind] at h
    split at h
    · obtain ⟨-, -, rfl⟩ := ends_pure.mp h
      exact World.Asks.refl _
    · exact enlist_asks h

private theorem noteResult_asks (result : Sync.Result) :
    Act.Asks [] (noteResult c key result) :=
  (Act.log_asks _ _ _).bind (fun _ => Act.now_asks)

private theorem dispatch_asks {calls : List Call}
    (asks : Act.Asks calls (c.reconcile key).run) {r : Except Cluster.Escape Unit}
    (h : Ends (dispatch c key) s w r s' w') : w.Asks calls w' := by
  obtain ⟨answer, v, hrun, h⟩ := ends_act_bind.mp h
  cases answer with
  | error e =>
    obtain ⟨-, -, rfl⟩ := ends_throw.mp h
    exact asks hrun
  | ok result =>
    obtain ⟨ended, u, hreading, h⟩ := ends_act_bind.mp h
    have hended := (asks hrun).quiet (noteResult_asks result hreading)
    rw [ends_getThe_bind] at h
    split at h
    · obtain ⟨-, -, rfl⟩ := ends_throw.mp h
      exact hended
    · obtain ⟨-, -, rfl⟩ := ends_change.mp h
      exact hended

private theorem secondsUntilDue_asks {r : Except Cluster.Escape Int}
    (h : Ends (secondsUntilDue c) s w r s' w') : w.Asks [] w' := by
  rw [secondsUntilDue, ends_getThe_bind] at h
  split at h
  · obtain ⟨-, -, rfl⟩ := ends_pure.mp h
    exact World.Asks.refl _
  · obtain ⟨now, v, hreading, h⟩ := ends_act_bind.mp h
    obtain ⟨-, -, rfl⟩ := ends_pure.mp h
    exact Act.now_asks hreading

/-- The calls for declarations in a move. -/
def Move.asks (c : Settings) (settings : Sync.Settings) : Move → List Call
  | .listed _ _ => [.listDeclarations (Subject.part c.ns) c.access.timeout]
  | .unlisted _ => [.listDeclarations (Subject.part c.ns) c.access.timeout]
  | .ran key _ _ => [.getDeclaration key settings.access.timeout]
  | .broken key _ => [.getDeclaration key settings.access.timeout]
  | .opened cursor seconds =>
    [.watch (Subject.part c.ns) (if cursor.isTruthy then some cursor else none) seconds]
  | _ => []

/-- The calls for declarations are those of the lists, the watches and the reconciles. -/
theorem Step.asks (hreconcile : c.reconcile = Sync.reconcile settings) (step : Step c x m y) :
    x.world.Asks (m.asks c settings) y.world := by
  have hasks (key : ObjectKey) :
      Act.Asks [.getDeclaration key settings.access.timeout] (c.reconcile key).run := by
    rw [hreconcile]
    exact Sync.reconcile_asks settings key
  cases step with
  | listed free list ends => exact resync_asks ends
  | unlisted free ends => exact resync_asks ends
  | looked here reading => exact Act.now_asks reading
  | ran here going ends reading => exact (hasks _ ends).quiet (noteResult_asks _ reading)
  | broken here going ends => exact dispatch_asks (hasks _) ends
  | timed going left => exact secondsUntilDue_asks left
  | opened opens => exact Cluster.Declarations.openWatch_asks _ _ _ opens
  | skipped received => exact Cluster.Declarations.receive_asks _ _ received
  | handled received ends =>
    exact (Cluster.Declarations.receive_asks _ _ received).trans (handleEvent_asks ends)
  | lapsed gone received => exact Cluster.Declarations.receive_asks _ _ received
  | failed lasting received => exact Cluster.Declarations.receive_asks _ _ received
  | expired noted => exact Act.log_asks _ _ _ noted
  | slept passes waits => exact Act.sleep_asks _ waits
  | began | resumed | halted | drained | continued => exact World.Asks.refl _

/-- All that a path asks of the cluster is what its moves ask. -/
theorem Path.asks (hreconcile : c.reconcile = Sync.reconcile settings) (path : Path c x ms y) :
    x.world.Asks (ms.flatMap (Move.asks c settings)) y.world := by
  induction path with
  | none => exact World.Asks.refl _
  | cons first _ ih => exact (first.asks hreconcile).trans ih

/-! ### The schedule -/

/-- What happens to the schedule in a move that is not broken off. -/
def Move.happenings : Move → List Happening
  | .listed ds version => ds.map Happening.listed ++ [.cursor version]
  | .ran key result ended => [.ran key result ended]
  | .handled type d => [.event type.text? d]
  | .expired => [.cursor .null]
  | _ => []

/-- A move that is not broken off happens to the schedule as its happenings say. -/
theorem Step.happened (step : Step c x m y) (whole : ∀ key e, m ≠ .broken key e) :
    Happened x.schedule m.happenings y.schedule := by
  cases step with
  | listed free list ends =>
    obtain ⟨_, _, -, ⟨⟩, -⟩ | ⟨ds, version, v, hlist, -, happened⟩ := resync_ends ends
    cases hlist.symm.trans list
    exact happened
  | ran here going ends reading settled => exact (Happens.ran settled).happened
  | broken => exact (whole _ _ rfl).elim
  | handled received ends => exact (handleEvent_ends ends).2.happened
  | expired => exact (Happens.cursor .null).happened
  | _ => exact .none

/-- Along a path on which no run is broken off the happenings of its moves add up. -/
theorem Path.happened (path : Path c x ms y) (whole : ∀ m ∈ ms, ∀ key e, m ≠ .broken key e) :
    Happened x.schedule (ms.flatMap Move.happenings) y.schedule := by
  induction path with
  | none => exact .none
  | cons first _ ih =>
    obtain ⟨hfirst, hrest⟩ := List.forall_mem_cons.mp whole
    exact (first.happened hfirst).trans (ih hrest)

/-- Where the cursor is behind a move. -/
def Move.cursor (cursor : Json) : Move → Json
  | .listed _ version => version
  | .handled _ d => ((Subject.part d.resourceVersion).map Json.str).getD cursor
  | .expired => .null
  | _ => cursor

/-- Requesting a run leaves the cursor. -/
@[simp] theorem Schedule.cursor_enqueueAt (key : ObjectKey) (time : Time.Instant) (s : Schedule) :
    (s.enqueueAt key time).cursor = s.cursor := by
  unfold enqueueAt
  split
  · rfl
  · split <;> rfl

private theorem Schedule.cursor_advanceCursor (d : Declaration) (s : Schedule) :
    (s.advanceCursor d).cursor =
      ((Subject.part d.resourceVersion).map Json.str).getD s.cursor := by
  unfold advanceCursor
  split <;> simp [*]

private theorem Schedule.cursor_settle? {result : Sync.Result} {now : Time.Instant}
    (h : s.settle? key result now = some s') : s'.cursor = s.cursor := by
  obtain ⟨_, _, _, _, rfl⟩ | ⟨_, _, rfl⟩ | ⟨_, _, _, _, rfl⟩ | ⟨_, _, _, rfl⟩ := settle?_cases h <;>
    rfl

/-- A move takes the cursor where its kind says. -/
theorem Step.cursor (step : Step c x m y) :
    y.schedule.cursor = m.cursor x.schedule.cursor := by
  cases step with
  | listed free list ends =>
    obtain ⟨_, _, -, ⟨⟩, -⟩ | ⟨ds, version, v, t, u, hlist, -, -, rfl⟩ := resync_enlists ends
    cases hlist.symm.trans list
    rfl
  | ran here going ends reading settled =>
    have hkept := Schedule.cursor_settle? settled
    exact hkept
  | @handled s t _ _ _ _ _ type d received ends =>
    have hmoved := Schedule.cursor_advanceCursor d s
    obtain ⟨-, hstep⟩ := handleEvent_ends ends
    generalize type.text? = told at hstep
    cases hstep with
    | deleted => exact hmoved
    | repeated => exact hmoved
    | reported now => exact (Schedule.cursor_enqueueAt _ _ _).trans hmoved
  | _ => rfl

/-! ### Errors -/

/-- The error that a move ends a window with, if it does. -/
def Move.error? : Move → Option Cluster.Escape
  | .unlisted e => some e
  | .broken _ e => some e
  | .failed e => some (.cluster e)
  | _ => none

/-- The move before a raised error raises it. -/
theorem Path.raises {e : Cluster.Escape} (path : Path c x ms ⟨.raised e, s, w⟩)
    (calm : ∀ e, x.point ≠ .raised e) : ∃ before m, ms = before ++ [m] ∧ m.error? = some e := by
  obtain rfl | ⟨before, m, rfl⟩ := List.eq_nil_or_concat ms
  · cases path
    exact (calm e rfl).elim
  rw [List.concat_eq_append] at path ⊢
  obtain ⟨y, -, hlast⟩ := path_append.mp path
  refine ⟨before, m, rfl, ?_⟩
  cases hlast with
  | cons last rest =>
    cases rest
    cases last with
    | looked here => cases here
    | ran here => cases here
    | _ => rfl

end SecretSync.Controller

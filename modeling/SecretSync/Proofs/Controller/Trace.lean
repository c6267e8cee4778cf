import SecretSync.Proofs.Controller.Intake
import SecretSync.Proofs.Controller.Pass

/-!
# The moves of the controller

What the controller does is taken apart into moves between the points at which it can stand: a list
is taken in, a watch is opened, an item of its stream is handled, a key is run, and so on.  Each
move carries what it does to the schedule and the world, and every window and every run of the
controller is a path of moves.  What holds of a path is shown move by move.
-/

namespace SecretSync.Controller

/-- A move of the controller. -/
inductive Move where
  /-- The request to stop is looked for and not there, and a window begins. -/
  | began
  /-- A list is taken in. -/
  | listed (ds : List Declaration) (version : Json)
  /-- A list fails. -/
  | unlisted (e : Cluster.Escape)
  /-- A cursor is held, and no list is made. -/
  | resumed
  /-- The clock is read for a pass over what is due. -/
  | looked (now : Time.Instant)
  /-- The request to stop is looked for and not there, and a key is run. -/
  | ran (key : ObjectKey) (result : Sync.Result) (ended : Time.Instant)
  /-- As `ran`, but an error breaks the run off. -/
  | broken (key : ObjectKey) (e : Cluster.Escape)
  /-- The request to stop is looked for and not there, and it is worked out for how many seconds the
  next watch may stay open. -/
  | timed (seconds : Int)
  /-- A watch is opened behind a cursor. -/
  | opened (cursor : Json) (seconds : Int)
  /-- The request to stop is looked for and there. -/
  | halted
  /-- An item of a stream yields nothing. -/
  | skipped
  /-- An event is handled. -/
  | handled (type : Json) (d : Declaration)
  /-- The stream breaks. -/
  | failed (e : ClusterError)
  /-- The stream ends. -/
  | drained
  /-- Behind an event the request to stop is looked for and not there. -/
  | continued
  /-- The watch has expired, and the cursor is given up. -/
  | expired
  /-- A window that failed in a way that may pass is tried again after a wait. -/
  | slept (time : Time.Duration)

/-- Where the controller can stand. -/
inductive Point where
  /-- At the start of a window. -/
  | fresh
  /-- Before a watch, where what is due is run. -/
  | opening
  /-- Before a watch of so many seconds. -/
  | timed (seconds : Int)
  /-- At a stream, of which some items are left. -/
  | watching (items : List WindowItem)
  /-- Behind an event of a stream, where what is due is run. -/
  | handling (items : List WindowItem)
  /-- Behind the failure of a stream whose watch has expired. -/
  | expiring
  /-- At the end of a window, where what is due is run, and between windows. -/
  | done
  /-- Behind an error that has ended a window. -/
  | raised (e : Cluster.Escape)

namespace Point

/-- Whether what is due is run there. -/
def runsDue : Point → Bool
  | opening | handling _ | done => true
  | _ => false

/-- Whether a request to stop is looked for there and ends the window. -/
def halts : Point → Bool
  | opening | handling _ => true
  | _ => false

/-- Where a computation leads that ends there unless an error ends it. -/
def after {α : Type} (p : Point) : Except Cluster.Escape α → Point
  | .ok _ => p
  | .error e => raised e

end Point

/-- The controller at a point, with its schedule and the world. -/
structure State where
  point : Point
  schedule : Schedule
  world : World

/-- What a move does. -/
inductive Step (c : Settings) : State → Move → State → Prop
  | began {s : Schedule} {w : World} (going : w.stopRequested = false) :
    Step c ⟨.done, s, w⟩ .began ⟨.fresh, s, w⟩
  | listed {s t : Schedule} {w v w' : World} {ds : List Declaration} {version : Json}
    (free : s.cursor = .null)
    (list : Act.Ends (Cluster.Declarations.list c.access c.ns).run w (.ok (ds, version)) v)
    (ends : Ends (resync c) s w (.ok ()) t w') :
    Step c ⟨.fresh, s, w⟩ (.listed ds version) ⟨.opening, t, w'⟩
  | unlisted {s : Schedule} {w w' : World} {e : Cluster.Escape} (free : s.cursor = .null)
    (ends : Ends (resync c) s w (.error e) s w') :
    Step c ⟨.fresh, s, w⟩ (.unlisted e) ⟨.raised e, s, w'⟩
  | resumed {s : Schedule} {w : World} (held : s.cursor ≠ .null) :
    Step c ⟨.fresh, s, w⟩ .resumed ⟨.opening, s, w⟩
  | looked {p : Point} {s : Schedule} {w w' : World} {now : Time.Instant} (here : p.runsDue = true)
    (reading : Act.Ends Act.now w now w') : Step c ⟨p, s, w⟩ (.looked now) ⟨p, s, w'⟩
  | ran {p : Point} {s t : Schedule} {w v w' : World} {key : ObjectKey} {result : Sync.Result}
    {ended : Time.Instant} (here : p.runsDue = true) (going : w.stopRequested = false)
    (ends : Act.Ends (c.reconcile key).run w (.ok result) v)
    (reading : Act.Ends (noteResult c key result) v ended w')
    (settled : (s.start key).settle? key result ended = some t) :
    Step c ⟨p, s, w⟩ (.ran key result ended) ⟨p, t, w'⟩
  | broken {p : Point} {s : Schedule} {w w' : World} {key : ObjectKey} {e : Cluster.Escape}
    (here : p.runsDue = true) (going : w.stopRequested = false)
    (ends : Ends (dispatch c key) (s.start key) w (.error e) (s.start key) w') :
    Step c ⟨p, s, w⟩ (.broken key e) ⟨.raised e, s.start key, w'⟩
  | timed {s : Schedule} {w w' : World} {seconds : Int} (going : w.stopRequested = false)
    (left : Ends (secondsUntilDue c) s w (.ok seconds) s w') :
    Step c ⟨.opening, s, w⟩ (.timed seconds) ⟨.timed seconds, s, w'⟩
  | opened {s : Schedule} {w w' : World} {seconds : Int} {items : List WindowItem}
    (opens : Act.Ends (Cluster.Declarations.openWatch c.ns s.cursor seconds) w items w') :
    Step c ⟨.timed seconds, s, w⟩ (.opened s.cursor seconds) ⟨.watching items, s, w'⟩
  | halted {p : Point} {s : Schedule} {w : World} (here : p.halts = true)
    (stopped : w.stopRequested = true) : Step c ⟨p, s, w⟩ .halted ⟨.done, s, w⟩
  | skipped {s : Schedule} {w w' : World} {item : WindowItem} {items : List WindowItem}
    (received : Act.Ends (Cluster.Declarations.receive c.ns item) w .nothing w') :
    Step c ⟨.watching (item :: items), s, w⟩ .skipped ⟨.watching items, s, w'⟩
  | handled {s t : Schedule} {w v w' : World} {item : WindowItem} {items : List WindowItem}
    {type : Json} {d : Declaration}
    (received : Act.Ends (Cluster.Declarations.receive c.ns item) w (.event type d) v)
    (ends : Ends (handleEvent c type.text? d) s v (.ok ()) t w') :
    Step c ⟨.watching (item :: items), s, w⟩ (.handled type d) ⟨.handling items, t, w'⟩
  | lapsed {s : Schedule} {w w' : World} {item : WindowItem} {items : List WindowItem}
    {e : ClusterError} (gone : isGone e.status = true)
    (received : Act.Ends (Cluster.Declarations.receive c.ns item) w (.failed e) w') :
    Step c ⟨.watching (item :: items), s, w⟩ (.failed e) ⟨.expiring, s, w'⟩
  | failed {s : Schedule} {w w' : World} {item : WindowItem} {items : List WindowItem}
    {e : ClusterError} (lasting : isGone e.status = false)
    (received : Act.Ends (Cluster.Declarations.receive c.ns item) w (.failed e) w') :
    Step c ⟨.watching (item :: items), s, w⟩ (.failed e) ⟨.raised (.cluster e), s, w'⟩
  | drained {s : Schedule} {w : World} : Step c ⟨.watching [], s, w⟩ .drained ⟨.done, s, w⟩
  | continued {s : Schedule} {w : World} {items : List WindowItem}
    (going : w.stopRequested = false) :
    Step c ⟨.handling items, s, w⟩ .continued ⟨.watching items, s, w⟩
  | expired {s : Schedule} {w w' : World}
    (noted : Act.Ends (c.log .info "watch_expired_relisting" []) w () w') :
    Step c ⟨.expiring, s, w⟩ .expired ⟨.done, { s with cursor := .null }, w'⟩
  | slept {s : Schedule} {w w' : World} {e : Cluster.Escape} {time : Time.Duration}
    (passes : mayPass e = true) (waits : Act.Ends (Act.sleep time) w () w') :
    Step c ⟨.raised e, s, w⟩ (.slept time) ⟨.fresh, s, w'⟩

/-- Moves one behind the other lead from one state to another. -/
inductive Path (c : Settings) : State → List Move → State → Prop
  | none (x : State) : Path c x [] x
  | cons {x y z : State} {m : Move} {ms : List Move} (first : Step c x m y) (rest : Path c y ms z) :
    Path c x (m :: ms) z

variable {c : Settings} {x y z : State} {m : Move} {ms ms' : List Move} {p : Point}
  {s s' t : Schedule} {w w' v : World}

/-- A move is a path of one. -/
theorem Step.path (step : Step c x m y) : Path c x [m] y := .cons step (.none y)

/-- Paths can be joined. -/
theorem Path.trans (earlier : Path c x ms y) (later : Path c y ms' z) : Path c x (ms ++ ms') z := by
  induction earlier with
  | none => exact later
  | cons first _ ih => exact .cons first (ih later)

/-- A path of two rows of moves passes through a state between them. -/
theorem path_append : Path c x (ms ++ ms') z ↔ ∃ y, Path c x ms y ∧ Path c y ms' z := by
  constructor
  · intro path
    induction ms generalizing x with
    | nil => exact ⟨x, .none x, path⟩
    | cons m ms ih =>
      cases path with
      | cons first rest =>
        obtain ⟨y, hms, hms'⟩ := ih rest
        exact ⟨y, .cons first hms, hms'⟩
  · rintro ⟨y, earlier, later⟩
    exact earlier.trans later

/-! ### Moves within a window -/

/-- Whether a move is made within a window. -/
def Move.inWindow : Move → Bool
  | .began | .slept _ => false
  | _ => true

/-- Moves within one window lead from one state to another. -/
def Leads (c : Settings) (x y : State) : Prop :=
  ∃ ms, Path c x ms y ∧ ∀ m ∈ ms, m.inWindow = true

/-- A state leads to itself. -/
theorem Leads.rest (x : State) : Leads c x x := ⟨[], .none x, List.forall_mem_nil _⟩

/-- What one state leads to leads on. -/
theorem Leads.trans (earlier : Leads c x y) (later : Leads c y z) : Leads c x z := by
  obtain ⟨ms, hms, hearlier⟩ := earlier
  obtain ⟨ms', hms', hlater⟩ := later
  exact ⟨ms ++ ms', hms.trans hms', List.forall_mem_append.mpr ⟨hearlier, hlater⟩⟩

/-- A move inside a window leads on. -/
theorem Step.leads (step : Step c x m y) (within : m.inWindow = true) : Leads c x y :=
  ⟨[m], step.path, List.forall_mem_singleton.mpr within⟩

/-- A pass over what is due leads back to the point where it is made, unless it is broken off. -/
theorem Passed.leads {now : Time.Instant} {order : List (ObjectKey × Time.Instant)}
    {runs : List Happening} {broken : Option BrokenRun}
    (pass : Passed c now order s w runs broken s' w') (here : p.runsDue = true) :
    Leads c ⟨p, s, w⟩ ⟨p.after (passEnd runs broken), s', w'⟩ := by
  induction pass with
  | done s w => exact Leads.rest _
  | halted early => exact Leads.rest _
  | @run _ _ _ _ _ _ _ _ _ _ _ _ _ broken due going ends reading settled later ih =>
    have hrest := ((Step.ran here going ends reading settled).leads rfl).trans ih
    cases broken <;> exact hrest
  | broken due going ends => exact (Step.broken here going ends).leads rfl

private theorem processDue_leads {r : Except Cluster.Escape Nat}
    (h : Ends (processDue c) s w r s' w') (here : p.runsDue = true) :
    Leads c ⟨p, s, w⟩ ⟨p.after r, s', w'⟩ := by
  obtain ⟨now, v, runs, broken, hreading, pass, rfl⟩ := processDue_passed h
  exact ((Step.looked here hreading).leads rfl).trans (pass.leads here)

/-- Where a stream leads. -/
def Point.behindStream : Except Cluster.Escape (Option ClusterError) → Point
  | .ok none => done
  | .ok (some e) => if isGone e.status then expiring else raised (.cluster e)
  | .error e => raised e

private theorem consume_leads {items : List WindowItem}
    {r : Except Cluster.Escape (Option ClusterError)}
    (h : Ends (consume c items) s w r s' w') :
    Leads c ⟨.watching items, s, w⟩ ⟨.behindStream r, s', w'⟩ := by
  induction items generalizing s w with
  | nil =>
    obtain ⟨rfl, rfl, rfl⟩ := ends_pure.mp h
    exact Step.drained.leads rfl
  | cons item items ih =>
    obtain ⟨received, v, hreceived, h⟩ := ends_act_bind.mp h
    cases received with
    | nothing => exact ((Step.skipped hreceived).leads rfl).trans (ih h)
    | failed e =>
      obtain ⟨rfl, rfl, rfl⟩ := ends_pure.mp h
      unfold Point.behindStream
      dsimp only
      split
      · next hgone => exact (Step.lapsed hgone hreceived).leads rfl
      · next hlasting => exact (Step.failed (Bool.eq_false_iff.mpr hlasting) hreceived).leads rfl
    | event type d =>
      obtain ⟨e, hhandle, -⟩ | ⟨_, t, u, hhandle, h⟩ := ends_bind.mp h
      · cases (handleEvent_ends hhandle).1
      have hhandled : Leads c ⟨.watching (item :: items), s, w⟩ ⟨.handling items, t, u⟩ :=
        (Step.handled hreceived hhandle).leads rfl
      obtain ⟨e, hpass, rfl⟩ | ⟨runs, t', u', hpass, h⟩ := ends_bind.mp h
      · exact hhandled.trans (processDue_leads hpass rfl)
      have hpassed := hhandled.trans (processDue_leads hpass rfl)
      rw [ends_stopRequested_bind] at h
      split at h
      · next hstopped =>
        obtain ⟨rfl, rfl, rfl⟩ := ends_pure.mp h
        exact hpassed.trans ((Step.halted rfl hstopped).leads rfl)
      · next hgoing =>
        have hnext : Leads c ⟨.handling items, t', u'⟩ ⟨.watching items, t', u'⟩ :=
          (Step.continued (Bool.eq_false_iff.mpr hgoing)).leads rfl
        exact (hpassed.trans hnext).trans (ih h)

/-- What a window does behind its stream, and behind the failure that broke it if one did. -/
def endWindow (c : Settings) (failure : Option ClusterError) : Loop Unit := do
  match failure with
  | none => pure ()
  | some e =>
    if isGone e.status then
      act (c.log .info "watch_expired_relisting" [])
      change (fun s => { s with cursor := .null })
    else throw (.cluster e)
  let _ ← processDue c

/-- What a window does once no list is needed any more. -/
def watchOnce (c : Settings) : Loop Unit := do
  let _ ← processDue c
  if ← act Act.stopRequested then return ()
  else
    let seconds ← secondsUntilDue c
    let items ← act (Cluster.Declarations.openWatch c.ns (← getThe Schedule).cursor seconds)
    endWindow c (← consume c items)

private theorem runOnce_eq (c : Settings) :
    runOnce c = getThe Schedule >>= fun s =>
      match s.cursor with
      | .null => resync c >>= fun _ => watchOnce c
      | _ => watchOnce c := rfl

/-- The time until the next run is computed without failing, from the schedule as it stands. -/
theorem secondsUntilDue_ends {r : Except Cluster.Escape Int}
    (h : Ends (secondsUntilDue c) s w r s' w') : s' = s ∧ ∃ seconds, r = .ok seconds := by
  rw [secondsUntilDue, ends_getThe_bind] at h
  split at h
  · obtain ⟨rfl, rfl, -⟩ := ends_pure.mp h
    exact ⟨rfl, _, rfl⟩
  · obtain ⟨now, v, -, h⟩ := ends_act_bind.mp h
    obtain ⟨rfl, rfl, -⟩ := ends_pure.mp h
    exact ⟨rfl, _, rfl⟩

private theorem lastPass_leads {r : Except Cluster.Escape Unit}
    (h : Ends (do let _ ← processDue c) s w r s' w') :
    Leads c ⟨.done, s, w⟩ ⟨Point.done.after r, s', w'⟩ := by
  obtain ⟨e, hpass, rfl⟩ | ⟨runs, t, v, hpass, h⟩ := ends_bind.mp h
  · exact processDue_leads hpass rfl
  · obtain ⟨rfl, rfl, rfl⟩ := ends_pure.mp h
    exact processDue_leads hpass rfl

private theorem endWindow_leads {failure : Option ClusterError} {r : Except Cluster.Escape Unit}
    (h : Ends (endWindow c failure) s w r s' w') :
    Leads c ⟨.behindStream (.ok failure), s, w⟩ ⟨Point.done.after r, s', w'⟩ := by
  cases failure with
  | none => exact lastPass_leads h
  | some e =>
    unfold endWindow at h
    unfold Point.behindStream
    dsimp only at h ⊢
    split
    · next hgone =>
      rw [if_pos hgone] at h
      obtain ⟨_, v, hlog, hlast⟩ := ends_act_bind.mp h
      rw [ends_change_bind] at hlast
      exact ((Step.expired hlog).leads rfl).trans (lastPass_leads hlast)
    · next hlasting =>
      rw [if_neg hlasting] at h
      obtain ⟨e', hthrow, rfl⟩ | ⟨_, _, _, hthrow, -⟩ := ends_bind.mp h
      · obtain ⟨⟨⟩, rfl, rfl⟩ := ends_throw.mp hthrow
        exact Leads.rest _
      · cases (ends_throw.mp hthrow).1

private theorem watchOnce_leads {r : Except Cluster.Escape Unit}
    (h : Ends (watchOnce c) s w r s' w') :
    Leads c ⟨.opening, s, w⟩ ⟨Point.done.after r, s', w'⟩ := by
  obtain ⟨e, hpass, rfl⟩ | ⟨runs, t, v, hpass, h⟩ := ends_bind.mp h
  · exact processDue_leads hpass rfl
  have hpassed : Leads c ⟨.opening, s, w⟩ ⟨.opening, t, v⟩ := processDue_leads hpass rfl
  rw [ends_stopRequested_bind] at h
  split at h
  · next hstopped =>
    obtain ⟨rfl, rfl, rfl⟩ := ends_pure.mp h
    exact hpassed.trans ((Step.halted rfl hstopped).leads rfl)
  next hgoing =>
  obtain ⟨e, hleft, -⟩ | ⟨seconds, t', u, hleft, hrest⟩ := ends_bind.mp h
  · obtain ⟨-, _, ⟨⟩⟩ := secondsUntilDue_ends hleft
  obtain ⟨rfl, -⟩ := secondsUntilDue_ends hleft
  have htimed := hpassed.trans ((Step.timed (Bool.eq_false_iff.mpr hgoing) hleft).leads rfl)
  rw [ends_getThe_bind] at hrest
  obtain ⟨items, x, hopens, hbehind⟩ := ends_act_bind.mp hrest
  have hopened := htimed.trans ((Step.opened hopens).leads rfl)
  obtain ⟨e, hstream, rfl⟩ | ⟨failure, t, y, hstream, hend⟩ := ends_bind.mp hbehind
  · exact hopened.trans (consume_leads hstream)
  · exact (hopened.trans (consume_leads hstream)).trans (endWindow_leads hend)

/-- A window is a path of moves within one window. -/
theorem runOnce_leads {r : Except Cluster.Escape Unit} (h : Ends (runOnce c) s w r s' w') :
    Leads c ⟨.fresh, s, w⟩ ⟨Point.done.after r, s', w'⟩ := by
  rw [runOnce_eq, ends_getThe_bind] at h
  split at h
  · next hfree =>
    obtain ⟨e, hlist, rfl⟩ | ⟨_, t, v, hlist, h⟩ := ends_bind.mp h
    · obtain ⟨_, _, -, -, rfl⟩ | ⟨_, _, _, -, ⟨⟩, -⟩ := resync_ends hlist
      exact (Step.unlisted hfree hlist).leads rfl
    · obtain ⟨_, _, -, ⟨⟩, -⟩ | ⟨ds, version, u, hanswer, -, -⟩ := resync_ends hlist
      exact ((Step.listed hfree hanswer hlist).leads rfl).trans (watchOnce_leads h)
  · next hheld => exact ((Step.resumed hheld).leads rfl).trans (watchOnce_leads h)

/-! ### Windows one behind the other -/

private theorem retrying_path {r : Except Cluster.Escape Unit} (tries more : Nat)
    (h : Ends (ExceptT.mk (retrying mayPass (fun time => StateT.lift (Act.sleep time))
      (runOnce c).run tries more)) s w r s' w') :
    ∃ ms, Path c ⟨.fresh, s, w⟩ ms ⟨Point.done.after r, s', w'⟩ := by
  induction more generalizing tries s w with
  | zero =>
    obtain ⟨ms, hms, -⟩ := runOnce_leads h
    exact ⟨ms, hms⟩
  | succ more ih =>
    obtain ⟨first, t, v, hfirst, h⟩ := ends_mk_bind.mp h
    obtain ⟨ms, hms, -⟩ := runOnce_leads hfirst
    cases first with
    | ok _ =>
      obtain ⟨rfl, rfl, rfl⟩ := ends_pure.mp h
      exact ⟨ms, hms⟩
    | error e =>
      dsimp only at h
      split at h
      · next hpasses =>
        obtain ⟨_, u, hwait, h⟩ := (ends_act_bind (x := Act.sleep (backoff tries))
          (f := fun _ => ExceptT.mk (retrying mayPass (fun time => StateT.lift (Act.sleep time))
            (runOnce c).run (tries + 1) more))).mp h
        obtain ⟨ms', hms'⟩ := ih (tries + 1) h
        exact ⟨_, hms.trans (.cons (.slept hpasses hwait) hms')⟩
      · obtain ⟨rfl, rfl, rfl⟩ := ends_throw.mp h
        exact ⟨ms, hms⟩

/-- A window with all its tries is a path of moves. -/
theorem runWindow_path {r : Except Cluster.Escape Unit} (h : Ends (runWindow c) s w r s' w') :
    ∃ ms, Path c ⟨.fresh, s, w⟩ ms ⟨Point.done.after r, s', w'⟩ :=
  retrying_path 1 (c.attempts - 1) h

/-- Windows one behind the other are a path of moves. -/
theorem runWindows_path {n : Nat} {r : Except Cluster.Escape Unit}
    (h : Ends (runWindows c n) s w r s' w') :
    ∃ ms, Path c ⟨.done, s, w⟩ ms ⟨Point.done.after r, s', w'⟩ := by
  induction n generalizing s w with
  | zero =>
    obtain ⟨rfl, rfl, rfl⟩ := ends_pure.mp h
    exact ⟨[], .none _⟩
  | succ n ih =>
    rw [runWindows, ends_stopRequested_bind] at h
    split at h
    · obtain ⟨rfl, rfl, rfl⟩ := ends_pure.mp h
      exact ⟨[], .none _⟩
    · next hgoing =>
      have hbegan := Step.began (c := c) (s := s) (Bool.eq_false_iff.mpr hgoing)
      obtain ⟨e, hwindow, rfl⟩ | ⟨_, t, u, hwindow, h⟩ := ends_bind.mp h
      · obtain ⟨ms, hms⟩ := runWindow_path hwindow
        exact ⟨_, .cons hbegan hms⟩
      · obtain ⟨ms, hms⟩ := runWindow_path hwindow
        obtain ⟨ms', hms'⟩ := ih h
        exact ⟨_, (Path.cons hbegan hms).trans hms'⟩

end SecretSync.Controller

import SecretSync.Proofs.Controller.Polling
import SecretSync.Proofs.Controller.Steps

/-!
# Where watches start

Every watch starts behind the version that was told last by the events since the last list, or
behind that list if none told one.  A list is made exactly when no cursor is held; it is enlisted as
a whole.  A window that fails with its list or its stream leaves the schedule as the moves before
have left it, so that the next window resumes behind the last event that was handled.
-/

namespace SecretSync.Controller

variable {c : Settings} {settings : Sync.Settings} {x y : State} {m : Move} {ms past : List Move}
  {d : Declaration} {ds : List Declaration} {version cursor : Json} {first s s' t : Schedule}
  {w w' v : World} {r : Except Cluster.Escape Unit}

/-! ### Versions that are told -/

namespace Move

/-- The version that is told in a move by an event, if it tells one. -/
def told? : Move → Option String
  | handled _ d => Subject.part d.resourceVersion
  | _ => none

/-- Whether a move neither takes in a list nor gives up the cursor. -/
def holds : Move → Bool
  | listed _ _ | expired => false
  | _ => true

private theorem cursor_of_holds (holds : m.holds = true) :
    m.cursor cursor = (m.told?.map Json.str).getD cursor := by
  cases m with
  | listed | expired => cases holds
  | _ => rfl

/-- Whether a move makes a list, be it taken in or not. -/
def lists : Move → Bool
  | listed _ _ | unlisted _ => true
  | _ => false

end Move

/-- A cursor is the version that was told last since the last list, or that of the list if none was
told; and the cursor has not been given up since. -/
def Resumes (ms : List Move) (cursor : Json) : Prop :=
  ∃ before ds version after, ms = before ++ .listed ds version :: after ∧
    (∀ m ∈ after, m.holds = true) ∧
    cursor = ((after.filterMap Move.told?).getLast?.map Json.str).getD version

private theorem resumes_listed (past : List Move) (ds : List Declaration) (version : Json) :
    Resumes (past ++ [.listed ds version]) version :=
  ⟨past, ds, version, [], rfl, List.forall_mem_nil _, rfl⟩

/-- One more move takes the cursor on as the law says. -/
theorem Resumes.next (resumes : Resumes past cursor) (holds : m.holds = true) :
    Resumes (past ++ [m]) (m.cursor cursor) := by
  obtain ⟨before, ds, version, after, rfl, hafter, rfl⟩ := resumes
  refine ⟨before, ds, version, after ++ [m], by simp, ?_, ?_⟩
  · exact List.forall_mem_append.mpr ⟨hafter, List.forall_mem_singleton.mpr holds⟩
  · rw [Move.cursor_of_holds holds, List.filterMap_append]
    cases htold : m.told? <;> simp [htold]

namespace Point

/-- Whether no cursor need be held there. -/
def mayLack : Point → Bool
  | fresh | done | raised _ => true
  | _ => false

end Point

/-- The cursor of a state is the one behind which a watch is to start, or there is none yet. -/
def Held (past : List Move) (x : State) : Prop :=
  Resumes past x.schedule.cursor ∨ x.schedule.cursor = .null ∧ x.point.mayLack = true

/-- One more move keeps the cursor to what the moves say. -/
theorem Held.next (held : Held past x) (step : Step c x m y) : Held (past ++ [m]) y := by
  have hcursor := step.cursor
  by_cases hholds : m.holds = true
  case neg =>
    cases step with
    | listed =>
      rw [Held, hcursor]
      exact Or.inl (resumes_listed past _ _)
    | expired => exact Or.inr ⟨rfl, rfl⟩
    | _ => exact (hholds rfl).elim
  obtain hresumes | ⟨hnull, hlack⟩ := held
  · rw [Held, hcursor]
    exact Or.inl (hresumes.next hholds)
  · cases step with
    | resumed hheld => exact (hheld hnull).elim
    | began | unlisted | looked | slept => exact Or.inr ⟨hnull, hlack⟩
    | ran => exact Or.inr ⟨hcursor.trans hnull, hlack⟩
    | broken => exact Or.inr ⟨hcursor.trans hnull, rfl⟩
    | halted here => exact Or.inr ⟨hnull, rfl⟩
    | listed | expired => cases hholds
    | _ => cases hlack

/-- A path keeps the cursor to what its moves say. -/
theorem Path.held (path : Path c x ms y) (held : Held past x) : Held (past ++ ms) y := by
  induction path generalizing past with
  | none =>
    rw [List.append_nil]
    exact held
  | @cons _ _ _ m ms first _ ih =>
    rw [List.append_cons]
    exact ih (held.next first)

/-- A watch starts where the moves before it say. -/
theorem Path.resumes {before after : List Move} {seconds : Int}
    (path : Path c x (before ++ .opened cursor seconds :: after) y) (held : Held past x) :
    Resumes (past ++ before) cursor := by
  obtain ⟨z, hbefore, hrest⟩ := path_append.mp path
  have hheld := hbefore.held held
  cases hrest with
  | cons opening rest =>
    cases opening with
    | opened => exact hheld.resolve_right (fun h => nomatch h.2)

/-! ### Lists -/

/-- Every declaration of a list is due when the list comes to it, the generation that is held of a
key is that of its last declaration, and the next watch starts behind the list. -/
structure Enlists (ds : List Declaration) (version : Json) (s : Schedule) (v : World)
    (t : Schedule) : Prop where
  due : ∀ before d after, ds = before ++ d :: after → ∃ s' u now u',
    Ends (before.forM enlist) s v (.ok ()) s' u ∧ Act.Ends Act.now u now u' ∧ DueBy d.key now t
  generations : ∀ before d after, ds = before ++ d :: after → (∀ d' ∈ after, d'.key ≠ d.key) →
    t.generations.get? d.key = some d.generation
  cursor : t.cursor = version

private theorem enlistAll_generations {before after : List Declaration}
    (h : Ends ((before ++ d :: after).forM enlist) s w (.ok ()) s' w')
    (last : ∀ d' ∈ after, d'.key ≠ d.key) :
    s'.generations.get? d.key = some d.generation := by
  have happend : (before ++ d :: after).forM enlist =
      (before.forM enlist >>= fun _ => (d :: after).forM enlist) := List.forM_append
  rw [happend] at h
  obtain ⟨e, -, he⟩ | ⟨_, t, u, -, hrest⟩ := ends_bind.mp h
  · cases he
  obtain ⟨e, -, he⟩ | ⟨_, t', u', hfirst, hafter⟩ :=
    (ends_bind (x := enlist d) (f := fun _ => after.forM enlist)).mp hrest
  · cases he
  obtain ⟨-, now, -, rfl⟩ := enlist_ends hfirst
  have hsame : SameAt d.key (t.enlist d now) s' := by
    refine (enlistAll_ends hafter).2.sameAt (fun h hh => ?_)
    obtain ⟨d', hd', rfl⟩ := List.mem_map.mp hh
    exact last d' hd'
  rw [hsame.generations]
  simp [Schedule.enlist]

private theorem resync_taken
    (list : Act.Ends (Cluster.Declarations.list c.access c.ns).run w (.ok (ds, version)) v)
    (h : Ends (resync c) s w (.ok ()) t w') : Enlists ds version s v t := by
  obtain ⟨_, _, -, ⟨⟩, -⟩ | ⟨_, _, _, t', u, hlisted, -, henlist, rfl⟩ := resync_enlists h
  cases hlisted.symm.trans list
  refine ⟨fun before d after hsplit => ?_, fun before d after hsplit hlast => ?_, rfl⟩
  · subst hsplit
    obtain ⟨s', u, now, u', hbefore, hreading, hdue⟩ := enlistAll_reports henlist
    exact ⟨s', u, now, u', hbefore, hreading, hdue⟩
  · subst hsplit
    have hnoted := enlistAll_generations henlist hlast
    exact hnoted

/-! ### Windows -/

/-- A window comes back to its start only by moves outside of it. -/
theorem Step.not_fresh (step : Step c x m y) (within : m.inWindow = true) :
    y.point ≠ .fresh ∧ (x.point ≠ .fresh → m.lists = false) := by
  cases step with
  | began | slept => cases within
  | listed | unlisted => exact ⟨nofun, fun h => (h rfl).elim⟩
  | looked here =>
    refine ⟨?_, fun _ => rfl⟩
    rintro rfl
    cases here
  | ran here =>
    refine ⟨?_, fun _ => rfl⟩
    rintro rfl
    cases here
  | _ => exact ⟨nofun, fun _ => rfl⟩

private theorem Path.unlisting (path : Path c x ms y) (within : ∀ m ∈ ms, m.inWindow = true)
    (behind : x.point ≠ .fresh) : ∀ m ∈ ms, m.lists = false := by
  induction path with
  | none => exact List.forall_mem_nil _
  | cons first _ ih =>
    obtain ⟨hfirst, hrest⟩ := List.forall_mem_cons.mp within
    obtain ⟨hnext, hlists⟩ := first.not_fresh hfirst
    exact List.forall_mem_cons.mpr ⟨hlists behind, ih hrest hnext⟩

/-- Behind an error a window makes no further move. -/
theorem Path.eq_nil_of_raised {e : Cluster.Escape} (path : Path c ⟨.raised e, s, w⟩ ms y)
    (within : ∀ m ∈ ms, m.inWindow = true) : ms = [] ∧ y = ⟨.raised e, s, w⟩ := by
  cases path with
  | none => exact ⟨rfl, rfl⟩
  | cons first rest =>
    have hfirst := within _ List.mem_cons_self
    cases first with
    | slept => cases hfirst
    | looked here | ran here | broken here => cases here
    | halted here => cases here

/-- The last pass of a window leaves the cursor. -/
theorem Path.cursor_of_done (path : Path c x ms y) (within : ∀ m ∈ ms, m.inWindow = true)
    (ended : x.point = .done) : y.schedule.cursor = x.schedule.cursor := by
  induction path with
  | none => rfl
  | cons first rest ih =>
    obtain ⟨hfirst, hrest⟩ := List.forall_mem_cons.mp within
    have hcursor := first.cursor
    cases first with
    | began => cases hfirst
    | looked => exact ih hrest ended
    | ran => exact (ih hrest ended).trans hcursor
    | broken =>
      obtain ⟨-, rfl⟩ := rest.eq_nil_of_raised hrest
      rfl
    | halted here =>
      subst ended
      cases here
    | _ => cases ended

/-- Windows one behind the other, each in whatever world there is by then and however it ends, with
the moves in them. -/
inductive Windows (c : Settings) (first : Schedule) : List Move → Schedule → Prop
  | none : Windows c first [] first
  | next {past ms : List Move} {s s' : Schedule} {w w' : World} {r : Except Cluster.Escape Unit}
    (earlier : Windows c first past s) (ends : Ends (runOnce c) s w r s' w')
    (path : Path c ⟨.fresh, s, w⟩ ms ⟨Point.done.after r, s', w'⟩)
    (within : ∀ m ∈ ms, m.inWindow = true) : Windows c first (past ++ ms) s'

/-- Between windows the cursor is the one behind which the next watch is to start, or there is
none. -/
theorem Windows.held (windows : Windows c first past s) (fresh : first.cursor = .null)
    (w : World) : Held past ⟨.fresh, s, w⟩ := by
  induction windows generalizing w with
  | none => exact Or.inr ⟨fresh, rfl⟩
  | next _ _ path _ ih =>
    exact (path.held (ih _)).imp_right (fun hlack => ⟨hlack.1, rfl⟩)

/-- What the moves of a window do about the cursor, behind the moves of the windows before it. -/
structure Lawful (c : Settings) (settings : Sync.Settings) (past : List Move) (s : Schedule)
    (w : World) (ms : List Move) (r : Except Cluster.Escape Unit) (s' : Schedule) (w' : World) :
    Prop where
  path : Path c ⟨.fresh, s, w⟩ ms ⟨Point.done.after r, s', w'⟩
  /-- The moves account for all lists, watches and reconciles. -/
  asked : w'.asked = w.asked ++ ms.flatMap (Move.asks c settings)
  resumes : ∀ before cursor seconds after, ms = before ++ .opened cursor seconds :: after →
    Resumes (past ++ before) cursor
  /-- A list is made exactly when no cursor is held, and before anything else. -/
  lists : ∃ m rest, ms = m :: rest ∧ (m.lists = true ↔ s.cursor = .null) ∧
    ∀ m ∈ rest, m.lists = false
  enlists : ∀ ds version rest, ms = .listed ds version :: rest → ∃ v t u,
    Act.Ends (Cluster.Declarations.list c.access c.ns).run w (.ok (ds, version)) v ∧
      Enlists ds version s v t ∧ Path c ⟨.opening, t, u⟩ rest ⟨Point.done.after r, s', w'⟩
  /-- A list that fails ends the window with its error and leaves the schedule. -/
  unlisted : ∀ e, .unlisted e ∈ ms → ms = [.unlisted e] ∧ r = .error e ∧ s' = s
  /-- A stream that fails ends the window with its error and leaves the schedule as the moves before
  have left it, -/
  fails : ∀ before e after, ms = before ++ .failed e :: after → isGone e.status = false →
    after = [] ∧ r = .error (.cluster e) ∧
      ∃ items v, Path c ⟨.fresh, s, w⟩ before ⟨.watching items, s', v⟩
  /-- unless its watch has expired: then the cursor is given up. -/
  lapses : ∀ before e after, ms = before ++ .failed e :: after → isGone e.status = true →
    (∃ rest, after = .expired :: rest) ∧ s'.cursor = .null
  /-- A window that ends with an error ends with the error of its last move. -/
  raises : ∀ e, r = .error e → ∃ before m, ms = before ++ [m] ∧ m.error? = some e

private theorem Point.after_eq_raised {e : Cluster.Escape} (h : Point.done.after r = .raised e) :
    r = .error e := by
  cases r with
  | ok u => cases h
  | error e' =>
    cases h
    rfl

section

variable (path : Path c ⟨.fresh, s, w⟩ ms ⟨Point.done.after r, s', w'⟩)
  (within : ∀ m ∈ ms, m.inWindow = true)

include path within

/-- A window begins with a list or with the cursor that it holds. -/
theorem Path.lists_first : ∃ m rest, ms = m :: rest ∧ (m.lists = true ↔ s.cursor = .null) ∧
    ∀ m ∈ rest, m.lists = false := by
  generalize hend : Point.done.after r = p at path
  cases path with
  | none => cases r <;> cases hend
  | @cons _ _ _ m rest first later =>
    obtain ⟨hfirst, hrest⟩ := List.forall_mem_cons.mp within
    refine ⟨m, rest, rfl, ?_, later.unlisting hrest (first.not_fresh hfirst).1⟩
    cases first with
    | listed free => exact iff_of_true rfl free
    | unlisted free => exact iff_of_true rfl free
    | resumed held => exact iff_of_false nofun held
    | looked here | ran here | broken here | halted here => cases here

/-- A listing that fails at the start is the only move, and nothing is scheduled. -/
theorem Path.unlisted {e : Cluster.Escape} (fails : .unlisted e ∈ ms) :
    ms = [.unlisted e] ∧ r = .error e ∧ s' = s := by
  obtain ⟨m, rest, rfl, -, hrest⟩ := path.lists_first within
  obtain rfl | hlater := List.mem_cons.mp fails
  · cases path with
    | cons first later =>
      cases first with
      | unlisted =>
        obtain ⟨rfl, hend⟩ := later.eq_nil_of_raised (List.forall_mem_cons.mp within).2
        obtain ⟨hpoint, rfl, -⟩ := State.mk.inj hend
        exact ⟨rfl, Point.after_eq_raised hpoint, rfl⟩
  · cases hrest _ hlater

private theorem Path.fails {before after : List Move} {e : ClusterError}
    (hsplit : ms = before ++ .failed e :: after) (lasting : isGone e.status = false) :
    after = [] ∧ r = .error (.cluster e) ∧
      ∃ items v, Path c ⟨.fresh, s, w⟩ before ⟨.watching items, s', v⟩ := by
  subst hsplit
  obtain ⟨-, hlater⟩ := List.forall_mem_append.mp within
  obtain ⟨x, hbefore, hrest⟩ := path_append.mp path
  cases hrest with
  | cons failing rest =>
    cases failing with
    | lapsed gone => cases lasting.symm.trans gone
    | failed =>
      obtain ⟨rfl, hend⟩ := rest.eq_nil_of_raised (List.forall_mem_cons.mp hlater).2
      obtain ⟨hpoint, rfl, -⟩ := State.mk.inj hend
      exact ⟨rfl, Point.after_eq_raised hpoint, _, _, hbefore⟩

private theorem Path.lapses {before after : List Move} {e : ClusterError}
    (hsplit : ms = before ++ .failed e :: after) (gone : isGone e.status = true) :
    (∃ rest, after = .expired :: rest) ∧ s'.cursor = .null := by
  subst hsplit
  obtain ⟨-, hlater⟩ := List.forall_mem_append.mp within
  obtain ⟨x, -, hrest⟩ := path_append.mp path
  cases hrest with
  | cons failing rest =>
    have hwithin := (List.forall_mem_cons.mp hlater).2
    cases failing with
    | failed lasting => cases lasting.symm.trans gone
    | lapsed =>
      generalize hend : Point.done.after r = p at rest
      cases rest with
      | none => cases r <;> cases hend
      | cons expiring last =>
        cases expiring with
        | expired => exact ⟨⟨_, rfl⟩, last.cursor_of_done (List.forall_mem_cons.mp hwithin).2 rfl⟩
        | looked here | ran here | broken here | halted here => cases here

end

private theorem Path.enlists (path : Path c ⟨.fresh, s, w⟩ (.listed ds version :: ms) y) :
    ∃ v t u, Act.Ends (Cluster.Declarations.list c.access c.ns).run w (.ok (ds, version)) v ∧
      Enlists ds version s v t ∧ Path c ⟨.opening, t, u⟩ ms y := by
  cases path with
  | cons first rest =>
    cases first with
    | listed free list ends => exact ⟨_, _, _, list, resync_taken list ends, rest⟩

/-! ### Main result -/

/-- Watch cursor law.  However the windows before it have ended, and whatever the world is by then,
a window opens its watch behind the version that the events have told last since the last list, or
behind that list; it makes a list exactly when no cursor is held, and enlists all of it; and if its
list or its stream fails it ends with that error and leaves the schedule as the last completed move
has left it, unless the watch has expired. -/
theorem watches_resume (hreconcile : c.reconcile = Sync.reconcile settings)
    (fresh : first.cursor = .null) (earlier : Windows c first past s)
    (h : Ends (runOnce c) s w r s' w') :
    ∃ ms, Windows c first (past ++ ms) s' ∧ Lawful c settings past s w ms r s' w' := by
  obtain ⟨ms, path, within⟩ := runOnce_leads h
  refine ⟨ms, earlier.next h path within, path, (path.asks hreconcile).asked, ?_,
    path.lists_first within, ?_, fun _ => path.unlisted within, fun _ _ _ => path.fails within,
    fun _ _ _ => path.lapses within, ?_⟩
  · rintro before cursor seconds after rfl
    exact path.resumes (earlier.held fresh w)
  · rintro ds version rest rfl
    exact path.enlists
  · rintro e rfl
    exact path.raises nofun

namespace Sample

/-- The world at noon, with a list of one declaration and with a watch that breaks behind an event
which tells a version. -/
def breakingWorld : World :=
  let told : Json := (Sync.Sample.object []).setMember "metadata"
    (.obj [("name", .str "app"), ("namespace", .str "default"), ("resourceVersion", .str "9")])
  { World.atTime Sync.Sample.noon with
    listOverride := some (.obj [("metadata", .obj [("resourceVersion", .str "7")]),
      ("items", .arr [Sync.Sample.object []])])
    windows := [[.event (.obj [("type", .str "ADDED"), ("object", told)]),
      .failure (.refused (some 500) none)]] }

/-- A controller that holds nothing makes a window there. -/
def brokenWindow : (Except Cluster.Escape Unit × Schedule) × World :=
  StateT.run ((runOnce controller).run.run .empty) breakingWorld

/-- It makes another one at once. -/
def nextWindow : (Except Cluster.Escape Unit × Schedule) × World :=
  StateT.run ((runOnce controller).run.run brokenWindow.1.2) brokenWindow.2

/-- What a call asks for: all declarations, one with a name, or what is behind a version. -/
def wanted : Call → String
  | .watch _ cursor _ => "behind " ++ ((cursor.bind Json.text?).getD "now")
  | .getDeclaration key _ => key.name
  | _ => "all"

end Sample

set_option maxRecDepth 10000 in
/-- The first window lists, runs the declaration, watches behind the list, runs the declaration
again and fails; the second one does not list and watches behind the event. -/
theorem watches_resume_behind_event :
    Sample.brokenWindow.1.1.toOption = none ∧
    Sample.nextWindow.1.1.toOption = some () ∧
    Sample.nextWindow.2.asked.map Sample.wanted = ["all", "app", "behind 7", "app", "behind 9"] ∧
    ∃ past ms, Windows Sample.controller .empty past Sample.brokenWindow.1.2 ∧
      Lawful Sample.controller Sync.Sample.settings past Sample.brokenWindow.1.2
        Sample.brokenWindow.2 ms Sample.nextWindow.1.1 Sample.nextWindow.1.2
        Sample.nextWindow.2 := by
  have hbroken : Ends (runOnce Sample.controller) .empty Sample.breakingWorld
      Sample.brokenWindow.1.1 Sample.brokenWindow.1.2 Sample.brokenWindow.2 := rfl
  have hnext : Ends (runOnce Sample.controller) Sample.brokenWindow.1.2 Sample.brokenWindow.2
      Sample.nextWindow.1.1 Sample.nextWindow.1.2 Sample.nextWindow.2 := rfl
  refine ⟨by decide +kernel, by decide +kernel, by decide +kernel, ?_⟩
  obtain ⟨past, hpast, -⟩ := watches_resume rfl rfl .none hbroken
  obtain ⟨ms, -, hlawful⟩ := watches_resume rfl rfl hpast hnext
  exact ⟨[] ++ past, ms, hpast, hlawful⟩

end SecretSync.Controller

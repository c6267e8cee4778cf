import SecretSync.Proofs.Controller.Due
import SecretSync.Proofs.Controller.Report
import SecretSync.Proofs.Controller.Stop
import SecretSync.Proofs.Time.Seconds

/-!
# How long a watch stays open

A watch is asked for until just behind the earliest due time, for one second at least and for no
longer than a limit.  So it outlasts the time that is left by a second at most, and when it ends by
itself below the limit, the key that was due first is found due.  The time that is left is rounded
before its whole seconds are counted; that changes nothing unless the limit is beyond `2 ^ 34`
seconds.
-/

namespace SecretSync.Controller

variable {c : Settings} {settings : Sync.Settings} {key : ObjectKey} {s s' : Schedule}
  {w w' v : World} {time now : Time.Instant} {limit seconds : Int} {x y z : State} {ms : List Move}

/-! ### The earliest due time -/

/-- A key is due at a time, and none is due earlier. -/
structure Schedule.FirstDue (key : ObjectKey) (time : Time.Instant) (s : Schedule) : Prop where
  due : s.due.get? key = some time
  first : ∀ other later, s.due.get? other = some later → time ≤ later

private theorem earlier_cases (a b : Time.Instant) :
    (if b < a then b else a) = a ∧ a ≤ b ∨ (if b < a then b else a) = b ∧ b ≤ a := by
  by_cases hlt : b < a
  · exact Or.inr ⟨if_pos hlt, Nat.le_of_lt hlt⟩
  · exact Or.inl ⟨if_neg hlt, Nat.le_of_not_lt hlt⟩

/-- Keeping the earlier of two all along leads to one of the times, and none is earlier. -/
theorem foldl_earlier (t : Time.Instant) (rest : List Time.Instant) :
    rest.foldl (fun a b => if b < a then b else a) t ∈ t :: rest ∧
      ∀ u ∈ t :: rest, rest.foldl (fun a b => if b < a then b else a) t ≤ u := by
  induction rest generalizing t with
  | nil => exact ⟨List.mem_singleton_self t, List.forall_mem_singleton.mpr (Nat.le_refl t.micros)⟩
  | cons b rest ih =>
    rw [List.foldl_cons]
    rcases earlier_cases t b with ⟨heq, hle⟩ | ⟨heq, hle⟩
    · rw [heq]
      obtain ⟨hmem, hleast⟩ := ih t
      obtain ⟨ht, hrest⟩ := List.forall_mem_cons.mp hleast
      exact ⟨List.cons_subset_cons t (List.subset_cons_self b rest) hmem,
        List.forall_mem_cons.mpr ⟨ht, List.forall_mem_cons.mpr ⟨Nat.le_trans ht hle, hrest⟩⟩⟩
    · rw [heq]
      obtain ⟨hmem, hleast⟩ := ih b
      have hb := hleast b List.mem_cons_self
      exact ⟨List.mem_cons_of_mem t hmem, List.forall_mem_cons.mpr ⟨Nat.le_trans hb hle, hleast⟩⟩

private theorem Schedule.mem_values : time ∈ s.due.values ↔ ∃ key, s.due.get? key = some time := by
  rw [Dict.values, List.mem_map]
  constructor
  · rintro ⟨⟨key, _⟩, hmem, rfl⟩
    exact ⟨key, Dict.mem_entries_iff.mp hmem⟩
  · rintro ⟨key, hdue⟩
    exact ⟨(key, time), Dict.mem_entries_iff.mpr hdue, rfl⟩

private theorem Schedule.earliest?_eq_none (h : s.earliest? = none) (key : ObjectKey) :
    s.due.get? key = none := by
  unfold Schedule.earliest? at h
  split at h
  · next hempty =>
    rw [Option.eq_none_iff_forall_ne_some]
    intro time hdue
    have hmem := Schedule.mem_values.mpr ⟨key, hdue⟩
    rw [hempty] at hmem
    cases hmem
  · cases h

/-- The earliest due time is that of a key which is due first. -/
theorem Schedule.exists_firstDue (h : s.earliest? = some time) : ∃ key, s.FirstDue key time := by
  unfold Schedule.earliest? at h
  split at h
  · cases h
  next t rest hvalues =>
  obtain ⟨hmem, hleast⟩ := foldl_earlier t rest
  rw [Option.some.inj h, ← hvalues] at hmem hleast
  obtain ⟨key, hdue⟩ := Schedule.mem_values.mp hmem
  refine ⟨key, hdue, ?_⟩
  intro other later hlater
  exact hleast later (Schedule.mem_values.mpr ⟨other, hlater⟩)

/-- The first entry that is due is the earliest. -/
theorem Schedule.FirstDue.earliest? (h : s.FirstDue key time) : s.earliest? = some time := by
  cases hearliest : s.earliest? with
  | none => cases (Schedule.earliest?_eq_none hearliest key).symm.trans h.due
  | some other =>
    obtain ⟨_, hother⟩ := Schedule.exists_firstDue hearliest
    have hle := h.first _ _ hother.due
    exact congrArg some (Time.Instant.ext (Nat.le_antisymm (hother.first _ _ h.due) hle))

/-! ### Windows -/

/-- How long a watch may stay open, with the time that is left taken exactly. -/
def Schedule.exactWindow (limit : Int) (now : Time.Instant) (s : Schedule) : Int :=
  match s.earliest? with
  | none => limit
  | some earliest => windowSeconds limit (Time.truncate (earliest.since now).exact)

/-- What is asked of the seconds for which a watch stays open. -/
structure FitsWindow (limit : Int) (slack : ℚ) (s : Schedule) (now : Time.Instant)
    (seconds : Int) : Prop where
  atLeastOne : 1 ≤ seconds
  limited : seconds ≤ limit
  /-- The watch outlasts the time that is left by no more than the slack; nothing is left behind the
  due time. -/
  close : ∀ key time, s.FirstDue key time → (seconds : ℚ) ≤ max 0 (time.exact - now.exact) + slack
  /-- Below the limit something is due, and first before the watch ends. -/
  behind : seconds < limit → (∃ key time, s.FirstDue key time) ∧
    ∀ key time, s.FirstDue key time → time.exact < now.exact + seconds

private theorem windowSeconds_bounds (hlimit : 1 ≤ limit) (left : Int) :
    1 ≤ Schedule.windowSeconds limit left ∧ Schedule.windowSeconds limit left ≤ limit := by
  unfold Schedule.windowSeconds
  omega

private theorem windowSeconds_le (limit : Int) (left : ℚ) :
    (Schedule.windowSeconds limit (Time.truncate left) : ℚ) ≤ max 0 left + 1 := by
  have hle : Schedule.windowSeconds limit (Time.truncate left) ≤
      max 0 (Time.truncate left) + 1 := by
    unfold Schedule.windowSeconds
    omega
  calc (Schedule.windowSeconds limit (Time.truncate left) : ℚ)
      ≤ max 0 (Time.truncate left : ℚ) + 1 := by exact_mod_cast hle
    _ ≤ max 0 left + 1 := by
      have hcut : max 0 (Time.truncate left : ℚ) ≤ max 0 left :=
        max_le (le_max_left 0 left) (Time.truncate_le left)
      linarith

private theorem lt_windowSeconds {left : ℚ}
    (hbelow : Schedule.windowSeconds limit (Time.truncate left) < limit) :
    left < Schedule.windowSeconds limit (Time.truncate left) := by
  have hle : Time.truncate left + 1 ≤ Schedule.windowSeconds limit (Time.truncate left) := by
    unfold Schedule.windowSeconds at hbelow ⊢
    omega
  calc left < (Time.truncate left + 1 : ℚ) := Time.lt_truncate_add_one left
    _ ≤ Schedule.windowSeconds limit (Time.truncate left) := by exact_mod_cast hle

private theorem exactWindow_of_earliest (hearliest : s.earliest? = some time) :
    s.exactWindow limit now =
      Schedule.windowSeconds limit (Time.truncate (time.exact - now.exact)) := by
  rw [Schedule.exactWindow, hearliest, ← Time.Duration.exact_since]

/-- The exact window fits with a second of slack. -/
theorem fitsWindow_exactWindow (hlimit : 1 ≤ limit) (s : Schedule) (now : Time.Instant) :
    FitsWindow limit 1 s now (s.exactWindow limit now) := by
  cases hearliest : s.earliest? with
  | none =>
    rw [Schedule.exactWindow, hearliest]
    refine ⟨hlimit, le_refl limit, ?_, fun hbelow => absurd hbelow (lt_irrefl limit)⟩
    intro key time hfirst
    cases hearliest.symm.trans hfirst.earliest?
  | some earliest =>
    rw [exactWindow_of_earliest hearliest]
    have hbounds := windowSeconds_bounds hlimit (Time.truncate (earliest.exact - now.exact))
    refine ⟨hbounds.1, hbounds.2, ?_, ?_⟩
    · intro key time hfirst
      cases hearliest.symm.trans hfirst.earliest?
      exact windowSeconds_le limit _
    · intro hbelow
      obtain ⟨first, hfirst⟩ := Schedule.exists_firstDue hearliest
      refine ⟨⟨first, earliest, hfirst⟩, ?_⟩
      intro key time hfirst'
      cases hearliest.symm.trans hfirst'.earliest?
      have hleft := lt_windowSeconds hbelow
      linarith

/-- A window that fits with some slack fits with more. -/
theorem FitsWindow.mono {slack slack' : ℚ} (fits : FitsWindow limit slack s now seconds)
    (hle : slack ≤ slack') : FitsWindow limit slack' s now seconds where
  atLeastOne := fits.atLeastOne
  limited := fits.limited
  close := fun key time hfirst => (fits.close key time hfirst).trans (by linarith)
  behind := fits.behind

/-- A second more needs a second of slack more. -/
theorem FitsWindow.next {slack : ℚ} (fits : FitsWindow limit slack s now seconds)
    (hlimit : seconds + 1 ≤ limit) : FitsWindow limit (slack + 1) s now (seconds + 1) where
  atLeastOne := by linarith [fits.atLeastOne]
  limited := hlimit
  close := by
    intro key time hfirst
    have hclose := fits.close key time hfirst
    push_cast
    linarith
  behind := by
    intro _
    obtain ⟨hfirst, hbehind⟩ := fits.behind (by linarith)
    refine ⟨hfirst, ?_⟩
    intro key time hfirst
    have hlt := hbehind key time hfirst
    push_cast
    linarith

/-! ### Rounded windows -/

/-- A window may be a second longer than the exact one if that is beyond `2 ^ 34` seconds. -/
def RoundedWindow (exact seconds : Int) : Prop :=
  seconds = exact ∨ 2 ^ 34 < exact ∧ seconds = exact + 1

private theorem roundedWindow_since (hlimit : 1 ≤ limit) (time now : Time.Instant) :
    RoundedWindow (Schedule.windowSeconds limit (Time.truncate (time.exact - now.exact)))
      (Schedule.windowSeconds limit (time.since now).roundedSeconds) := by
  have hcases := Time.Duration.roundedSeconds_cases (Time.Duration.natAbs_since_lt time now)
  rw [← Time.Duration.exact_since, Time.Duration.truncate_exact]
  unfold RoundedWindow Schedule.windowSeconds
  omega

private theorem FitsWindow.rounded (fits : FitsWindow limit 1 s now (s.exactWindow limit now))
    (hlimit : seconds ≤ limit) (rounded : RoundedWindow (s.exactWindow limit now) seconds) :
    FitsWindow limit 2 s now seconds := by
  rcases rounded with rfl | ⟨-, rfl⟩
  · exact fits.mono (by norm_num)
  · have hnext := fits.next hlimit
    norm_num at hnext
    exact hnext

/-- The seconds that the controller counts are those of the exact window, or one more. -/
theorem secondsUntilDue_rounded (hlimit : 1 ≤ c.watchTimeout) {r : Except Cluster.Escape Int}
    (reading : Act.Ends Act.now w now v) (h : Ends (secondsUntilDue c) s w r s' w') :
    ∃ seconds, r = .ok seconds ∧ seconds ≤ c.watchTimeout ∧
      RoundedWindow (s.exactWindow c.watchTimeout now) seconds := by
  rw [secondsUntilDue, ends_getThe_bind] at h
  cases hearliest : s.earliest? with
  | none =>
    rw [hearliest] at h
    obtain ⟨rfl, -, -⟩ := ends_pure.mp h
    refine ⟨_, rfl, le_refl _, Or.inl ?_⟩
    rw [Schedule.exactWindow, hearliest]
  | some earliest =>
    rw [hearliest] at h
    obtain ⟨now', u, reading', h⟩ := ends_act_bind.mp h
    cases reading.symm.trans reading'
    obtain ⟨rfl, -, -⟩ := ends_pure.mp h
    refine ⟨_, rfl, (windowSeconds_bounds hlimit _).2, ?_⟩
    rw [exactWindow_of_earliest hearliest]
    exact roundedWindow_since hlimit earliest now

private theorem secondsUntilDue_fits (hlimit : 1 ≤ c.watchTimeout)
    (reading : Act.Ends Act.now w now v) (h : Ends (secondsUntilDue c) s w (.ok seconds) s' w') :
    FitsWindow c.watchTimeout 2 s now seconds := by
  obtain ⟨_, heq, hle, rounded⟩ := secondsUntilDue_rounded hlimit reading h
  cases heq
  exact (fitsWindow_exactWindow hlimit s now).rounded hle rounded

/-! ### Watches of a run -/

/-- A watch is timed for a second at least and no longer than the limit. -/
theorem Step.timed_bounds (hlimit : 1 ≤ c.watchTimeout) (step : Step c x m y)
    (timed : y.point = .timed seconds) : 1 ≤ seconds ∧ seconds ≤ c.watchTimeout := by
  cases step with
  | timed going left =>
    cases timed
    have fits := secondsUntilDue_fits hlimit (Act.ends_self _ _) left
    exact ⟨fits.atLeastOne, fits.limited⟩
  | looked here =>
    subst timed
    cases here
  | ran here =>
    subst timed
    cases here
  | _ => cases timed

/-- Every watch on a path that does not begin in front of one keeps to these limits. -/
theorem Path.opened_bounds (hlimit : 1 ≤ c.watchTimeout) (path : Path c x ms y) {cursor : Json}
    (untimed : ∀ n, x.point = .timed n → 1 ≤ n ∧ n ≤ c.watchTimeout)
    (hm : .opened cursor seconds ∈ ms) : 1 ≤ seconds ∧ seconds ≤ c.watchTimeout := by
  induction path with
  | none => cases hm
  | cons first _ ih =>
    obtain rfl | hrest := List.mem_cons.mp hm
    · cases first with
      | opened => exact untimed _ rfl
    · exact ih (fun _ => first.timed_bounds hlimit) hrest

private theorem run_watches (hlimit : 1 ≤ c.watchTimeout)
    (hreconcile : c.reconcile = Sync.reconcile settings)
    {r : Except Cluster.Escape Unit} (h : Ends (run c) s w r s' w') :
    ∃ calls, w'.asked = w.asked ++ calls ∧ ∀ ns cursor seconds,
      .watch ns cursor seconds ∈ calls → 1 ≤ seconds ∧ seconds ≤ c.watchTimeout := by
  obtain ⟨v, hwindows, hasked, -⟩ := run_ends h
  obtain ⟨ms, hms⟩ := runWindows_path hwindows
  refine ⟨_, hasked.trans (hms.asks hreconcile).asked, ?_⟩
  intro ns cursor seconds hcall
  obtain ⟨m, hm, hcall⟩ := List.mem_flatMap.mp hcall
  cases m with
  | opened cursor' seconds' =>
    cases List.mem_singleton.mp hcall
    exact hms.opened_bounds hlimit nofun hm
  | _ => simp [Move.asks] at hcall

/-! ### The pass behind a window -/

/-- A watch is timed and opened for some seconds, and some moves later the controller stands at
another point.  Nothing is broken off in between, and a key is neither run nor removed. -/
def Watched (c : Settings) (key : ObjectKey) (x : State) (seconds : Int) (z : State) : Prop :=
  ∃ cursor y ms, Path c x [.timed seconds, .opened cursor seconds] y ∧ Path c y ms z ∧
    ∀ m ∈ ms, (∀ k e, m ≠ .broken k e) ∧ ∀ h ∈ m.happenings, ¬ h.Runs key ∧ ¬ h.Removes key

/-- A pass that reads the clock finds a key due.  The key is in its row, and run unless a run is
broken off or the controller is asked to stop. -/
structure FindsDue (c : Settings) (key : ObjectKey) (now : Time.Instant) (s : Schedule) (w : World)
    (s' : Schedule) (w' : World) : Prop where
  inRow : key ∈ (dueBefore now s.inOrder).map Prod.fst
  runs : ∃ runs broken, Passed c now s.inOrder s w runs broken s' w' ∧
    ((∃ result ended, .ran key result ended ∈ runs) ∨ broken ≠ none ∨ w'.stopRequested = true)

/-- A pass finds a key due that was due before it reads the clock. -/
theorem processDue_finds {r : Except Cluster.Escape Nat} (hdue : DueBy key time s)
    (reading : Act.Ends Act.now w now v) (hle : time ≤ now)
    (h : Ends (processDue c) s w r s' w') : FindsDue c key now s v s' w' := by
  obtain ⟨now', v', runs, broken, reading', pass, -, hreached⟩ := processDue_reaches hdue h
  cases reading.symm.trans reading'
  obtain ⟨due, hdue, hle'⟩ := hdue
  constructor
  · refine List.mem_map.mpr ⟨(key, due), ?_, rfl⟩
    exact ((dueRow_inOrder now s).mem key due).mpr ⟨hdue, Nat.le_trans hle' hle⟩
  refine ⟨runs, broken, pass, ?_⟩
  rcases hreached with hran | ⟨e, rfl⟩ | ⟨k, e, -, rfl⟩ | hstop | hearly
  · exact Or.inl hran
  · exact Or.inr (Or.inl nofun)
  · exact Or.inr (Or.inl nofun)
  · exact Or.inr (Or.inr hstop)
  · exact absurd hle (Nat.not_le.mpr hearly)

/-- What was due first when a watch was opened stays due. -/
theorem Watched.dueBy (watched : Watched c key x seconds z)
    (hdue : x.schedule.due.get? key = some time) : DueBy key time z.schedule := by
  obtain ⟨cursor, y, ms, opened, path, quiet⟩ := watched
  have happened := (opened.trans path).happened
    (List.forall_mem_append.mpr ⟨by simp, fun m hm => (quiet m hm).1⟩)
  refine happened.dueBy ⟨time, hdue, Nat.le_refl time.micros⟩ (fun h hh => ?_)
  obtain ⟨m, hm, hh⟩ := List.mem_flatMap.mp hh
  obtain hopening | hlater := List.mem_append.mp hm
  · obtain rfl | hm := List.mem_cons.mp hopening
    · cases hh
    · cases List.mem_singleton.mp hm
      cases hh
  · exact (quiet m hlater).2 h hh

private theorem Watched.fits (hlimit : 1 ≤ c.watchTimeout) (watched : Watched c key x seconds z)
    (reading : Act.Ends Act.now x.world now v) :
    FitsWindow c.watchTimeout 2 x.schedule now seconds := by
  obtain ⟨cursor, y, ms, opened, -, -⟩ := watched
  cases opened with
  | cons timed _ =>
    cases timed with
    | timed going left => exact secondsUntilDue_fits hlimit reading left

/-- For every schedule and reading of the clock:

* with the time that is left taken exactly, a watch stays open for a second at least and no longer
  than the limit, outlasts what is left to the earliest due time by a second at most, and ends
  strictly behind that time if it is shorter than the limit;
* what the controller counts is the same, or one second more where that is beyond `2 ^ 34` seconds,
  so that it keeps to the limits and ends behind the due time too;
* every watch that a run of the controller asks for keeps to the limits;
* and a pass that reads the clock no earlier than when the window ends finds the key due that was
  due first, if the window was shorter than the limit and nothing has happened to the key. -/
theorem watch_window_fits (hlimit : 1 ≤ c.watchTimeout)
    (hreconcile : c.reconcile = Sync.reconcile settings) :
    (∀ s now, FitsWindow c.watchTimeout 1 s now (s.exactWindow c.watchTimeout now)) ∧
    (∀ s w now v, Act.Ends Act.now w now v →
      ∃ seconds w', Ends (secondsUntilDue c) s w (.ok seconds) s w' ∧
        FitsWindow c.watchTimeout 2 s now seconds ∧
        RoundedWindow (s.exactWindow c.watchTimeout now) seconds) ∧
    (∀ s w r s' w', Ends (run c) s w r s' w' →
      ∃ calls, w'.asked = w.asked ++ calls ∧ ∀ ns cursor seconds,
        .watch ns cursor seconds ∈ calls → 1 ≤ seconds ∧ seconds ≤ c.watchTimeout) ∧
    (∀ x z key time now u seconds, Act.Ends Act.now x.world now u →
      x.schedule.FirstDue key time → Watched c key x seconds z → seconds < c.watchTimeout →
      ∀ later v r s' w', Act.Ends Act.now z.world later v → now.exact + seconds ≤ later.exact →
        Ends (processDue c) z.schedule z.world r s' w' →
        FindsDue c key later z.schedule v s' w') := by
  refine ⟨fitsWindow_exactWindow hlimit, ?_, ?_, ?_⟩
  · intro s w now v reading
    obtain ⟨r, s', w', h⟩ := exists_ends (secondsUntilDue c) s w
    obtain ⟨rfl, -⟩ := secondsUntilDue_ends h
    obtain ⟨seconds, rfl, -, rounded⟩ := secondsUntilDue_rounded hlimit reading h
    exact ⟨seconds, w', h, secondsUntilDue_fits hlimit reading h, rounded⟩
  · intro s w r s' w' h
    exact run_watches hlimit hreconcile h
  · intro x z key time now u seconds reading hfirst watched hbelow later v r s' w' reading' hfull h
    have hbehind := ((watched.fits hlimit reading).behind hbelow).2 key time hfirst
    have hle : time ≤ later :=
      Nat.le_of_lt (Time.Instant.exact_lt_iff.mp (lt_of_lt_of_le hbehind hfull))
    exact processDue_finds (watched.dueBy hfirst.due) reading' hle h

namespace Sample

open Sync.Sample (noon)

/-- Half a second after ten seconds past noon. -/
def tenPast : Time.Instant := ⟨63850161610500000, by decide⟩

/-- Eleven seconds past noon. -/
def elevenPast : Time.Instant := ⟨63850161611000000, by decide⟩

/-- A schedule with one key. -/
def ahead : Schedule := Schedule.empty.enqueueAt Sync.Sample.key tenPast

/-- The world at noon, with a watch over which nothing comes for eleven seconds. -/
def quietWorld : World := { World.atTime noon with windows := [[.advance (.ofSeconds 11)]] }

/-- The world with that watch open. -/
def openedWorld : World := { quietWorld.clockRead.noted (.watch none none 11) with windows := [] }

/-- The controller before the watch. -/
def beforeWatch : State := ⟨.opening, ahead, quietWorld⟩

/-- The controller behind the watch. -/
def behindWatch : State := ⟨.done, ahead, openedWorld.advance (.ofSeconds 11)⟩

private theorem secondsUntilDue_ahead :
    Ends (secondsUntilDue controller) ahead quietWorld (.ok 11) ahead quietWorld.clockRead := by
  unfold secondsUntilDue
  refine ends_getThe_bind.mpr (ends_act_bind.mpr ⟨noon, quietWorld.clockRead, rfl, ?_⟩)
  exact ends_pure.mpr ⟨congrArg Except.ok (by decide +kernel), rfl, rfl⟩

private theorem watched_ahead : Watched controller Sync.Sample.key beforeWatch 11 behindWatch := by
  have opened : Path controller beforeWatch [.timed 11, .opened .null 11]
      ⟨.watching [.advance (.ofSeconds 11)], ahead, openedWorld⟩ :=
    .cons (.timed rfl secondsUntilDue_ahead) (Step.opened rfl).path
  refine ⟨_, _, [.skipped, .drained], opened, .cons (.skipped rfl) (.cons .drained (.none _)), ?_⟩
  simp [Move.happenings]

private theorem firstDue_ahead : ahead.FirstDue Sync.Sample.key tenPast where
  due := by decide +kernel
  first := by
    intro other later h
    have hmem : (other, later) ∈ [(Sync.Sample.key, tenPast)] := Dict.mem_entries_iff.mpr h
    cases List.mem_singleton.mp hmem
    exact Nat.le_refl _

end Sample

/-- Ten and a half seconds are left, so the watch is asked for eleven seconds; the pass behind it
finds the key due. -/
theorem watch_window_fits_past_noon :
    Sample.ahead.exactWindow defaultWatchTimeout Sync.Sample.noon = 11 ∧
    FitsWindow defaultWatchTimeout 1 Sample.ahead Sync.Sample.noon 11 ∧
    (∃ seconds w', Ends (secondsUntilDue Sample.controller) Sample.ahead Sample.quietWorld
      (.ok seconds) Sample.ahead w' ∧ RoundedWindow 11 seconds) ∧
    (∃ r s' w', Ends (run Sample.controller) .empty Sample.quietWorld r s' w' ∧
      ∀ ns cursor seconds, .watch ns cursor seconds ∈ w'.asked →
        1 ≤ seconds ∧ seconds ≤ defaultWatchTimeout) ∧
    ∃ v s' w',
      FindsDue Sample.controller Sync.Sample.key Sample.elevenPast Sample.ahead v s' w' := by
  have hlimit : 1 ≤ Sample.controller.watchTimeout := by decide
  have hreconcile : Sample.controller.reconcile = Sync.reconcile Sync.Sample.settings := rfl
  obtain ⟨hexact, hrunning, hrun, hpass⟩ := watch_window_fits hlimit hreconcile
  have heleven : Sample.ahead.exactWindow defaultWatchTimeout Sync.Sample.noon = 11 := by
    rw [Schedule.exactWindow, Sample.firstDue_ahead.earliest?]
    dsimp only
    rw [Time.Duration.truncate_exact]
    decide
  refine ⟨heleven, ?_, ?_, ?_, ?_⟩
  · have hfits := hexact Sample.ahead Sync.Sample.noon
    rwa [show Sample.controller.watchTimeout = defaultWatchTimeout from rfl, heleven] at hfits
  · obtain ⟨seconds, w', hends, -, hrounded⟩ :=
      hrunning Sample.ahead Sample.quietWorld Sync.Sample.noon _ rfl
    exact ⟨seconds, w', hends, heleven ▸ hrounded⟩
  · obtain ⟨r, s', w', hends⟩ := exists_ends (run Sample.controller) .empty Sample.quietWorld
    obtain ⟨calls, hasked, hwatches⟩ := hrun _ _ _ _ _ hends
    exact ⟨r, s', w', hends, hasked ▸ hwatches⟩
  · obtain ⟨r, s', w', hends⟩ := exists_ends (processDue Sample.controller)
      Sample.behindWatch.schedule Sample.behindWatch.world
    refine ⟨_, s', w', hpass Sample.beforeWatch Sample.behindWatch Sync.Sample.key Sample.tenPast
      Sync.Sample.noon _ 11 rfl Sample.firstDue_ahead Sample.watched_ahead (by decide)
      Sample.elevenPast _ r s' w' rfl ?_ hends⟩
    norm_num [Time.Instant.exact, Sync.Sample.noon, Sample.elevenPast]

end SecretSync.Controller

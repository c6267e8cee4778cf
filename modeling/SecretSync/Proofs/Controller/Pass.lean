import SecretSync.Proofs.Controller.Ends
import SecretSync.Proofs.Controller.Tables

/-!
# What a pass over what is due runs

A pass goes through the keys in the order in which they are due.  It stops at the first one that is
not due yet, or when the controller is asked to stop; and an error breaks it off when a reconcile
ends with one, or when the time at which the next run would be due lies outside the calendar.  The
key of that run has been taken off the schedule by then, and nothing puts it back.
-/

namespace SecretSync.Controller

/-- A run that was broken off: its key, and the error that ended it. -/
structure BrokenRun where
  key : ObjectKey
  error : Cluster.Escape

variable {c : Settings} {key : ObjectKey} {now : Time.Instant}
  {order : List (ObjectKey × Time.Instant)} {runs : List Happening} {broken : Option BrokenRun}
  {s s' : Schedule} {w w' : World}

/-! ### Runs -/

/-- How a run ends: the schedule takes its result in, or it is broken off and leaves the schedule as
it was when it started. -/
theorem dispatch_ends {r : Except Cluster.Escape Unit} (h : Ends (dispatch c key) s w r s' w') :
    (∃ e, r = .error e ∧ s' = s) ∨ r = .ok () ∧ ∃ result ended v,
      Act.Ends (c.reconcile key).run w (.ok result) v ∧
        Act.Ends (noteResult c key result) v ended w' ∧ s.settle? key result ended = some s' := by
  obtain ⟨answer, v, hrun, h⟩ := ends_act_bind.mp h
  cases answer with
  | error e =>
    obtain ⟨rfl, rfl, -⟩ := ends_throw.mp h
    exact Or.inl ⟨_, rfl, rfl⟩
  | ok result =>
    obtain ⟨ended, u, hreading, h⟩ := ends_act_bind.mp h
    rw [ends_getThe_bind] at h
    cases hsettled : s.settle? key result ended with
    | none =>
      rw [hsettled] at h
      obtain ⟨rfl, rfl, -⟩ := ends_throw.mp h
      exact Or.inl ⟨_, rfl, rfl⟩
    | some t =>
      rw [hsettled] at h
      obtain ⟨rfl, rfl, rfl⟩ := ends_change.mp h
      exact Or.inr ⟨rfl, result, ended, v, hrun, hreading, hsettled⟩

private theorem ends_dispatch {result : Sync.Result} {ended : Time.Instant} {v : World}
    (ends : Act.Ends (c.reconcile key).run w (.ok result) v)
    (reading : Act.Ends (noteResult c key result) v ended w')
    (settled : s.settle? key result ended = some s') :
    Ends (dispatch c key) s w (.ok ()) s' w' := by
  refine ends_act_bind.mpr ⟨.ok result, v, ends, ends_act_bind.mpr ⟨ended, w', reading, ?_⟩⟩
  rw [ends_getThe_bind, settled]
  exact ends_change.mpr ⟨rfl, rfl, rfl⟩

/-- A run whose next one would be due outside the calendar is broken off. -/
theorem ends_dispatch_breaks {result : Sync.Result} {ended : Time.Instant} {v : World}
    (ends : Act.Ends (c.reconcile key).run w (.ok result) v)
    (reading : Act.Ends (noteResult c key result) v ended w')
    (leaves : s.settle? key result ended = none) :
    Ends (dispatch c key) s w (.error .leavesCalendar) s w' := by
  refine ends_act_bind.mpr ⟨.ok result, v, ends, ends_act_bind.mpr ⟨ended, w', reading, ?_⟩⟩
  rw [ends_getThe_bind, leaves]
  exact ends_throw.mpr ⟨rfl, rfl, rfl⟩

/-! ### Passes -/

/-- A pass over keys with their due times: the runs that ended with a result, and the run that was
broken off, if one was. -/
inductive Passed (c : Settings) (now : Time.Instant) :
    List (ObjectKey × Time.Instant) → Schedule → World → List Happening → Option BrokenRun →
      Schedule → World → Prop
  | done (s : Schedule) (w : World) : Passed c now [] s w [] none s w
  | halted {key : ObjectKey} {time : Time.Instant} {rest : List (ObjectKey × Time.Instant)}
    {s : Schedule} {w : World} (early : now < time ∨ w.stopRequested = true) :
    Passed c now ((key, time) :: rest) s w [] none s w
  | run {key : ObjectKey} {time ended : Time.Instant} {rest : List (ObjectKey × Time.Instant)}
    {s t s' : Schedule} {w v u w' : World} {result : Sync.Result} {runs : List Happening}
    {broken : Option BrokenRun} (due : ¬ now < time) (going : w.stopRequested = false)
    (ends : Act.Ends (c.reconcile key).run w (.ok result) v)
    (reading : Act.Ends (noteResult c key result) v ended u)
    (settled : (s.start key).settle? key result ended = some t)
    (later : Passed c now rest t u runs broken s' w') :
    Passed c now ((key, time) :: rest) s w (.ran key result ended :: runs) broken s' w'
  | broken {key : ObjectKey} {time : Time.Instant} {rest : List (ObjectKey × Time.Instant)}
    {s : Schedule} {w w' : World} {e : Cluster.Escape} (due : ¬ now < time)
    (going : w.stopRequested = false)
    (ends : Ends (dispatch c key) (s.start key) w (.error e) (s.start key) w') :
    Passed c now ((key, time) :: rest) s w [] (some ⟨key, e⟩) (s.start key) w'

/-- How a pass ends: with the number of its runs, or with the error that broke one off. -/
def passEnd (runs : List Happening) : Option BrokenRun → Except Cluster.Escape Nat
  | none => .ok runs.length
  | some broken => .error broken.error

/-- What a pass does with the first key of an order, if it is due and nobody has asked to stop. -/
theorem ends_dispatchAll_cons {time : Time.Instant} {r : Except Cluster.Escape Nat}
    (due : ¬ now < time) (going : w.stopRequested = false) :
    Ends (dispatchAll c now ((key, time) :: order)) s w r s' w' ↔
      Ends (do dispatch c key; return (← dispatchAll c now order) + 1) (s.start key) w r s' w' := by
  rw [dispatchAll, ends_stopRequested_bind, if_neg (not_or.mpr ⟨due, Bool.eq_false_iff.mp going⟩),
    ends_change_bind]

/-- Whatever a pass is, the controller can make it. -/
theorem Passed.ends (pass : Passed c now order s w runs broken s' w') :
    Ends (dispatchAll c now order) s w (passEnd runs broken) s' w' := by
  induction pass with
  | done => exact ends_pure.mpr ⟨rfl, rfl, rfl⟩
  | halted early =>
    rw [dispatchAll, ends_stopRequested_bind, if_pos early]
    exact ends_pure.mpr ⟨rfl, rfl, rfl⟩
  | @run _ _ _ _ _ _ _ _ _ _ _ _ _ broken due going ends reading settled later ih =>
    refine (ends_dispatchAll_cons due going).mpr
      (ends_bind.mpr (Or.inr ⟨(), _, _, ends_dispatch ends reading settled, ends_bind.mpr ?_⟩))
    cases broken with
    | none => exact Or.inr ⟨_, _, _, ih, ends_pure.mpr ⟨rfl, rfl, rfl⟩⟩
    | some b => exact Or.inl ⟨_, ih, rfl⟩
  | broken due going ends =>
    exact (ends_dispatchAll_cons due going).mpr (ends_bind.mpr (Or.inl ⟨_, ends, rfl⟩))

/-- However a pass ends, it goes this way. -/
theorem dispatchAll_passed {r : Except Cluster.Escape Nat}
    (h : Ends (dispatchAll c now order) s w r s' w') :
    ∃ runs broken, Passed c now order s w runs broken s' w' ∧ r = passEnd runs broken := by
  induction order generalizing s w r with
  | nil =>
    obtain ⟨rfl, rfl, rfl⟩ := ends_pure.mp h
    exact ⟨[], none, .done _ _, rfl⟩
  | cons entry rest ih =>
    obtain ⟨key, time⟩ := entry
    by_cases hearly : now < time ∨ w.stopRequested = true
    · rw [dispatchAll, ends_stopRequested_bind, if_pos hearly] at h
      obtain ⟨rfl, rfl, rfl⟩ := ends_pure.mp h
      exact ⟨[], none, .halted hearly, rfl⟩
    · obtain ⟨hdue, hgoing⟩ := not_or.mp hearly
      rw [Bool.not_eq_true] at hgoing
      obtain ⟨e, hrun, rfl⟩ | ⟨_, t, u, hrun, hrest⟩ :=
        ends_bind.mp ((ends_dispatchAll_cons hdue hgoing).mp h)
      · obtain ⟨_, -, rfl⟩ | ⟨⟨⟩, -⟩ := dispatch_ends hrun
        exact ⟨[], some ⟨key, e⟩, .broken hdue hgoing hrun, rfl⟩
      · obtain ⟨_, ⟨⟩, -⟩ | ⟨-, result, ended, x, hends, hreading, hsettled⟩ := dispatch_ends hrun
        obtain ⟨e, hlater, rfl⟩ | ⟨n, y, z, hlater, hlast⟩ := ends_bind.mp hrest
        · obtain ⟨runs, broken, hpassed, hr⟩ := ih hlater
          refine ⟨_, broken, .run hdue hgoing hends hreading hsettled hpassed, ?_⟩
          cases broken with
          | none => cases hr
          | some b => exact hr
        · obtain ⟨rfl, rfl, rfl⟩ := ends_pure.mp hlast
          obtain ⟨runs, broken, hpassed, hr⟩ := ih hlater
          refine ⟨_, broken, .run hdue hgoing hends hreading hsettled hpassed, ?_⟩
          cases broken with
          | none =>
            cases hr
            rfl
          | some b => cases hr

/-- A pass reads the clock and goes through the keys that are scheduled. -/
theorem processDue_passed {r : Except Cluster.Escape Nat}
    (h : Ends (processDue c) s w r s' w') :
    ∃ now v runs broken, Act.Ends Act.now w now v ∧
      Passed c now s.inOrder s v runs broken s' w' ∧ r = passEnd runs broken := by
  obtain ⟨now, v, hreading, h⟩ := ends_act_bind.mp h
  rw [ends_getThe_bind] at h
  obtain ⟨runs, broken, hpassed, hr⟩ := dispatchAll_passed h
  exact ⟨now, v, runs, broken, hreading, hpassed, hr⟩

/-- A pass ends as its row of runs does, whether it is broken off or not. -/
theorem ends_processDue {v : World} (asked : Act.Ends Act.now w now v)
    (pass : Passed c now s.inOrder s v runs broken s' w') :
    Ends (processDue c) s w (passEnd runs broken) s' w' :=
  ends_act_bind.mpr ⟨now, v, asked, ends_getThe_bind.mpr pass.ends⟩

/-- A schedule without the key whose run was broken off, if one was. -/
def Schedule.without (broken : Option ObjectKey) (s : Schedule) : Schedule :=
  match broken with
  | none => s
  | some key => s.start key

namespace Passed

/-- The runs of a pass lead to a schedule from which only the key of a run that was broken off is
missing. -/
theorem happened (pass : Passed c now order s w runs broken s' w') :
    ∃ t, Happened s runs t ∧ s' = t.without (broken.map BrokenRun.key) := by
  induction pass with
  | done s w => exact ⟨s, .none, rfl⟩
  | @halted _ _ _ s => exact ⟨s, .none, rfl⟩
  | run due going ends reading settled later ih =>
    obtain ⟨t, hlater, rfl⟩ := ih
    exact ⟨t, (Happens.ran settled).happened.trans hlater, rfl⟩
  | @broken _ _ _ s => exact ⟨s, .none, rfl⟩

/-- Only keys that are gone through and due are run. -/
theorem runs_due (pass : Passed c now order s w runs broken s' w') (key : ObjectKey) :
    (∀ h ∈ runs, h.Runs key → ∃ time, (key, time) ∈ order ∧ ¬ now < time) ∧
      (broken.map BrokenRun.key = some key → ∃ time, (key, time) ∈ order ∧ ¬ now < time) := by
  induction pass with
  | done => exact ⟨List.forall_mem_nil _, nofun⟩
  | halted => exact ⟨List.forall_mem_nil _, nofun⟩
  | @run _ _ _ rest _ _ _ _ _ _ _ _ _ _ due going ends reading settled later ih =>
    have hbehind (first : ObjectKey × Time.Instant) :
        (∃ time, (key, time) ∈ rest ∧ ¬ now < time) →
          ∃ time, (key, time) ∈ first :: rest ∧ ¬ now < time :=
      fun ⟨time, hmem, hdue⟩ => ⟨time, List.mem_cons_of_mem _ hmem, hdue⟩
    refine ⟨?_, fun hbroken => hbehind _ (ih.2 hbroken)⟩
    rw [List.forall_mem_cons]
    refine ⟨fun hruns => ?_, fun h hh hruns => hbehind _ (ih.1 h hh hruns)⟩
    cases hruns
    exact ⟨_, List.mem_cons_self, due⟩
  | broken due =>
    refine ⟨List.forall_mem_nil _, fun hbroken => ?_⟩
    cases hbroken
    exact ⟨_, List.mem_cons_self, due⟩

/-- Only keys that are gone through are run. -/
theorem runs_mem (pass : Passed c now order s w runs broken s' w') (key : ObjectKey) :
    (∀ h ∈ runs, h.Runs key → key ∈ order.map Prod.fst) ∧
      (broken.map BrokenRun.key = some key → key ∈ order.map Prod.fst) := by
  have hkey : (∃ time, (key, time) ∈ order ∧ ¬ now < time) → key ∈ order.map Prod.fst :=
    fun ⟨_, hmem, _⟩ => List.mem_map_of_mem hmem
  obtain ⟨hruns, hbroken⟩ := pass.runs_due key
  exact ⟨fun h hh hrun => hkey (hruns h hh hrun), fun heq => hkey (hbroken heq)⟩

/-- A key that is due when the clock is read for a pass is run, unless a run before it is broken off
or the controller is asked to stop. -/
theorem reaches (pass : Passed c now order s w runs broken s' w')
    (ordered : order.Pairwise (fun a b => a.2 ≤ b.2)) {time : Time.Instant}
    (hmem : (key, time) ∈ order) (hdue : time ≤ now) :
    (∃ result ended, .ran key result ended ∈ runs) ∨ broken ≠ none ∨ w'.stopRequested = true := by
  induction pass with
  | done => cases hmem
  | halted early =>
    refine Or.inr (Or.inr (early.resolve_left (fun hearly => ?_)))
    -- What comes behind a key that is not due is not due either.
    obtain ⟨hfirst, -⟩ := List.pairwise_cons.mp ordered
    obtain heq | hlater := List.mem_cons.mp hmem
    · cases heq
      exact Nat.not_lt.mpr hdue hearly
    · exact Nat.not_lt.mpr (Nat.le_trans (hfirst _ hlater) hdue) hearly
  | run due going ends reading settled later ih =>
    obtain heq | hlater := List.mem_cons.mp hmem
    · cases heq
      exact Or.inl ⟨_, _, List.mem_cons_self⟩
    · obtain ⟨result, ended, hran⟩ | hstops := ih (List.pairwise_cons.mp ordered).2 hlater
      · exact Or.inl ⟨result, ended, List.mem_cons_of_mem _ hran⟩
      · exact Or.inr hstops
  | broken => exact Or.inr (Or.inl nofun)

/-- A pass does nothing but run keys. -/
theorem is_run (pass : Passed c now order s w runs broken s' w') :
    ∀ h ∈ runs, ∃ key result ended v u, h = .ran key result ended ∧
      Act.Ends (c.reconcile key).run v (.ok result) u := by
  induction pass with
  | run due going ends reading settled later ih =>
    exact List.forall_mem_cons.mpr ⟨⟨_, _, _, _, _, rfl, ends⟩, ih⟩
  | _ => exact List.forall_mem_nil _

/-- No key is run twice in a pass. -/
theorem runs_once (pass : Passed c now order s w runs broken s' w')
    (once : (order.map Prod.fst).Nodup) {before after : List Happening} {h : Happening}
    (hsplit : runs = before ++ h :: after) (hruns : h.Runs key) :
    (∀ x ∈ after, ¬ x.Runs key) ∧ broken.map BrokenRun.key ≠ some key := by
  induction pass generalizing before with
  | done => simp at hsplit
  | halted => simp at hsplit
  | broken => simp at hsplit
  | run due going ends reading settled later ih =>
    rw [List.map_cons, List.nodup_cons] at once
    cases before with
    | nil =>
      obtain ⟨rfl, rfl⟩ := List.cons.inj hsplit
      cases hruns
      have hmem := later.runs_mem key
      exact ⟨fun x hx hagain => once.1 (hmem.1 x hx hagain), fun hbroken => once.1 (hmem.2 hbroken)⟩
    | cons first before =>
      obtain ⟨-, hlater⟩ := List.cons.inj hsplit
      exact ih once.2 hlater

end Passed

/-- The order holds the keys with the times at which they are due. -/
theorem Schedule.mem_inOrder {time : Time.Instant} :
    (key, time) ∈ s.inOrder ↔ s.due.get? key = some time := by
  rw [← Dict.mem_entries_iff]
  exact (List.mergeSort_perm s.due.entries _).mem_iff

/-- The keys of the order are those that are scheduled. -/
theorem Schedule.mem_keys_inOrder :
    key ∈ s.inOrder.map Prod.fst ↔ (s.due.get? key).isSome := by
  rw [List.mem_map, Option.isSome_iff_exists]
  constructor
  · rintro ⟨⟨_, time⟩, hmem, rfl⟩
    exact ⟨time, Schedule.mem_inOrder.mp hmem⟩
  · rintro ⟨time, hdue⟩
    exact ⟨(key, time), Schedule.mem_inOrder.mpr hdue, rfl⟩

/-- The order of due times is transitive. -/
theorem dueTime_trans (a b c : ObjectKey × Time.Instant) (hab : decide (a.2 ≤ b.2) = true)
    (hbc : decide (b.2 ≤ c.2) = true) : decide (a.2 ≤ c.2) = true :=
  decide_eq_true (Nat.le_trans (of_decide_eq_true hab) (of_decide_eq_true hbc))

/-- Any two due times can be compared. -/
theorem dueTime_total (a b : ObjectKey × Time.Instant) :
    (decide (a.2 ≤ b.2) || decide (b.2 ≤ a.2)) = true := by
  rw [Bool.or_eq_true, decide_eq_true_iff, decide_eq_true_iff]
  exact Nat.le_total a.2.micros b.2.micros

/-- Earlier due times come first. -/
theorem Schedule.pairwise_inOrder (s : Schedule) : s.inOrder.Pairwise (fun a b => a.2 ≤ b.2) := by
  have hsorted : s.inOrder.Pairwise (fun a b => decide (a.2 ≤ b.2) = true) :=
    List.pairwise_mergeSort dueTime_trans dueTime_total s.due.entries
  exact hsorted.imp (fun h => of_decide_eq_true h)

/-- No key is due twice. -/
theorem Schedule.nodup_keys_inOrder (s : Schedule) : (s.inOrder.map Prod.fst).Nodup :=
  ((List.mergeSort_perm s.due.entries _).map Prod.fst).nodup_iff.mpr s.due.nodup_keys

end SecretSync.Controller

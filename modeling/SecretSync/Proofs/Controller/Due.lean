import SecretSync.Proofs.Controller.Pace

/-!
# What is due is run in its order

A pass runs the keys that are due when it reads the clock, each once and the earliest first, and of
those that are due at the same time the one first that entered the schedule first.  What the runs do
to the schedule, and however long they take, does not change the row that the pass goes through; it
ends before the end of the row only if the controller is asked to stop, or if a run is broken off.
-/

namespace SecretSync.Controller

variable {c : Settings} {key : ObjectKey} {time now : Time.Instant}
  {order row before rest : List (ObjectKey × Time.Instant)} {runs : List Happening}
  {broken : Option BrokenRun} {s s' t t' : Schedule} {w w' u u' : World}

/-- A row holds the keys that are due at an instant, each once and the earliest first; those that
are due at the same time stand in it as they do in the schedule. -/
structure DueRow (now : Time.Instant) (s : Schedule) (row : List (ObjectKey × Time.Instant)) :
    Prop where
  mem : ∀ key time, (key, time) ∈ row ↔ s.due.get? key = some time ∧ time ≤ now
  once : (row.map Prod.fst).Nodup
  rising : row.Pairwise (fun a b => a.2 ≤ b.2)
  ties : ∀ time, time ≤ now →
    row.filter (fun entry => entry.2 = time) = s.due.entries.filter (fun entry => entry.2 = time)

/-- The keys that stay scheduled when something happens keep their order, and those that enter the
schedule, or do so anew because they are run, line up behind them. -/
def LinesUp (h : Happening) (s s' : Schedule) : Prop :=
  ∃ stayed entered, s'.due.keys = stayed ++ entered ∧ stayed.Sublist s.due.keys ∧
    ∀ key ∈ entered, h.Runs key ∨ s.due.get? key = none

/-- Keys are run one behind the other.  Each is scheduled when its turn comes, and the controller is
not asked to stop by then; it is taken off the schedule, and its result is taken in. -/
inductive Turns (c : Settings) :
    Schedule → World → List (ObjectKey × Time.Instant) → Schedule → World → Prop
  | none (s : Schedule) (w : World) : Turns c s w [] s w
  | turn {s t s' : Schedule} {w v u w' : World} {key : ObjectKey} {time ended : Time.Instant}
    {result : Sync.Result} {rest : List (ObjectKey × Time.Instant)}
    (scheduled : s.due.get? key = some time) (going : w.stopRequested = false)
    (ends : Act.Ends (c.reconcile key).run w (.ok result) v)
    (reading : Act.Ends (noteResult c key result) v ended u)
    (settled : (s.start key).settle? key result ended = some t)
    (later : Turns c t u rest s' w') :
    Turns c s w ((key, time) :: rest) s' w'

/-- A run asks for the next one at a time outside the calendar. -/
def RequeuesOutside (c : Settings) (key : ObjectKey) (w : World) : Prop :=
  ∃ result delay ended v u, Act.Ends (c.reconcile key).run w (.ok result) v ∧
    Act.Ends (noteResult c key result) v ended u ∧ result.requeueAfter = some delay ∧
    ended.add? delay = none

/-- A run is broken off by an error: its reconcile ends with it, or the next run would be due
outside the calendar. -/
def BreaksOff (c : Settings) (key : ObjectKey) (w : World) (e : Cluster.Escape) : Prop :=
  (∃ escape v, Act.Ends (c.reconcile key).run w (.error escape) v ∧ e = escapeOf escape) ∨
    RequeuesOutside c key w ∧ e = .leavesCalendar

/-! ### The order of the schedule -/

private theorem linesUp_of_sublist {h : Happening} (hkeys : s'.due.keys.Sublist s.due.keys) :
    LinesUp h s s' :=
  ⟨s'.due.keys, [], (List.append_nil _).symm, hkeys, List.forall_mem_nil _⟩

/-- A key that is put into the schedule stays where it is, or comes behind all others. -/
theorem linesUp_of_insert {h : Happening} (hdue : s'.due = t.due.insert key time)
    (hkeys : t.due.keys.Sublist s.due.keys) (hnew : h.Runs key ∨ t.due = s.due) :
    LinesUp h s s' := by
  by_cases hthere : (t.due.get? key).isSome
  · apply linesUp_of_sublist
    rw [hdue, Dict.keys_insert, if_pos hthere]
    exact hkeys
  · refine ⟨t.due.keys, [key], ?_, hkeys, ?_⟩
    · rw [hdue, Dict.keys_insert, if_neg hthere]
    · rw [List.forall_mem_singleton]
      rcases hnew with hruns | hsame
      · exact Or.inl hruns
      · rw [hsame] at hthere
        exact Or.inr (by simpa using hthere)

private theorem linesUp_enqueueAt {h : Happening} (key : ObjectKey) (time : Time.Instant)
    (hsame : t.due = s.due) : LinesUp h s (t.enqueueAt key time) := by
  have hkeys : t.due.keys.Sublist s.due.keys := by
    rw [hsame]
  unfold Schedule.enqueueAt
  split
  · exact linesUp_of_insert rfl hkeys (Or.inr hsame)
  · split
    · exact linesUp_of_insert rfl hkeys (Or.inr hsame)
    · exact linesUp_of_sublist hkeys

/-- Whatever happens to a schedule, its keys line up. -/
theorem Happens.linesUp {h : Happening} (step : Happens s h s') : LinesUp h s s' := by
  cases step with
  | listed d now => exact linesUp_enqueueAt _ _ rfl
  | cursor version => exact linesUp_of_sublist (List.Sublist.refl _)
  | deleted d =>
    have hsame : (s.advanceCursor d).due.keys.Sublist s.due.keys := by
      rw [Schedule.due_advanceCursor]
    exact linesUp_of_sublist ((Dict.keys_erase_sublist _ d.key).trans hsame)
  | repeated kept known =>
    apply linesUp_of_sublist
    rw [Schedule.due_advanceCursor]
  | reported now kept new => exact linesUp_enqueueAt _ _ (Schedule.due_advanceCursor _ _)
  | requested key time => exact linesUp_enqueueAt _ _ rfl
  | forgotten key => exact linesUp_of_sublist (Dict.keys_erase_sublist _ _)
  | pass now => exact linesUp_of_sublist (List.Sublist.refl _)
  | @ran key _ _ _ settled =>
    have hkeys : (s.start key).due.keys.Sublist s.due.keys := Dict.keys_erase_sublist _ _
    rcases Schedule.settle?_cases settled with
      ⟨_, time, _, _, rfl⟩ | ⟨_, _, rfl⟩ | ⟨_, _, time, _, rfl⟩ | ⟨_, _, _, rfl⟩
    · exact linesUp_of_insert rfl hkeys (Or.inl rfl)
    · exact linesUp_of_sublist hkeys
    · exact linesUp_of_insert rfl hkeys (Or.inl rfl)
    · exact linesUp_of_sublist hkeys

/-! ### The row -/

/-- Sorting by due times leaves the order of the keys that are due at the same time. -/
theorem Schedule.filter_inOrder (s : Schedule) (time : Time.Instant) :
    s.inOrder.filter (fun entry => entry.2 = time) =
      s.due.entries.filter (fun entry => entry.2 = time) := by
  have hties : (s.due.entries.filter (fun entry => entry.2 = time)).Pairwise
      (fun a b => decide (a.2 ≤ b.2) = true) := by
    rw [List.pairwise_filter]
    apply List.pairwise_of_forall
    intro a b ha hb
    rw [decide_eq_true_iff] at ha hb ⊢
    rw [ha, hb]
    exact Nat.le_refl time.micros
  have hsub := (List.sublist_mergeSort dueTime_trans dueTime_total hties List.filter_sublist).filter
    (fun entry => entry.2 = time)
  rw [List.filter_filter] at hsub
  simp only [Bool.and_self] at hsub
  have hlength : (s.due.entries.filter (fun entry => entry.2 = time)).length =
      (s.inOrder.filter (fun entry => entry.2 = time)).length :=
    ((List.mergeSort_perm s.due.entries _).filter _).length_eq.symm
  exact (hsub.eq_of_length hlength).symm

/-- The entries of an order that are due at an instant. -/
def dueBefore (now : Time.Instant) (order : List (ObjectKey × Time.Instant)) :
    List (ObjectKey × Time.Instant) :=
  order.filter (fun entry => entry.2 ≤ now)

private theorem dueBefore_cons (hdue : time ≤ now) :
    dueBefore now ((key, time) :: rest) = (key, time) :: dueBefore now rest :=
  List.filter_cons_of_pos (decide_eq_true hdue)

/-- What comes behind an entry that is not due is not due either. -/
theorem dueBefore_eq_nil (hlate : now < time)
    (rising : ((key, time) :: rest).Pairwise (fun a b => a.2 ≤ b.2)) :
    dueBefore now ((key, time) :: rest) = [] := by
  apply List.filter_eq_nil_iff.mpr
  intro entry hentry hdue
  have hlow : time ≤ entry.2 := by
    rcases List.mem_cons.mp hentry with rfl | hrest
    · exact Nat.le_refl time.micros
    · exact (List.pairwise_cons.mp rising).1 entry hrest
  exact Nat.not_lt.mpr (Nat.le_trans hlow (of_decide_eq_true hdue)) hlate

/-- The entries of the order that are due make up the row. -/
theorem dueRow_inOrder (now : Time.Instant) (s : Schedule) :
    DueRow now s (dueBefore now s.inOrder) where
  mem := by
    intro key time
    rw [dueBefore, List.mem_filter, Schedule.mem_inOrder, decide_eq_true_iff]
  once := s.nodup_keys_inOrder.sublist (List.filter_sublist.map Prod.fst)
  rising := s.pairwise_inOrder.filter _
  ties := by
    intro time htime
    rw [dueBefore, List.filter_filter, ← Schedule.filter_inOrder]
    apply List.filter_congr
    intro entry _
    by_cases heq : entry.2 = time
    · simp [heq, htime]
    · simp [heq]

/-! ### Turns -/

namespace Turns

/-- Turns leave what the schedule holds of the other keys. -/
theorem sameAt (turns : Turns c s w row s' w') (hother : key ∉ row.map Prod.fst) :
    SameAt key s s' := by
  induction turns with
  | none s w => exact ⟨rfl, rfl, rfl⟩
  | turn scheduled going ends reading settled later ih =>
    rw [List.map_cons, List.mem_cons, not_or] at hother
    rcases hother with ⟨hne, hrest⟩
    have hfirst := (Happens.ran settled).sameAt (fun heq => hne heq.symm)
    exact hfirst.trans (ih hrest)

/-- Once the controller is asked to stop there are no more turns. -/
theorem halts (turns : Turns c s w before t u) (hstop : u.stopRequested = true)
    (longer : Turns c s w (before ++ rest) s' w') : rest = [] := by
  induction turns with
  | none s w =>
    cases longer with
    | none => rfl
    | turn scheduled going ends reading settled later =>
      rw [going] at hstop
      cases hstop
  | turn scheduled going ends reading settled later ih =>
    cases longer with
    | turn scheduled' going' ends' reading' settled' later' =>
      rcases ends.unique ends' with ⟨hresult, rfl⟩
      cases hresult
      rcases reading.unique reading' with ⟨rfl, rfl⟩
      rw [settled] at settled'
      cases settled'
      exact ih hstop later'

end Turns

/-- No next run can be scheduled only if one is asked for outside the calendar. -/
theorem Schedule.settle?_eq_none {result : Sync.Result} {ended : Time.Instant}
    (h : s.settle? key result ended = none) :
    ∃ delay, result.requeueAfter = some delay ∧ ended.add? delay = none := by
  unfold Schedule.settle? at h
  split at h
  · next delay hdelay => exact ⟨delay, hdelay, Option.map_eq_none_iff.mp h⟩
  · split at h
    · cases h
    · split at h
      · cases h
      · cases h

/-- A run that does not end with a result is broken off. -/
theorem breaksOff_of_dispatch {e : Cluster.Escape}
    (h : Ends (dispatch c key) s w (.error e) s' w') : BreaksOff c key w e := by
  rcases ends_act_bind.mp h with ⟨answer, v, hends, h⟩
  cases answer with
  | error escape =>
    rcases ends_throw.mp h with ⟨he, -, -⟩
    exact Or.inl ⟨escape, v, hends, Except.error.inj he⟩
  | ok result =>
    rcases ends_act_bind.mp h with ⟨ended, u, hreading, h⟩
    rw [ends_getThe_bind] at h
    cases hsettled : s.settle? key result ended with
    | none =>
      rw [hsettled] at h
      rcases ends_throw.mp h with ⟨he, -, -⟩
      rcases Schedule.settle?_eq_none hsettled with ⟨delay, hdelay, hleaves⟩
      exact Or.inr ⟨⟨result, delay, ended, v, u, hends, hreading, hdelay, hleaves⟩,
        Except.error.inj he⟩
    | some t =>
      rw [hsettled] at h
      cases (ends_change.mp h).1

/-- A pass takes turns along the keys that are due, up to the last one of them, to the request to
stop, or to a run that is broken off. -/
theorem Passed.turns (pass : Passed c now order s w runs broken s' w')
    (rising : order.Pairwise (fun a b => a.2 ≤ b.2)) (once : (order.map Prod.fst).Nodup)
    (scheduled : ∀ key time, (key, time) ∈ order → s.due.get? key = some time) :
    ∃ taken t u, taken <+: dueBefore now order ∧
      Turns c s w taken t u ∧ taken.length = runs.length ∧
      ((broken = none ∧ s' = t ∧ w' = u ∧
          (taken = dueBefore now order ∨ u.stopRequested = true)) ∨
        ∃ key time e, broken = some ⟨key, e⟩ ∧ s' = t.start key ∧
          taken ++ [(key, time)] <+: dueBefore now order ∧
          t.due.get? key = some time ∧ u.stopRequested = false ∧ BreaksOff c key u e) := by
  induction pass with
  | done s w =>
    exact ⟨[], s, w, List.nil_prefix, .none s w, rfl, Or.inl ⟨rfl, rfl, rfl, Or.inl rfl⟩⟩
  | @halted key time rest s w early =>
    refine ⟨[], s, w, List.nil_prefix, .none s w, rfl, Or.inl ⟨rfl, rfl, rfl, ?_⟩⟩
    rcases early with hlate | hstop
    · exact Or.inl (dueBefore_eq_nil hlate rising).symm
    · exact Or.inr hstop
  | @run key time ended rest s t s' w v u w' result runs broken due going ends reading settled
      later ih =>
    have hfirst : s.due.get? key = some time := scheduled key time List.mem_cons_self
    have hdue : time ≤ now := Nat.not_lt.mp due
    rw [List.map_cons, List.nodup_cons] at once
    -- Taking in the result of a run leaves the due times of the keys that follow.
    have hscheduled (k : ObjectKey) (time' : Time.Instant) (hmem : (k, time') ∈ rest) :
        t.due.get? k = some time' := by
      have hne : key ≠ k := by
        rintro rfl
        exact once.1 (List.mem_map.mpr ⟨(key, time'), hmem, rfl⟩)
      rw [((Happens.ran settled).sameAt (fun heq => hne heq)).due]
      exact scheduled k time' (List.mem_cons_of_mem _ hmem)
    rcases ih (List.pairwise_cons.mp rising).2 once.2 hscheduled with
      ⟨taken, t', u', hprefix, hturns, hlength, hend⟩
    rw [dueBefore_cons hdue]
    refine ⟨(key, time) :: taken, t', u', List.cons_prefix_cons.mpr ⟨rfl, hprefix⟩,
      .turn hfirst going ends reading settled hturns, congrArg (· + 1) hlength, ?_⟩
    rcases hend with ⟨hnone, hs, hw, hwhole | hstop⟩ |
      ⟨k, time', e, hbroken, hs, hnext, hkey, hgoing, hbreaks⟩
    · exact Or.inl ⟨hnone, hs, hw, Or.inl (congrArg _ hwhole)⟩
    · exact Or.inl ⟨hnone, hs, hw, Or.inr hstop⟩
    · exact Or.inr ⟨k, time', e, hbroken, hs, List.cons_prefix_cons.mpr ⟨rfl, hnext⟩, hkey, hgoing,
        hbreaks⟩
  | @broken key time rest s w w' e due going ends =>
    have hdue : time ≤ now := Nat.not_lt.mp due
    refine ⟨[], s, w, List.nil_prefix, .none s w, rfl, Or.inr ⟨key, time, e, rfl, rfl, ?_,
      scheduled key time List.mem_cons_self, going, breaksOff_of_dispatch ends⟩⟩
    rw [dueBefore_cons hdue]
    exact List.cons_prefix_cons.mpr ⟨rfl, List.nil_prefix⟩

/-- A step of the loop always ends. -/
theorem exists_ends {α : Type} (x : Loop α) (s : Schedule) (w : World) :
    ∃ r s' w', Ends x s w r s' w' :=
  ⟨_, _, _, Act.ends_self (x.run.run s) w⟩

/-- For every schedule, whatever the reconciles answer and whatever the clock does:

* a pass runs the keys that are due when it reads the clock, in the order of the row, and leaves
  what is due of every other key.  It comes to the end of the row, or up to the turn behind which
  the controller is asked to stop, and yields the number of turns; or the run of the next key is
  broken off, and the pass ends with its error;
* whatever happens to the schedule, its keys stand in it in the order in which they entered. -/
theorem due_row_processed (c : Settings) (s : Schedule) (w : World) :
    (∃ now v row taken t u, Act.Ends Act.now w now v ∧ DueRow now s row ∧ taken <+: row ∧
      Turns c s v taken t u ∧
      (∀ key, key ∉ taken.map Prod.fst → t.due.get? key = s.due.get? key) ∧
      (∀ before t' u', before <+: taken → Turns c s v before t' u' →
        u'.stopRequested = true → before = taken) ∧
      ((Ends (processDue c) s w (.ok taken.length) t u ∧
          (taken = row ∨ u.stopRequested = true)) ∨
        ∃ key time e w', Ends (processDue c) s w (.error e) (t.start key) w' ∧
          taken ++ [(key, time)] <+: row ∧ t.due.get? key = some time ∧
          u.stopRequested = false ∧ BreaksOff c key u e)) ∧
    ∀ h s', Happens s h s' → LinesUp h s s' := by
  refine ⟨?_, fun h s' step => step.linesUp⟩
  rcases exists_ends (processDue c) s w with ⟨r, s', w', hends⟩
  rcases processDue_passed hends with ⟨now, v, runs, broken, hreading, hpassed, rfl⟩
  have hscheduled (key : ObjectKey) (time : Time.Instant) (hmem : (key, time) ∈ s.inOrder) :
      s.due.get? key = some time := Schedule.mem_inOrder.mp hmem
  rcases hpassed.turns s.pairwise_inOrder s.nodup_keys_inOrder hscheduled with
    ⟨taken, t, u, hprefix, hturns, hlength, hend⟩
  refine ⟨now, v, _, taken, t, u, hreading, dueRow_inOrder now s, hprefix, hturns, ?_, ?_, ?_⟩
  · intro key hother
    exact (hturns.sameAt hother).due
  · rintro before t' u' ⟨rest, rfl⟩ hbefore hstop
    rw [hbefore.halts hstop hturns, List.append_nil]
  · rcases hend with ⟨rfl, rfl, rfl, hwhole⟩ | ⟨key, time, e, rfl, rfl, hnext⟩
    · rw [passEnd, ← hlength] at hends
      exact Or.inl ⟨hends, hwhole⟩
    · exact Or.inr ⟨key, time, e, w', hends, hnext⟩

/-- The next run of the first of two keys would be due behind the end of the calendar: the pass is
broken off, although nobody asks to stop, and the second key, which is due as well, is not run. -/
theorem pass_broken_off_before_second :
    ∃ v u w', Act.Ends Act.now (Sample.lateWorld Sample.lastMinutes) Sample.lastMinutes v ∧
      DueRow Sample.lastMinutes Sample.crowded [(Sample.declaration.key, Sample.lastMinutes),
        (Sample.latecomer.key, Sample.lastMinutes)] ∧
      Act.Ends (Sample.controller.reconcile Sample.declaration.key).run v (.ok Sample.synced) u ∧
      Ends (processDue Sample.controller) Sample.crowded
        (Sample.lateWorld Sample.lastMinutes) (.error .leavesCalendar)
        (Sample.crowded.start Sample.declaration.key) w' ∧
      w'.stopRequested = false := by
  rcases Sample.broken_before_latecomer with ⟨u, w', hsynced, hpass, hgoing⟩
  have hrow := dueRow_inOrder Sample.lastMinutes Sample.crowded
  rw [Sample.inOrder_crowded] at hrow
  have hasked : Act.Ends Act.now (Sample.lateWorld Sample.lastMinutes) Sample.lastMinutes
    (Sample.lateWorld Sample.lastMinutes).clockRead := rfl
  have hends := ends_processDue hasked hpass
  exact ⟨_, u, w', hasked, hrow, hsynced, hends, hgoing⟩

end SecretSync.Controller

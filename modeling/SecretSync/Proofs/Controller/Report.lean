import SecretSync.Proofs.Controller.Requeue

/-!
# Reports are not missed

What is reported of a declaration makes its key due at once, unless it is a modification that leaves
the generation as it was last reported: that moves the cursor and does nothing else.  A key that is
due stays due until it is run or removed, and a pass comes to it unless it is broken off or told to
stop before, or reads an earlier time.
-/

namespace SecretSync.Controller

variable {c : Settings} {key : ObjectKey} {d : Declaration} {type : Option String}
  {hs : List Happening} {s s' : Schedule} {w w' v : World} {time : Time.Instant}

/-- A key is due at a time or before. -/
def DueBy (key : ObjectKey) (time : Time.Instant) (s : Schedule) : Prop :=
  ∃ due, s.due.get? key = some due ∧ due ≤ time

/-! ### Reports -/

private theorem Schedule.dueBy_enqueueAt (key : ObjectKey) (time : Time.Instant) (s : Schedule) :
    DueBy key time (s.enqueueAt key time) := by
  have hinserted : DueBy key time { s with due := s.due.insert key time } :=
    ⟨time, by simp, Nat.le_refl time.micros⟩
  unfold Schedule.enqueueAt
  split
  · exact hinserted
  · next current hcurrent =>
    split
    · exact hinserted
    · next hlate => exact ⟨current, hcurrent, Nat.le_of_not_lt hlate⟩

/-- A declaration that is enlisted is due by the time asked for. -/
theorem Schedule.dueBy_enlist (d : Declaration) (time : Time.Instant) (s : Schedule) :
    DueBy d.key time (s.enlist d time) := Schedule.dueBy_enqueueAt d.key time _

/-- A modification that leaves the generation as it was last reported changes the cursor alone. -/
theorem handleEvent_repeats (noted : Noted d.key hs s)
    (known : LastReportedAt d.key d.generation hs) :
    ∃ cursor, Ends (handleEvent c (some "MODIFIED") d) s w (.ok ())
      { s with cursor := cursor } w := by
  have hcursor : ∃ cursor, s.advanceCursor d = { s with cursor := cursor } := by
    unfold Schedule.advanceCursor
    split
    · exact ⟨_, rfl⟩
    · exact ⟨s.cursor, rfl⟩
  obtain ⟨cursor, hcursor⟩ := hcursor
  refine ⟨cursor, ?_⟩
  unfold handleEvent
  rw [ends_change_bind, if_neg (by simp), ends_getThe_bind, Schedule.repeats_advanceCursor,
    if_pos (noted.repeats_iff.mpr ⟨rfl, known⟩), hcursor]
  exact ends_pure.mpr ⟨rfl, rfl, rfl⟩

/-- An event that calls for a run makes its key due when it is handled. -/
theorem handleEvent_reports (noted : Noted d.key hs s)
    (calls : CallsForRun d.key hs (.event type d)) :
    ∃ now v s', Act.Ends Act.now w now v ∧ Ends (handleEvent c type d) s w (.ok ()) s' v ∧
      DueBy d.key now s' := by
  obtain ⟨hkept, -, hnew⟩ := calls
  refine ⟨_, _, (s.advanceCursor d).enlist d (StateT.run Act.now w).1, Act.ends_self _ w, ?_,
    Schedule.dueBy_enlist d _ _⟩
  unfold handleEvent
  rw [ends_change_bind, if_neg hkept, ends_getThe_bind, Schedule.repeats_advanceCursor,
    if_neg (mt noted.repeats_iff.mp hnew)]
  exact ends_act_bind.mpr ⟨_, _, Act.ends_self _ w, ends_change.mpr ⟨rfl, rfl, rfl⟩⟩

/-! ### Rows of operations -/

/-- A key that is due stays due until it is run or removed. -/
theorem Happened.dueBy {t : Schedule} (happened : Happened s hs t) (hdue : DueBy key time s)
    (hall : ∀ h ∈ hs, ¬ h.Runs key ∧ ¬ h.Removes key) : DueBy key time t := by
  obtain ⟨due, hdue, hle⟩ := hdue
  obtain ⟨due', hdue', hle'⟩ := happened.due_le hall hdue
  exact ⟨due', hdue', Nat.le_trans hle' hle⟩

/-- An entry of a list makes its key due when the list comes to it. -/
theorem enlistAll_reports {before after : List Declaration}
    (h : Ends ((before ++ d :: after).forM enlist) s w (.ok ()) s' w') :
    ∃ t u now u', Ends (before.forM enlist) s w (.ok ()) t u ∧ Act.Ends Act.now u now u' ∧
      DueBy d.key now s' := by
  have happend : (before ++ d :: after).forM enlist =
      (before.forM enlist >>= fun _ => (d :: after).forM enlist) := List.forM_append
  rw [happend] at h
  obtain ⟨e, -, he⟩ | ⟨_, t, u, hbefore, hrest⟩ := ends_bind.mp h
  · cases he
  obtain ⟨e, -, he⟩ | ⟨_, t', u', hfirst, hafter⟩ :=
    (ends_bind (x := enlist d) (f := fun _ => after.forM enlist)).mp hrest
  · cases he
  obtain ⟨-, now, hreading, rfl⟩ := enlist_ends hfirst
  refine ⟨t, u, now, u', hbefore, hreading, ?_⟩
  refine (enlistAll_ends hafter).2.dueBy (Schedule.dueBy_enlist d now t) (fun h hh => ?_)
  obtain ⟨d', -, rfl⟩ := List.mem_map.mp hh
  exact ⟨id, id⟩

/-- A list that is read makes the key of every entry due. -/
theorem resync_reports {ds : List Declaration} {version : Json}
    (list : Act.Ends (Cluster.Declarations.list c.access c.ns).run w (.ok (ds, version)) v) :
    ∃ s' w', Ends (resync c) s w (.ok ()) s' w' ∧ ∀ before d after, ds = before ++ d :: after →
      ∃ t u now u', Ends (before.forM enlist) s v (.ok ()) t u ∧ Act.Ends Act.now u now u' ∧
        DueBy d.key now s' := by
  obtain ⟨r, s', w', hends⟩ : ∃ r s' w', Ends (resync c) s w r s' w' := ⟨_, _, _, rfl⟩
  obtain ⟨e, x, hfailed, -⟩ | ⟨_, _, _, t, u, hlisted, rfl, henlist, rfl⟩ := resync_enlists hends
  · cases hfailed.symm.trans list
  cases hlisted.symm.trans list
  refine ⟨_, w', hends, fun before d after hsplit => ?_⟩
  subst hsplit
  obtain ⟨x, y, now, z, hbefore, hreading, hdue⟩ := enlistAll_reports henlist
  exact ⟨x, y, now, z, hbefore, hreading, hdue⟩

namespace Operations

variable {first : Schedule} {off : ObjectKey → Prop} {past : List Happening}

/-- Along a row of operations the generations that are held are those that were last reported. -/
theorem noted (row : Operations c first hs off s) (noted : Noted key past first) :
    Noted key (past ++ hs) s := by
  induction row with
  | none =>
    rw [List.append_nil]
    exact noted
  | next earlier last ih =>
    obtain ⟨t, happened, rfl⟩ := last.happened
    intro g
    rw [Schedule.generations_without, ← List.append_assoc]
    exact happened.noted ih g

/-- Along a row of operations a key that is due stays due until it is run or removed. -/
theorem dueBy (row : Operations c first hs off s) (hdue : DueBy key time first)
    (hall : ∀ h ∈ hs, ¬ h.Runs key ∧ ¬ h.Removes key) (hkept : ¬ off key) : DueBy key time s := by
  induction row with
  | none => exact hdue
  | next earlier last ih =>
    obtain ⟨hearlier, hlast⟩ := List.forall_mem_append.mp hall
    obtain ⟨hbroken, hoff⟩ := not_or.mp hkept
    obtain ⟨t, happened, rfl⟩ := last.happened
    obtain ⟨due, hdue, hle⟩ := happened.dueBy (ih hearlier (fun hlost => hoff ⟨hlost, hlast⟩)) hlast
    exact ⟨due, (Schedule.due_without hbroken t).trans hdue, hle⟩

end Operations

/-! ### Passes -/

/-- A pass over what is due runs a key that is due, unless a run before it is broken off, the
controller is asked to stop, or the reading of the clock is earlier than when it was due. -/
theorem processDue_reaches {r : Except Cluster.Escape Nat} (hdue : DueBy key time s)
    (h : Ends (processDue c) s w r s' w') :
    ∃ now v runs broken, Act.Ends Act.now w now v ∧
      Passed c now s.inOrder s v runs broken s' w' ∧ r = passEnd runs broken ∧
      ((∃ result ended, .ran key result ended ∈ runs) ∨ (∃ e, broken = some ⟨key, e⟩) ∨
        (∃ k e, k ≠ key ∧ broken = some ⟨k, e⟩) ∨ w'.stopRequested = true ∨ now < time) := by
  obtain ⟨now, v, runs, broken, hreading, pass, hr⟩ := processDue_passed h
  refine ⟨now, v, runs, broken, hreading, pass, hr, ?_⟩
  obtain ⟨due, hdue, hle⟩ := hdue
  by_cases hearly : now < time
  · exact Or.inr (Or.inr (Or.inr (Or.inr hearly)))
  have hreached := pass.reaches s.pairwise_inOrder (Schedule.mem_inOrder.mpr hdue)
    (Nat.le_trans hle (Nat.le_of_not_lt hearly))
  obtain hran | hbroken | hstop := hreached
  · exact Or.inl hran
  · obtain ⟨⟨k, e⟩, rfl⟩ := Option.ne_none_iff_exists'.mp hbroken
    by_cases hk : k = key
    · subst hk
      exact Or.inr (Or.inl ⟨e, rfl⟩)
    · exact Or.inr (Or.inr (Or.inl ⟨k, e, hk, rfl⟩))
  · exact Or.inr (Or.inr (Or.inr (Or.inl hstop)))

end SecretSync.Controller

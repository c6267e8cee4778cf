import SecretSync.Proofs.Controller.Ends
import SecretSync.Proofs.Controller.Tables

/-!
# What reports do to the schedule

The controller takes in lists and events, and keys are enqueued.  For each of these it is told what
happens to the schedule in it.
-/

namespace SecretSync.Controller

variable {c : Settings} {key : ObjectKey} {s s' : Schedule} {w w' : World}

/-- Enlisting a declaration reads the clock once and cannot fail. -/
theorem enlist_ends {d : Declaration} {r : Except Cluster.Escape Unit}
    (h : Ends (enlist d) s w r s' w') :
    r = .ok () ∧ ∃ now, Act.Ends Act.now w now w' ∧ s' = s.enlist d now := by
  obtain ⟨now, v, hreading, h⟩ := ends_act_bind.mp h
  obtain ⟨rfl, rfl, rfl⟩ := ends_change.mp h
  exact ⟨rfl, now, hreading, rfl⟩

/-- Enlisting all of a list is a history of listings, one for each. -/
theorem enlistAll_ends {ds : List Declaration} {r : Except Cluster.Escape Unit}
    (h : Ends (ds.forM enlist) s w r s' w') :
    r = .ok () ∧ Happened s (ds.map Happening.listed) s' := by
  induction ds generalizing s w with
  | nil =>
    obtain ⟨rfl, rfl, -⟩ := ends_pure.mp h
    exact ⟨rfl, .none⟩
  | cons d ds ih =>
    obtain ⟨e, hfirst, -⟩ | ⟨_, t, v, hfirst, hrest⟩ :=
      (ends_bind (x := enlist d) (f := fun _ => ds.forM enlist)).mp h
    · cases (enlist_ends hfirst).1
    · obtain ⟨-, now, -, rfl⟩ := enlist_ends hfirst
      obtain ⟨rfl, hall⟩ := ih hrest
      exact ⟨rfl, (Happens.listed d now).happened.trans hall⟩

/-- A list that is read is enlisted as a whole, and the next watch starts behind it; a list that is
not leaves the schedule. -/
theorem resync_enlists {r : Except Cluster.Escape Unit} (h : Ends (resync c) s w r s' w') :
    (∃ e v, Act.Ends (Cluster.Declarations.list c.access c.ns).run w (.error e) v ∧
      r = .error e ∧ s' = s) ∨
    ∃ ds version v t u, Act.Ends (Cluster.Declarations.list c.access c.ns).run w
      (.ok (ds, version)) v ∧ r = .ok () ∧ Ends (ds.forM enlist) s v (.ok ()) t u ∧
        s' = { t with cursor := version } := by
  obtain ⟨e, hlist, rfl⟩ | ⟨⟨ds, version⟩, t, v, hlist, hrest⟩ := ends_bind.mp h
  · obtain ⟨hlisted, rfl⟩ := ends_mk_lift.mp hlist
    exact Or.inl ⟨e, w', hlisted, rfl, rfl⟩
  · obtain ⟨hlisted, rfl⟩ := ends_mk_lift.mp hlist
    obtain ⟨e, henlist, -⟩ | ⟨_, u, x, henlist, hlast⟩ := ends_bind.mp hrest
    · cases (enlistAll_ends henlist).1
    · rw [ends_change_bind] at hlast
      obtain ⟨_, -, rfl, rfl⟩ := ends_act.mp hlast
      exact Or.inr ⟨ds, version, v, u, x, hlisted, rfl, henlist, rfl⟩

/-- A listing fails with nothing scheduled, or schedules all it brings and keeps its version. -/
theorem resync_ends {r : Except Cluster.Escape Unit} (h : Ends (resync c) s w r s' w') :
    (∃ e v, Act.Ends (Cluster.Declarations.list c.access c.ns).run w (.error e) v ∧
      r = .error e ∧ s' = s) ∨
    ∃ ds version v, Act.Ends (Cluster.Declarations.list c.access c.ns).run w
      (.ok (ds, version)) v ∧ r = .ok () ∧
        Happened s (ds.map Happening.listed ++ [.cursor version]) s' := by
  obtain hfailed | ⟨ds, version, v, t, u, hlisted, hr, henlist, rfl⟩ := resync_enlists h
  · exact Or.inl hfailed
  · refine Or.inr ⟨ds, version, v, hlisted, hr, ?_⟩
    exact (enlistAll_ends henlist).2.trans (Happens.cursor version).happened

/-- An event that is handled is one happening, and cannot fail. -/
theorem handleEvent_ends {type : Option String} {d : Declaration} {r : Except Cluster.Escape Unit}
    (h : Ends (handleEvent c type d) s w r s' w') :
    r = .ok () ∧ Happens s (.event type d) s' := by
  unfold handleEvent at h
  rw [ends_change_bind] at h
  split at h
  · next hdeleted =>
    subst hdeleted
    obtain ⟨_, v, -, h⟩ := ends_act_bind.mp h
    obtain ⟨rfl, rfl, -⟩ := ends_change.mp h
    exact ⟨rfl, .deleted d⟩
  · next hkept =>
    rw [ends_getThe_bind, Schedule.repeats_advanceCursor] at h
    split at h
    · next hknown =>
      obtain ⟨rfl, rfl, -⟩ := ends_pure.mp h
      exact ⟨rfl, .repeated hkept hknown⟩
    · next hnew =>
      obtain ⟨rfl, now, -, rfl⟩ := enlist_ends h
      exact ⟨rfl, .reported now hkept (Bool.eq_false_iff.mpr hnew)⟩

/-- A key is enqueued, unless the time at which it would be due lies outside the calendar. -/
theorem enqueue_ends {after : Time.Duration} (h : Ends (enqueue key after) s w (.ok ()) s' w') :
    Happens s (.requested key) s' := by
  obtain ⟨now, v, -, h⟩ := ends_act_bind.mp h
  split at h
  · cases (ends_throw.mp h).1
  · next time _ =>
    obtain ⟨-, rfl, -⟩ := ends_change.mp h
    exact .requested key time

/-- A key that is not enqueued leaves the schedule. -/
theorem enqueue_refused {after : Time.Duration} {e : Cluster.Escape}
    (h : Ends (enqueue key after) s w (.error e) s' w') : s' = s := by
  obtain ⟨now, v, -, h⟩ := ends_act_bind.mp h
  split at h
  · exact (ends_throw.mp h).2.1
  · cases (ends_change.mp h).1

end SecretSync.Controller

import SecretSync.Proofs.Controller.Report

/-!
# Runs keep their pace

A run that asks for another one after some time is followed by none before that time unless a run is
called for: what the operator itself writes comes back as modifications that leave the generation,
and they call for nothing.  So the controller does not feed on its own writes.
-/

namespace SecretSync.Controller

variable {c : Settings} {key : ObjectKey} {past hs hs' : List Happening} {h : Happening}
  {broken : Option ObjectKey} {s t s' : Schedule} {ended : Time.Instant} {delay : Time.Duration}
  {result : Sync.Result}

/-- Nothing in a history calls for a run of a key, what was before it taken into account. -/
def Uncalled (key : ObjectKey) (past : List Happening) : List Happening → Prop
  | [] => True
  | h :: hs => ¬ CallsForRun key past h ∧ Uncalled key (past ++ [h]) hs

/-- Whatever is due or remembered as a poll of a key lies a delay behind an instant, at least. -/
def RestsFor (key : ObjectKey) (ended : Time.Instant) (delay : Time.Duration) (s : Schedule) :
    Prop :=
  ∀ time, s.due.get? key = some time ∨ s.polls.get? key = some time →
    ∃ poll, ended.add? delay = some poll ∧ poll ≤ time

private theorem uncalled_append :
    Uncalled key past (hs ++ hs') ↔ Uncalled key past hs ∧ Uncalled key (past ++ hs) hs' := by
  induction hs generalizing past with
  | nil => simp [Uncalled]
  | cons h hs ih => simp [Uncalled, ih, and_assoc]

namespace Uncalled

/-- Uncalled over two histories is uncalled over the first. -/
theorem left (uncalled : Uncalled key past (hs ++ hs')) : Uncalled key past hs :=
  (uncalled_append.mp uncalled).1

/-- Uncalled over two histories is uncalled over the second behind the first. -/
theorem right (uncalled : Uncalled key past (hs ++ hs')) : Uncalled key (past ++ hs) hs' :=
  (uncalled_append.mp uncalled).2

/-- The last happening of an uncalled history calls for no run. -/
theorem last (uncalled : Uncalled key past (hs ++ [h])) : ¬ CallsForRun key (past ++ hs) h :=
  uncalled.right.1

end Uncalled

/-! ### What is not called for -/

/-- What calls for no run of a key and is none adds nothing to what is scheduled of it. -/
theorem Happens.uncalled (step : Happens s h s') (noted : Noted key past s)
    (uncalled : ¬ CallsForRun key past h) (hruns : ¬ h.Runs key) (time : Time.Instant) :
    (s'.due.get? key = some time → s.due.get? key = some time) ∧
      (s'.polls.get? key = some time → s.polls.get? key = some time) := by
  by_cases hconcerns : h.Concerns key
  case neg =>
    have hsame := step.sameAt hconcerns
    exact ⟨hsame.due ▸ id, hsame.polls ▸ id⟩
  by_cases hremoves : h.Removes key
  · obtain ⟨hdue, hpolls⟩ := step.absent (Or.inl hremoves)
    rw [hdue, hpolls]
    exact ⟨nofun, nofun⟩
  cases step with
  | listed d now => exact (uncalled hconcerns).elim
  | cursor version => exact hconcerns.elim
  | deleted d => exact (hremoves ⟨rfl, hconcerns⟩).elim
  | repeated kept known => simp
  | reported now kept new =>
    cases hconcerns
    exact (uncalled ⟨kept, rfl, mt noted.repeats_iff.mpr (Bool.eq_false_iff.mp new)⟩).elim
  | requested k asked => exact (uncalled hconcerns).elim
  | forgotten k => exact (hremoves hconcerns).elim
  | pass now => exact hconcerns.elim
  | ran settled => exact (hruns hconcerns).elim

private theorem restsFor_of_absent (habsent : Absent key s) : RestsFor key ended delay s := by
  rintro time (hdue | hpolls)
  · cases habsent.1.symm.trans hdue
  · cases habsent.2.symm.trans hpolls

/-- A run of a key that asks for no other one falls back on its poll. -/
theorem RestsFor.ran {now : Time.Instant} (rests : RestsFor key ended delay s)
    (settled : (s.start key).settle? key result now = some s')
    (hasks : result.requeueAfter = none) : RestsFor key ended delay s' := by
  have hstarted : (s.start key).polls = s.polls := rfl
  obtain ⟨_, _, hsome, _⟩ | ⟨_, hgone, _⟩ | ⟨_, _, poll, hpoll, rfl⟩ | ⟨_, _, _, rfl⟩ :=
    Schedule.settle?_cases settled
  · cases hasks.symm.trans hsome
  · exact restsFor_of_absent ((Happens.ran settled).absent (Or.inr ⟨rfl, hasks, hgone⟩))
  · obtain ⟨asked, hasked, hle⟩ := rests poll (Or.inr (hstarted ▸ hpoll))
    rintro time (hdue | hpolls)
    · obtain rfl : poll.later now = time := by simpa using hdue
      exact ⟨asked, hasked, Nat.le_trans hle (Time.Instant.le_later poll now)⟩
    · exact rests time (Or.inr (hstarted ▸ hpolls))
  · rintro time (hdue | hpolls)
    · simp [Schedule.start] at hdue
    · exact rests time (Or.inr (hstarted ▸ hpolls))

/-- Behind a run that asks for another one after a delay, or finds nothing, the key rests. -/
theorem restsFor_ran (settled : (s.start key).settle? key result ended = some s')
    (hasked : result.requeueAfter = some delay ∨
      result.requeueAfter = none ∧ result.outcome = .notFound) :
    RestsFor key ended delay s' := by
  obtain hsome | ⟨hnone, hgone⟩ := hasked
  case inr =>
    exact restsFor_of_absent ((Happens.ran settled).absent (Or.inr ⟨rfl, hnone, hgone⟩))
  obtain ⟨delay', poll, hdelay, hpoll, rfl⟩ | ⟨hnone, -⟩ | ⟨hnone, -⟩ | ⟨hnone, -⟩ :=
    Schedule.settle?_cases settled
  · obtain rfl : delay' = delay := Option.some.inj (hdelay.symm.trans hsome)
    have hat (time : Time.Instant) (heq : poll = time) :
        ∃ poll, ended.add? delay' = some poll ∧ poll ≤ time :=
      ⟨poll, hpoll, heq ▸ Nat.le_refl poll.micros⟩
    rintro time (hdue | hpolls)
    · exact hat time (by simpa using hdue)
    · exact hat time (by simpa using hpolls)
  all_goals cases hnone.symm.trans hsome

/-- A key that rests goes on resting while no run of it is called for and its runs ask for none. -/
theorem RestsFor.next (rests : RestsFor key ended delay s) (step : Happens s h s')
    (noted : Noted key past s) (uncalled : ¬ CallsForRun key past h)
    (hasks : ¬ h.AsksForPoll key) : RestsFor key ended delay s' := by
  by_cases hruns : h.Runs key
  · cases step with
    | @ran _ result _ _ settled =>
      cases hruns
      have hnone : result.requeueAfter = none :=
        Classical.byContradiction (fun hsome => hasks ⟨rfl, hsome⟩)
      exact rests.ran settled hnone
    | _ => exact hruns.elim
  · rintro time (hdue | hpolls)
    · exact rests time (Or.inl ((step.uncalled noted uncalled hruns time).1 hdue))
    · exact rests time (Or.inr ((step.uncalled noted uncalled hruns time).2 hpolls))

namespace Happened

private theorem rests (happened : Happened s hs t) (rests : RestsFor key ended delay s)
    (noted : Noted key past s) (uncalled : Uncalled key past hs)
    (hasks : ∀ h ∈ hs, ¬ h.AsksForPoll key) : RestsFor key ended delay t := by
  induction happened with
  | none => exact rests
  | next earlier step ih =>
    rw [List.forall_mem_append, List.forall_mem_singleton] at hasks
    exact (ih uncalled.left hasks.1).next step (earlier.noted noted) uncalled.last hasks.2

/-- While no run of a key is called for and none comes, the key is due when it was, if at all. -/
theorem uncalled (happened : Happened s hs t) (noted : Noted key past s)
    (uncalled : Uncalled key past hs) (hruns : ∀ h ∈ hs, ¬ h.Runs key) {time : Time.Instant}
    (hdue : t.due.get? key = some time) : s.due.get? key = some time := by
  induction happened with
  | none => exact hdue
  | next earlier step ih =>
    rw [List.forall_mem_append, List.forall_mem_singleton] at hruns
    have hkept := step.uncalled (earlier.noted noted) uncalled.last hruns.2 time
    exact ih uncalled.left hruns.1 (hkept.1 hdue)

end Happened

/-! ### Rows of operations -/

/-- An operation that runs a key that rests, to an end or not, is a pass that has read a time at
which the rest is over. -/
theorem Operation.awaits (op : Operation c s hs broken s') (rests : RestsFor key ended delay s)
    (hruns : (∃ h ∈ hs, h.Runs key) ∨ broken = some key) :
    ∃ now runs poll, hs = .pass now :: runs ∧ ended.add? delay = some poll ∧ poll ≤ now := by
  obtain ⟨rfl, hquiet⟩ | ⟨now, runs, off, v, w', rfl, rfl, pass⟩ := op.quiet_or_pass
  · obtain ⟨h, hmem, hrun⟩ | hbroken := hruns
    · exact (hquiet h hmem key hrun).elim
    · cases hbroken
  · have hlisted : ∃ time, (key, time) ∈ s.inOrder ∧ ¬ now < time := by
      obtain ⟨h, hmem, hrun⟩ | hbroken := hruns
      · obtain rfl | hmem := List.mem_cons.mp hmem
        · exact hrun.elim
        · exact (pass.runs_due key).1 h hmem hrun
      · exact (pass.runs_due key).2 hbroken
    obtain ⟨time, hmem, hdue⟩ := hlisted
    obtain ⟨poll, hpoll, hle⟩ := rests time (Or.inl (Schedule.mem_inOrder.mp hmem))
    exact ⟨now, runs, poll, rfl, hpoll, Nat.le_trans hle (Nat.le_of_not_lt hdue)⟩

/-- A rest outlasts a dispatch that broke off. -/
theorem RestsFor.without (rests : RestsFor key ended delay s) (broken : Option ObjectKey) :
    RestsFor key ended delay (s.without broken) := by
  rintro time (hdue | hpolls)
  · by_cases hbroken : broken = some key
    · subst hbroken
      simp [Schedule.without, Schedule.start] at hdue
    · exact rests time (Or.inl ((Schedule.due_without hbroken s).symm.trans hdue))
  · rw [Schedule.polls_without] at hpolls
    exact rests time (Or.inr hpolls)

variable {first : Schedule} {off : ObjectKey → Prop} {before after : List Happening}

/-- A key that is not scheduled is not run while no run of it is called for. -/
theorem idle_while_uncalled (row : Operations c first hs off s) (noted : Noted key past first)
    (hfree : first.due.get? key = none) (uncalled : Uncalled key past hs) :
    s.due.get? key = none ∧ ¬ off key ∧ ∀ h ∈ hs, ¬ h.Runs key := by
  induction row with
  | none => exact ⟨hfree, id, List.forall_mem_nil _⟩
  | next earlier last ih =>
    obtain ⟨hfree, hoff, hearlier⟩ := ih uncalled.left
    obtain ⟨hlast, hbroken⟩ := last.not_runs hfree
    obtain ⟨t, happened, rfl⟩ := last.happened
    refine ⟨?_, not_or.mpr ⟨hbroken, fun hlost => hoff hlost.1⟩,
      List.forall_mem_append.mpr ⟨hearlier, hlast⟩⟩
    rw [Schedule.due_without hbroken, Option.eq_none_iff_forall_ne_some]
    intro time hdue
    have hdue := happened.uncalled (earlier.noted noted) uncalled.right hlast hdue
    cases hfree.symm.trans hdue

/-- Behind a run that asks for another one after a delay, or finds nothing, the key rests while no
run of it is called for and its runs ask for none. -/
theorem rests_behind (row : Operations c .empty hs off s)
    (hsplit : hs = before ++ .ran key result ended :: after)
    (hasked : result.requeueAfter = some delay ∨
      result.requeueAfter = none ∧ result.outcome = .notFound)
    (uncalled : Uncalled key (before ++ [.ran key result ended]) after)
    (hasks : ∀ h ∈ after, ¬ h.AsksForPoll key) : RestsFor key ended delay s := by
  induction row generalizing before after with
  | none => simp at hsplit
  | next earlier last ih =>
    have hnoted := earlier.noted (noted_empty key)
    rw [List.nil_append] at hnoted
    obtain ⟨t, happened, rfl⟩ := last.happened
    refine RestsFor.without ?_ _
    -- The run is one of this operation, from which on the key rests, or of an earlier one.
    obtain ⟨mid, rfl, rfl⟩ | ⟨rest, rfl, rfl⟩ := append_eq_append_cons hsplit
    · obtain ⟨u, hmid, hlater⟩ := happened_append.mp happened
      obtain ⟨x, hran, hafter⟩ := happened_cons.mp hlater
      have hnoted := (hmid.noted hnoted).next hran
      cases hran with
      | ran settled => exact hafter.rests (restsFor_ran settled hasked) hnoted uncalled hasks
    · rw [List.forall_mem_append] at hasks
      have huncalled := uncalled.right
      rw [List.append_assoc, List.singleton_append] at huncalled
      exact happened.rests (ih rfl uncalled.left hasks.1) hnoted huncalled hasks.2

/-- A run of a key behind one that asks for another one after a delay, or finds nothing, is started
by a pass that reads a time at which the delay is over, if no run of the key is called for and its
runs in between ask for none. -/
theorem later_run_waits {between : List Happening} (row : Operations c .empty hs off s)
    (hsplit : hs = before ++ .ran key result ended :: between ++ h :: after) (hruns : h.Runs key)
    (hasked : result.requeueAfter = some delay ∨
      result.requeueAfter = none ∧ result.outcome = .notFound)
    (uncalled : Uncalled key (before ++ [.ran key result ended]) between)
    (hasks : ∀ h ∈ between, ¬ h.AsksForPoll key) :
    ∃ poll earlier now runs, ended.add? delay = some poll ∧
      between = earlier ++ .pass now :: runs ∧ (∀ x ∈ runs, ∃ k r t, x = .ran k r t) ∧
      poll ≤ now := by
  induction row generalizing after with
  | none => simp at hsplit
  | next earlier last ih =>
    obtain ⟨mid, hmid, rfl⟩ | ⟨rest, hrest, rfl⟩ := append_eq_append_cons hsplit
    case inr => exact ih hrest
    obtain ⟨-, hquiet⟩ | ⟨now, runs, _, v, w', hpass, -, pass⟩ := last.quiet_or_pass
    · exact (hquiet h (List.mem_append_right _ List.mem_cons_self) key hruns).elim
    cases mid with
    | nil =>
      cases hpass
      exact hruns.elim
    | cons start mid =>
      obtain ⟨rfl, rfl⟩ := List.cons.inj hpass
      -- The first run is not one of this pass, for no key is run twice in it.
      obtain ⟨m, -, hm⟩ | ⟨rest, rfl, rfl⟩ := append_eq_append_cons hmid.symm
      · cases m with
        | nil => cases hm
        | cons start m =>
          obtain ⟨-, rfl⟩ := List.cons.inj hm
          have honce := pass.runs_once (Schedule.nodup_keys_inOrder _)
            (List.append_assoc m (.ran key result ended :: between) (h :: after)) rfl
          exact (honce.1 h (List.mem_append_right _ List.mem_cons_self) hruns).elim
      · rw [List.forall_mem_append] at hasks
        have rests := rests_behind earlier rfl hasked uncalled.left hasks.1
        obtain ⟨now', runs', poll, hpass', hpoll, hle⟩ := last.awaits rests
          (Or.inl ⟨h, List.mem_append_right _ List.mem_cons_self, hruns⟩)
        cases hpass'
        refine ⟨poll, rest, now, mid, hpoll, rfl, fun x hx => ?_, hle⟩
        obtain ⟨k, r, t, _, _, rfl, -⟩ := pass.is_run x (List.mem_append_left _ hx)
        exact ⟨k, r, t, rfl⟩

/-! ### Reconciles -/

variable {settings : Sync.Settings}

/-- A run of a key that was no echo had ended when the clock was read, and since then no run of the
key was called for and all its runs were echoes. -/
def Resting (key : ObjectKey) (ended : Time.Instant) (hs : List Happening) : Prop :=
  ∃ before result between, hs = before ++ .ran key result ended :: between ∧
    result.outcome ≠ .skippedEcho ∧ Uncalled key (before ++ [.ran key result ended]) between ∧
    ∀ result' ended', .ran key result' ended' ∈ between → result'.outcome = .skippedEcho

/-- A run of a reconcile asks for another one after the refresh interval, unless there is nothing to
wait for. -/
theorem ran_requeues (hreconcile : c.reconcile = Sync.reconcile settings)
    (row : Operations c .empty hs off s) (hmem : .ran key result ended ∈ hs) :
    result.requeueAfter =
      if result.outcome = .notFound ∨ result.outcome = .skippedEcho then none
      else some settings.refresh := by
  obtain ⟨v, u, hends⟩ := row.ran_ends hmem
  rw [hreconcile] at hends
  obtain ⟨ms, hreconciled⟩ := Sync.reconcile_ends hends
  exact (Sync.reconciled_accounted hreconciled).requeue

/-- What a run that was no echo asks for. -/
theorem ran_asks (hreconcile : c.reconcile = Sync.reconcile settings)
    (row : Operations c .empty hs off s) (hmem : .ran key result ended ∈ hs)
    (hreal : result.outcome ≠ .skippedEcho) :
    result.requeueAfter = some settings.refresh ∨
      result.requeueAfter = none ∧ result.outcome = .notFound := by
  have hrequeue := ran_requeues hreconcile row hmem
  by_cases hgone : result.outcome = .notFound
  · rw [if_pos (Or.inl hgone)] at hrequeue
    exact Or.inr ⟨hrequeue, hgone⟩
  · rw [if_neg (not_or.mpr ⟨hgone, hreal⟩)] at hrequeue
    exact Or.inl hrequeue

/-- Echoes ask for nothing. -/
theorem echoes_ask_nothing (hreconcile : c.reconcile = Sync.reconcile settings)
    (row : Operations c .empty hs off s) (hsub : ∀ h ∈ hs', h ∈ hs)
    (hechoes : ∀ result ended, .ran key result ended ∈ hs' → result.outcome = .skippedEcho) :
    ∀ h ∈ hs', ¬ h.AsksForPoll key := by
  intro h hmem hasks
  cases h with
  | ran k result ended =>
    obtain ⟨rfl, hsome⟩ := hasks
    have hrequeue := ran_requeues hreconcile row (hsub _ hmem)
    rw [if_pos (Or.inr (hechoes result ended hmem))] at hrequeue
    exact hsome hrequeue
  | _ => exact hasks

namespace Resting

/-- A key that was run and rests is neither due nor to be polled before the refresh interval is
over. -/
theorem rests (resting : Resting key ended hs) (hreconcile : c.reconcile = Sync.reconcile settings)
    (row : Operations c .empty hs off s) : RestsFor key ended settings.refresh s := by
  obtain ⟨before, result, between, rfl, hreal, huncalled, hechoes⟩ := resting
  have hasked := ran_asks hreconcile row (List.mem_append_right _ List.mem_cons_self) hreal
  have hasks := echoes_ask_nothing hreconcile row
    (fun h hh => List.mem_append_right _ (List.mem_cons_of_mem _ hh)) hechoes
  exact rests_behind row rfl hasked huncalled hasks

/-- A key that was run and rests is not run again before the refresh interval is over. -/
theorem run_waits (resting : Resting key ended before)
    (hreconcile : c.reconcile = Sync.reconcile settings) (row : Operations c .empty hs off s)
    (hsplit : hs = before ++ h :: after) (hruns : h.Runs key) :
    ∃ poll earlier now runs, ended.add? settings.refresh = some poll ∧
      before = earlier ++ .pass now :: runs ∧ Resting key ended earlier ∧
      (∀ x ∈ runs, ∃ k r t, x = .ran k r t) ∧ poll ≤ now := by
  subst hsplit
  obtain ⟨start, result, between, rfl, hreal, huncalled, hechoes⟩ := resting
  have hasked := ran_asks hreconcile row
    (List.mem_append_left _ (List.mem_append_right _ List.mem_cons_self)) hreal
  have hasks := echoes_ask_nothing hreconcile row (fun h hh => List.mem_append_left _
    (List.mem_append_right _ (List.mem_cons_of_mem _ hh))) hechoes
  obtain ⟨poll, earlier, now, runs, hpoll, rfl, hall, hle⟩ :=
    later_run_waits row rfl hruns hasked huncalled hasks
  have hresting : Resting key ended (start ++ .ran key result ended :: earlier) :=
    ⟨start, result, earlier, rfl, hreal, huncalled.left,
      fun result' ended' hmem => hechoes result' ended' (List.mem_append_left _ hmem)⟩
  refine ⟨poll, _, now, runs, hpoll, ?_, hresting, hall, hle⟩
  rw [List.append_assoc, List.cons_append]

end Resting

/-- Along every row of operations of a controller that reconciles, whatever the clock does and
others do in the meantime:

* a modification that leaves the generation as it was last reported changes the cursor and nothing
  else;
* behind a run of a key that was no echo, a further run that nothing has called for is started by a
  pass that reads a time at which the refresh interval is over, also if it is broken off;
* behind a run that is broken off the key is not run again until a run is called for;
* every event that calls for a run, and every entry of a list, makes its key due at once;
* a key that is due stays due until it is run or removed, and every pass runs it unless a run before
  it is broken off, the controller is asked to stop, or the pass reads an earlier time. -/
theorem paced_and_responsive (hreconcile : c.reconcile = Sync.reconcile settings)
    (row : Operations c .empty hs off s) :
    (∀ d w, LastReportedAt d.key d.generation hs → ∃ cursor,
      Ends (handleEvent c (some "MODIFIED") d) s w (.ok ()) { s with cursor := cursor } w) ∧
    (∀ key ended before h after, hs = before ++ h :: after → h.Runs key →
      Resting key ended before → ∃ poll earlier now runs,
        ended.add? settings.refresh = some poll ∧ before = earlier ++ .pass now :: runs ∧
        Resting key ended earlier ∧ (∀ x ∈ runs, ∃ k r t, x = .ran k r t) ∧ poll ≤ now) ∧
    (∀ key ended hs' s', Resting key ended hs → Operation c s hs' (some key) s' →
      ∃ poll now runs, ended.add? settings.refresh = some poll ∧ hs' = .pass now :: runs ∧
        poll ≤ now) ∧
    (∀ key hs' t hs'' off' s', Operation c s hs' (some key) t → Operations c t hs'' off' s' →
      Uncalled key (hs ++ hs') hs'' → ¬ off' key ∧ ∀ h ∈ hs'', ¬ h.Runs key) ∧
    (∀ type d w, CallsForRun d.key hs (.event type d) → ∃ now v s',
      Act.Ends Act.now w now v ∧ Ends (handleEvent c type d) s w (.ok ()) s' v ∧
        DueBy d.key now s') ∧
    (∀ w v ds version,
      Act.Ends (Cluster.Declarations.list c.access c.ns).run w (.ok (ds, version)) v →
      ∃ s' w', Ends (resync c) s w (.ok ()) s' w' ∧
        ∀ before d after, ds = before ++ d :: after → ∃ t u now u',
          Ends (before.forM enlist) s v (.ok ()) t u ∧ Act.Ends Act.now u now u' ∧
            DueBy d.key now s') ∧
    ∀ key time hs' off' t w r s' w', DueBy key time s → Operations c s hs' off' t →
      (∀ h ∈ hs', ¬ h.Runs key ∧ ¬ h.Removes key) → ¬ off' key →
      Ends (processDue c) t w r s' w' → ∃ now v runs broken,
        Act.Ends Act.now w now v ∧ Passed c now t.inOrder t v runs broken s' w' ∧
        r = passEnd runs broken ∧
        ((∃ result ended, .ran key result ended ∈ runs) ∨ (∃ e, broken = some ⟨key, e⟩) ∨
          (∃ k e, k ≠ key ∧ broken = some ⟨k, e⟩) ∨ w'.stopRequested = true ∨ now < time) := by
  have hnoted (key : ObjectKey) : Noted key hs s := row.noted (noted_empty key)
  refine ⟨?_, ?_, ?_, ?_, ?_, ?_, ?_⟩
  · intro d w hlast
    exact handleEvent_repeats (hnoted d.key) hlast
  · intro key ended before h after hsplit hruns resting
    exact resting.run_waits hreconcile row hsplit hruns
  · intro key ended hs' s' resting op
    obtain ⟨now, runs, poll, hpass, hpoll, hle⟩ :=
      op.awaits (resting.rests hreconcile row) (Or.inr rfl)
    exact ⟨poll, now, runs, hpoll, hpass, hle⟩
  · intro key hs' t hs'' off' s' op later huncalled
    obtain ⟨u, happened, rfl⟩ := op.happened
    have hfree : (u.without (some key)).due.get? key = none := by
      simp [Schedule.without, Schedule.start]
    have hnoted : Noted key (hs ++ hs') (u.without (some key)) := by
      intro g
      rw [Schedule.generations_without]
      exact happened.noted (hnoted key) g
    exact (idle_while_uncalled later hnoted hfree huncalled).2
  · intro type d w hcalls
    exact handleEvent_reports (hnoted d.key) hcalls
  · intro w v ds version hlist
    exact resync_reports hlist
  · intro key time hs' off' t w r s' w' hdue later hall hkept hpass
    exact processDue_reaches (later.dueBy hdue hall hkept) hpass

/-! ### Samples -/

namespace Sample

open Sync.Sample (noon morning session syncedWorld)

/-- Two minutes past noon. -/
def soon : Time.Instant := ⟨63850161720000000, by decide⟩

/-- Five minutes past noon. -/
def rested : Time.Instant := ⟨63850161900000000, by decide⟩

/-- The declaration, last synced at a time, when the clock is read for a pass. -/
def passWorld (last now : Time.Instant) : World :=
  { syncedWorld last (session .zero [("a", "1")]) with clock := now }

/-- How the reconcile of the pass ends. -/
def passRun (last now : Time.Instant) : Except Sync.Escape Sync.Result × World :=
  StateT.run (controller.reconcile declaration.key).run (passWorld last now).clockRead

/-- The schedule behind a run at noon. -/
def polled : Schedule :=
  { enlisted with
    due := Dict.ofList [(declaration.key, rested)]
    polls := Dict.ofList [(declaration.key, rested)] }

/-- A pass syncs the declaration when nothing else is due. -/
theorem synced_in_pass {hs : List Happening} {off : ObjectKey → Prop} {s s' : Schedule}
    {last now due : Time.Instant} (row : Operations controller .empty hs off s)
    (single : s.inOrder = [(declaration.key, due)]) (hdue : ¬ now < due)
    (hsynced : (passRun last now).1.toOption = some synced)
    (hreading : (StateT.run (noteResult controller declaration.key synced)
      (passRun last now).2).1 = now)
    (settled : (s.start declaration.key).settle? declaration.key synced now = some s') :
    ∃ off', Operations controller .empty
      (hs ++ [.pass now, .ran declaration.key synced now]) off' s' := by
  have hasked : Act.Ends Act.now (passWorld last now) now (passWorld last now).clockRead := rfl
  have hends : Act.Ends (controller.reconcile declaration.key).run (passWorld last now).clockRead
    (.ok synced) (passRun last now).2 := Act.ends_of_toOption hsynced
  have hread : Act.Ends (noteResult controller declaration.key synced) (passRun last now).2 now
    (StateT.run (noteResult controller declaration.key synced) (passRun last now).2).2 :=
      Prod.ext hreading rfl
  exact ⟨_, row.next (.run_single single hdue hasked rfl hends hread settled)⟩

set_option maxRecDepth 10000 in
/-- A declaration that is reported at noon is synced, and due again in five minutes. -/
theorem polled_at_noon :
    ∃ off, Operations controller .empty (happenings synced noon) off polled := by
  have hadded : Ends (handleEvent controller (some "ADDED") declaration) .empty
      (passWorld morning noon) (.ok ()) enlisted (passWorld morning noon).clockRead := rfl
  have hsynced : (passRun morning noon).1.toOption = some synced := by decide +kernel
  have hreading : (StateT.run (noteResult controller declaration.key synced)
    (passRun morning noon).2).1 = noon := by decide +kernel
  exact synced_in_pass (Operations.none.next (.event hadded)) (List.mergeSort_singleton _)
    (by decide) hsynced hreading rfl

/-- What comes back of the status that the run at noon has written, and the next run. -/
def afterNoon : List Happening :=
  [.event (some "MODIFIED") declaration, .pass rested, .ran declaration.key synced rested]

set_option maxRecDepth 10000 in
/-- The declaration is synced again when the refresh interval is over. -/
theorem synced_when_rested :
    ∃ off s, Operations controller .empty (happenings synced noon ++ afterNoon) off s := by
  obtain ⟨off, row⟩ := polled_at_noon
  have hechoed : Ends (handleEvent controller (some "MODIFIED") declaration) polled
      (passWorld noon rested) (.ok ()) polled (passWorld noon rested) := rfl
  have hsynced : (passRun noon rested).1.toOption = some synced := by decide +kernel
  have hreading : (StateT.run (noteResult controller declaration.key synced)
    (passRun noon rested).2).1 = rested := by decide +kernel
  have hsettles : ∃ s, (polled.start declaration.key).settle? declaration.key synced rested =
    some s := ⟨_, rfl⟩
  obtain ⟨s, hsettled⟩ := hsettles
  obtain ⟨off', hrow⟩ := synced_in_pass (row.next (.event hechoed)) (List.mergeSort_singleton _)
    (by decide) hsynced hreading hsettled
  exact ⟨off', s, hrow⟩

/-- Between its runs the declaration rests. -/
theorem resting_after_noon : Resting declaration.key noon
    (happenings synced noon ++ [.event (some "MODIFIED") declaration, .pass rested]) := by
  have hlast : LastReportedAt declaration.key declaration.generation (happenings synced noon) :=
    ⟨[], _, _, rfl, ⟨declaration, rfl, rfl, rfl⟩, by
      simp [Happening.Reports, Happening.report?, Happening.Removes]⟩
  refine ⟨[.event (some "ADDED") declaration, .pass noon], synced,
    [.event (some "MODIFIED") declaration, .pass rested], rfl, by decide, ⟨?_, id, trivial⟩, ?_⟩
  · rintro ⟨-, -, hnew⟩
    exact hnew ⟨rfl, hlast⟩
  · intro result ended hmem
    simp at hmem

/-- The schedule when an event of another type has told of the declaration. -/
def called : Schedule := polled.enlist declaration soon

set_option maxRecDepth 10000 in
/-- An event of another type calls for a run although it tells the same generation. -/
theorem synced_too_soon :
    ∃ off s, Operations controller .empty (happenings synced noon ++
      [.event (some "BOOKMARK") declaration] ++ [.pass soon, .ran declaration.key synced soon])
      off s := by
  obtain ⟨off, row⟩ := polled_at_noon
  have hcalled : Ends (handleEvent controller (some "BOOKMARK") declaration) polled
      (passWorld noon soon) (.ok ()) called (passWorld noon soon).clockRead := rfl
  have hsynced : (passRun noon soon).1.toOption = some synced := by decide +kernel
  have hreading : (StateT.run (noteResult controller declaration.key synced)
    (passRun noon soon).2).1 = soon := by decide +kernel
  have hsettles : ∃ s, (called.start declaration.key).settle? declaration.key synced soon =
    some s := ⟨_, rfl⟩
  obtain ⟨s, hsettled⟩ := hsettles
  obtain ⟨off', hrow⟩ := synced_in_pass (row.next (.event hcalled)) (List.mergeSort_singleton _)
    (by decide) hsynced hreading hsettled
  exact ⟨off', s, hrow⟩

/-- A second declaration, reported when the calendar is about to end. -/
def latecomer : Declaration := { declaration with name := "late" }

/-- The schedule behind the reports of both declarations. -/
def crowded : Schedule :=
  (Schedule.empty.enlist declaration lastMinutes).enlist latecomer lastMinutes

/-- In the crowded schedule both keys are due in the last minutes, in the order of their listing. -/
theorem inOrder_crowded :
    crowded.inOrder = [(declaration.key, lastMinutes), (latecomer.key, lastMinutes)] :=
  List.mergeSort_of_pairwise (by decide)

set_option maxRecDepth 10000 in
/-- The next run of the first declaration would be due behind the end of the calendar: the pass is
broken off, although the reconcile has ended well, and leaves the second declaration. -/
theorem broken_before_latecomer :
    ∃ v w', Act.Ends (controller.reconcile declaration.key).run (lateWorld lastMinutes).clockRead
        (.ok synced) v ∧
      Passed controller lastMinutes crowded.inOrder crowded
        (lateWorld lastMinutes).clockRead [] (some ⟨declaration.key, .leavesCalendar⟩)
        (crowded.start declaration.key) w' ∧ w'.stopRequested = false := by
  have hends : Act.Ends (controller.reconcile declaration.key).run
    (lateWorld lastMinutes).clockRead (.ok synced) (lateRun lastMinutes).2 :=
      Act.ends_of_toOption (by decide +kernel)
  have hreading : Act.Ends (noteResult controller declaration.key synced)
    (lateRun lastMinutes).2 lastMinutes (StateT.run
      (noteResult controller declaration.key synced) (lateRun lastMinutes).2).2 :=
        Prod.ext (by decide +kernel) rfl
  have hbreaks := ends_dispatch_breaks (s := crowded.start declaration.key) hends hreading rfl
  refine ⟨_, _, hends, ?_, (by decide +kernel : (StateT.run
    (noteResult controller declaration.key synced)
    (lateRun lastMinutes).2).2.stopRequested = false)⟩
  rw [inOrder_crowded]
  exact .broken (by decide) rfl hbreaks

/-- Both declarations are reported. -/
theorem operations_crowded :
    ∃ off, Operations controller .empty
      [.event (some "ADDED") declaration, .event (some "ADDED") latecomer] off crowded := by
  have hfirst : Ends (handleEvent controller (some "ADDED") declaration) .empty
      (lateWorld lastMinutes) (.ok ()) (Schedule.empty.enlist declaration lastMinutes)
      (lateWorld lastMinutes).clockRead := rfl
  have hsecond : Ends (handleEvent controller (some "ADDED") latecomer)
      (Schedule.empty.enlist declaration lastMinutes) (lateWorld lastMinutes) (.ok ()) crowded
      (lateWorld lastMinutes).clockRead := rfl
  exact ⟨_, (Operations.none.next (.event hfirst)).next (.event hsecond)⟩

end Sample

/-- A sync at noon, an echo and a pass at the poll: the run comes no earlier than asked for. -/
theorem paced_and_responsive_after_noon :
    ∃ off s, Operations Sample.controller .empty
        (Sample.happenings Sample.synced Sync.Sample.noon ++ Sample.afterNoon) off s ∧
      Resting Sample.declaration.key Sync.Sample.noon
        (Sample.happenings Sample.synced Sync.Sample.noon ++
          [.event (some "MODIFIED") Sample.declaration, .pass Sample.rested]) ∧
      ∃ poll earlier now runs,
        Sync.Sample.noon.add? Sync.Sample.settings.refresh = some poll ∧
        Sample.happenings Sample.synced Sync.Sample.noon ++
          [.event (some "MODIFIED") Sample.declaration, .pass Sample.rested] =
            earlier ++ .pass now :: runs ∧
        Resting Sample.declaration.key Sync.Sample.noon earlier ∧
        (∀ x ∈ runs, ∃ k r t, x = .ran k r t) ∧ poll ≤ now := by
  obtain ⟨off, s, hrow⟩ := Sample.synced_when_rested
  have hreconcile : Sample.controller.reconcile = Sync.reconcile Sync.Sample.settings := rfl
  exact ⟨off, s, hrow, Sample.resting_after_noon,
    (paced_and_responsive hreconcile hrow).2.1 _ _ _ _ [] rfl rfl Sample.resting_after_noon⟩

/-- An event of another type calls for a run before the refresh interval is over.  And a pass can be
broken off before it comes to a key that is due although no reconcile raises: the time at which the
key before it would be due again lies behind the end of the calendar. -/
theorem bookmark_called_and_latecomer_left :
    (∃ off s poll, Operations Sample.controller .empty
        (Sample.happenings Sample.synced Sync.Sample.noon ++
          [.event (some "BOOKMARK") Sample.declaration] ++
          [.pass Sample.soon, .ran Sample.declaration.key Sample.synced Sample.soon]) off s ∧
      Sync.Sample.noon.add? Sync.Sample.settings.refresh = some poll ∧ ¬ poll ≤ Sample.soon) ∧
    ∃ off v w', Operations Sample.controller .empty
        [.event (some "ADDED") Sample.declaration, .event (some "ADDED") Sample.latecomer] off
        Sample.crowded ∧
      DueBy Sample.latecomer.key Sample.lastMinutes Sample.crowded ∧
      Act.Ends (Sample.controller.reconcile Sample.declaration.key).run
        (Sample.lateWorld Sample.lastMinutes).clockRead (.ok Sample.synced) v ∧
      Passed Sample.controller Sample.lastMinutes Sample.crowded.inOrder Sample.crowded
        (Sample.lateWorld Sample.lastMinutes).clockRead []
        (some ⟨Sample.declaration.key, .leavesCalendar⟩)
        (Sample.crowded.start Sample.declaration.key) w' ∧ w'.stopRequested = false := by
  constructor
  · obtain ⟨off, s, hrow⟩ := Sample.synced_too_soon
    exact ⟨off, s, Sample.rested, hrow, rfl, by decide⟩
  · obtain ⟨off, hrow⟩ := Sample.operations_crowded
    obtain ⟨v, w', hends, hpass, hgoing⟩ := Sample.broken_before_latecomer
    exact ⟨off, v, w', hrow, Schedule.dueBy_enlist _ _ _, hends, hpass, hgoing⟩

end SecretSync.Controller

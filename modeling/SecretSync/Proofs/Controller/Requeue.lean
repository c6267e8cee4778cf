import SecretSync.Proofs.Controller.Polling
import SecretSync.Proofs.Sync.Accounting

/-!
# Polls that stand

A run can ask for another one at a later time.  Whatever the controller does, and whether or not it
ends with an error, such a poll is neither cancelled nor postponed until the key is removed or a run
finds nothing.  The one exception is a run that is broken off: its key is off the schedule while
its poll is still remembered.
-/

namespace SecretSync.Controller

variable {c : Settings} {key : ObjectKey} {hs hs' : List Happening} {h : Happening}
  {broken : Option ObjectKey} {s t s' : Schedule} {time ended : Time.Instant}

/-! ### What one happening does to a poll -/

/-- The last run of a key that ended with a result had ended when the clock was read. -/
def LastEnded (key : ObjectKey) (ended : Time.Instant) : List Happening → Prop :=
  Since (fun _ h => ∃ result, h = .ran key result ended) (fun h => ¬ h.Runs key)

/-- A poll that is remembered of a key is scheduled: not later than it was asked for, or than the
end of the key's last run if that is later. -/
def PollStands (key : ObjectKey) (hs : List Happening) (s : Schedule) : Prop :=
  ∀ poll, s.polls.get? key = some poll → ∃ time ended,
    s.due.get? key = some time ∧ LastEnded key ended hs ∧ time ≤ poll.later ended

/-- A key is neither scheduled nor is a poll of it remembered. -/
def Absent (key : ObjectKey) (s : Schedule) : Prop :=
  s.due.get? key = none ∧ s.polls.get? key = none

/-- Enqueueing can only bring forward what is due. -/
theorem Schedule.due_enqueueAt_le (k : ObjectKey) (asked : Time.Instant)
    (hdue : s.due.get? key = some time) :
    ∃ time', (s.enqueueAt k asked).due.get? key = some time' ∧ time' ≤ time := by
  have hsame : ∃ time', s.due.get? key = some time' ∧ time' ≤ time :=
    ⟨time, hdue, Nat.le_refl time.micros⟩
  unfold Schedule.enqueueAt
  split
  · next hnone =>
    have hne : k ≠ key := fun heq => by simp [heq, hdue] at hnone
    simpa [hne] using hsame
  · next current hcurrent =>
    split
    · next hlt =>
      by_cases heq : k = key
      · subst heq
        cases hcurrent.symm.trans hdue
        exact ⟨asked, by simp, Nat.le_of_lt hlt⟩
      · simpa [heq] using hsame
    · exact hsame

/-- Only a run or a removal can push an entry back. -/
theorem Happens.due_le (step : Happens s h s') (hruns : ¬ h.Runs key) (hremoves : ¬ h.Removes key)
    (hdue : s.due.get? key = some time) : ∃ time', s'.due.get? key = some time' ∧ time' ≤ time := by
  by_cases hconcerns : h.Concerns key
  case neg => exact ⟨time, by rw [(step.sameAt hconcerns).due, hdue], Nat.le_refl time.micros⟩
  cases step with
  | listed d now => exact Schedule.due_enqueueAt_le d.key now hdue
  | cursor version => exact hconcerns.elim
  | deleted d => exact (hremoves ⟨rfl, hconcerns⟩).elim
  | @repeated type d kept known =>
    exact ⟨time, by rw [Schedule.due_advanceCursor, hdue], Nat.le_refl time.micros⟩
  | @reported type d now kept new =>
    refine Schedule.due_enqueueAt_le d.key now ?_
    exact (congrArg (Dict.get? · key) (Schedule.due_advanceCursor d s)).trans hdue
  | requested k asked => exact Schedule.due_enqueueAt_le k asked hdue
  | forgotten k => exact (hremoves hconcerns).elim
  | pass now => exact hconcerns.elim
  | ran settled => exact (hruns hconcerns).elim

private theorem Happens.polls_eq (step : Happens s h s') (hasks : ¬ h.AsksForPoll key)
    (hfinds : ¬ h.FindsNothing key) (hremoves : ¬ h.Removes key) :
    s'.polls.get? key = s.polls.get? key := by
  by_cases hconcerns : h.Concerns key
  case neg => exact (step.sameAt hconcerns).polls
  cases step with
  | deleted d => exact (hremoves ⟨rfl, hconcerns⟩).elim
  | forgotten k => exact (hremoves hconcerns).elim
  | ran settled =>
    cases hconcerns
    obtain ⟨_, _, hsome, _, rfl⟩ | ⟨hnone, hgone, rfl⟩ | ⟨_, _, _, _, rfl⟩ | ⟨_, _, _, rfl⟩ :=
      Schedule.settle?_cases settled
    · exact (hasks ⟨rfl, by simp [hsome]⟩).elim
    · exact (hfinds ⟨rfl, hnone, hgone⟩).elim
    · rfl
    · rfl
  | _ => simp [Schedule.enlist]

/-- A run that ends with a result leaves its poll standing. -/
theorem pollStands_ran {result : Sync.Result} (hs : List Happening)
    (settled : (s.start key).settle? key result ended = some s') :
    PollStands key (hs ++ [.ran key result ended]) s' := by
  have hlast : LastEnded key ended (hs ++ [.ran key result ended]) :=
    (since_concat _ _).mpr (Or.inl ⟨result, rfl⟩)
  intro poll hpoll
  obtain ⟨_, asked, _, _, rfl⟩ | ⟨_, _, rfl⟩ | ⟨_, _, kept, hkept, rfl⟩ | ⟨_, _, hfree, rfl⟩ :=
    Schedule.settle?_cases settled
  · obtain rfl : asked = poll := by simpa using hpoll
    exact ⟨asked, ended, by simp, hlast, Time.Instant.le_later asked ended⟩
  · simp at hpoll
  · obtain rfl : kept = poll := Option.some.inj (hkept.symm.trans hpoll)
    exact ⟨kept.later ended, ended, by simp, hlast, Nat.le_refl (kept.later ended).micros⟩
  · cases hfree.symm.trans hpoll

/-- Nothing is left of a key that is removed, or whose run finds nothing. -/
theorem Happens.absent (step : Happens s h s') (hover : h.Removes key ∨ h.FindsNothing key) :
    Absent key s' := by
  cases step with
  | deleted d =>
    obtain ⟨-, rfl⟩ := hover.resolve_right id
    exact ⟨by simp [Schedule.forget], by simp [Schedule.forget]⟩
  | forgotten k =>
    obtain rfl := hover.resolve_right id
    exact ⟨by simp [Schedule.forget], by simp [Schedule.forget]⟩
  | repeated kept known => exact (kept (hover.resolve_right id).1).elim
  | reported now kept new => exact (kept (hover.resolve_right id).1).elim
  | ran settled =>
    obtain ⟨rfl, hnone, hgone⟩ := hover.resolve_left id
    obtain ⟨_, _, hsome, _, rfl⟩ | ⟨_, _, rfl⟩ | ⟨_, hthere, _⟩ | ⟨_, hthere, _⟩ :=
      Schedule.settle?_cases settled
    · cases hnone.symm.trans hsome
    · exact ⟨by simp [Schedule.start], by simp⟩
    · exact (hthere hgone).elim
    · exact (hthere hgone).elim
  | _ => exact (hover.elim id id).elim

/-- What is removed stays away until it is reported or enqueued anew. -/
theorem Absent.next (habsent : Absent key s) (step : Happens s h s') (hruns : ¬ h.Runs key)
    (hreports : ¬ h.Reports key) (hrequested : h ≠ .requested key) : Absent key s' := by
  by_cases hremoves : h.Removes key
  · exact step.absent (Or.inl hremoves)
  have hother : ¬ h.Concerns key := by
    intro hconcerns
    cases h with
    | listed d => exact hreports ⟨d, rfl, hconcerns⟩
    | event type d =>
      by_cases hdeleted : type = some "DELETED"
      · exact hremoves ⟨hdeleted, hconcerns⟩
      · exact hreports ⟨d, by simp [Happening.report?, hdeleted], hconcerns⟩
    | requested k => exact hrequested (congrArg _ hconcerns)
    | forgotten k => exact hremoves hconcerns
    | ran k result ended => exact hruns hconcerns
    | cursor version => exact hconcerns
    | pass now => exact hconcerns
  have hsame := step.sameAt hother
  exact ⟨hsame.due.trans habsent.1, hsame.polls.trans habsent.2⟩

/-- A run that ends with a result, or a removal, mends what a run that was broken off has left. -/
theorem Happens.pollStands (step : Happens s h s') (hmends : h.Runs key ∨ h.Removes key)
    (hs : List Happening) : PollStands key (hs ++ [h]) s' := by
  obtain hruns | hremoves := hmends
  · cases step with
    | ran settled =>
      cases hruns
      exact pollStands_ran hs settled
    | _ => exact hruns.elim
  · intro poll hpoll
    cases hpoll.symm.trans (step.absent (Or.inl hremoves)).2

/-- One more happening leaves a requested poll in its place. -/
theorem PollStands.next (stands : PollStands key hs s) (step : Happens s h s') :
    PollStands key (hs ++ [h]) s' := by
  by_cases hmends : h.Runs key ∨ h.Removes key
  · exact step.pollStands hmends hs
  obtain ⟨hruns, hremoves⟩ := not_or.mp hmends
  intro poll hpoll
  rw [step.polls_eq (mt Happening.AsksForPoll.runs hruns) (mt Happening.FindsNothing.runs hruns)
    hremoves] at hpoll
  obtain ⟨time, ended, hdue, hlast, hle⟩ := stands poll hpoll
  obtain ⟨time', hdue', hearlier⟩ := step.due_le hruns hremoves hdue
  refine ⟨time', ended, hdue', (since_concat _ _).mpr (Or.inr ⟨hruns, hlast⟩), ?_⟩
  exact Nat.le_trans hearlier hle

/-! ### What a history does to a poll -/

namespace Happened

/-- Behind a history a poll stands if it stood before, or if something in the history mends it. -/
theorem pollStands (happened : Happened s hs' t)
    (stands : (∀ h ∈ hs', ¬ h.Runs key ∧ ¬ h.Removes key) → PollStands key hs s) :
    PollStands key (hs ++ hs') t := by
  induction happened with
  | none =>
    rw [List.append_nil]
    exact stands (List.forall_mem_nil _)
  | @next hs' h _ _ _ step ih =>
    rw [← List.append_assoc]
    by_cases hmends : h.Runs key ∨ h.Removes key
    · exact step.pollStands hmends (hs ++ hs')
    · refine (ih (fun hall => stands ?_)).next step
      exact List.forall_mem_append.mpr ⟨hall, List.forall_mem_singleton.mpr (not_or.mp hmends)⟩

/-- Behind a history a key is absent if it is over with the key in it, or was before, and the key is
neither run nor reported nor requested from then on. -/
theorem absent (happened : Happened s hs t)
    (hover : Absent key s ∧ (∀ h ∈ hs, ¬ h.Runs key ∧ ¬ h.Reports key ∧ h ≠ .requested key) ∨
      Since (fun _ h => h.Removes key ∨ h.FindsNothing key)
        (fun h => ¬ h.Runs key ∧ ¬ h.Reports key ∧ h ≠ .requested key) hs) : Absent key t := by
  induction happened with
  | none => exact hover.elim And.left (fun hsince => (not_since_nil hsince).elim)
  | next _ step ih =>
    rw [List.forall_mem_append, List.forall_mem_singleton, since_concat] at hover
    obtain ⟨habsent, hall, hruns, hreports, hrequested⟩ | hends | ⟨⟨hruns, hreports, hrequested⟩,
      hsince⟩ := hover
    · exact (ih (Or.inl ⟨habsent, hall⟩)).next step hruns hreports hrequested
    · exact step.absent hends
    · exact (ih (Or.inr hsince)).next step hruns hreports hrequested

/-- Over a history without a run or a removal an entry only comes forward. -/
theorem due_le (happened : Happened s hs t) (hall : ∀ h ∈ hs, ¬ h.Runs key ∧ ¬ h.Removes key)
    (hdue : s.due.get? key = some time) :
    ∃ time', t.due.get? key = some time' ∧ time' ≤ time := by
  induction happened with
  | none => exact ⟨time, hdue, Nat.le_refl time.micros⟩
  | next _ step ih =>
    rw [List.forall_mem_append, List.forall_mem_singleton] at hall
    obtain ⟨between, hbetween, hle⟩ := ih hall.1
    obtain ⟨time', hdue', hle'⟩ := step.due_le hall.2.1 hall.2.2 hbetween
    exact ⟨time', hdue', Nat.le_trans hle' hle⟩

private theorem polls_eq (happened : Happened s hs t)
    (hall : ∀ h ∈ hs, ¬ h.AsksForPoll key ∧ ¬ h.FindsNothing key ∧ ¬ h.Removes key) :
    t.polls.get? key = s.polls.get? key := by
  induction happened with
  | none => rfl
  | next _ step ih =>
    rw [List.forall_mem_append, List.forall_mem_singleton] at hall
    obtain ⟨hasks, hfinds, hremoves⟩ := hall.2
    exact (step.polls_eq hasks hfinds hremoves).trans (ih hall.1)

end Happened

/-! ### Rows of operations -/

namespace Operations

variable {off : ObjectKey → Prop}

/-- Along every row of operations a poll stands unless the last run of its key was broken off. -/
theorem pollStands (row : Operations c .empty hs off s) (hkept : ¬ off key) :
    PollStands key hs s := by
  induction row with
  | none => exact nofun
  | @next hs hs' off broken s s' earlier last ih =>
    obtain ⟨hbroken, hoff⟩ := not_or.mp hkept
    obtain ⟨t, happened, rfl⟩ := last.happened
    have hstands : PollStands key (hs ++ hs') t :=
      happened.pollStands (fun hall => ih (fun hlost => hoff ⟨hlost, hall⟩))
    intro poll hpoll
    rw [Schedule.due_without hbroken]
    exact hstands poll (Schedule.polls_without broken t ▸ hpoll)

/-- A key that was removed or found gone is absent, and is not run, until it is reported or
requested anew. -/
theorem absent_behind (row : Operations c .empty hs off s) {before after : List Happening}
    (hsplit : hs = before ++ h :: after) (hover : h.Removes key ∨ h.FindsNothing key)
    (hquiet : ∀ x ∈ after, ¬ x.Reports key ∧ x ≠ .requested key) :
    Absent key s ∧ ¬ off key ∧ ∀ x ∈ after, ¬ x.Runs key := by
  induction row generalizing before h after with
  | none => simp at hsplit
  | @next hs hs' off broken s s' earlier last ih =>
    obtain ⟨t, happened, rfl⟩ := last.happened
    -- Either it is over with the key in this operation, or it was before it.
    obtain ⟨mid, -, rfl⟩ | ⟨rest, hhs, rfl⟩ := append_eq_append_cons hsplit
    · obtain ⟨hruns, hbroken⟩ := last.not_runs_behind rfl hover
      have habsent : Absent key t := happened.absent
        (Or.inr ⟨mid, h, after, rfl, hover, fun x hx => ⟨hruns x hx, hquiet x hx⟩⟩)
      refine ⟨⟨?_, ?_⟩, ?_, hruns⟩
      · exact (Schedule.due_without hbroken t).trans habsent.1
      · rw [Schedule.polls_without, habsent.2]
      · rintro (hnow | ⟨-, hall⟩)
        · exact hbroken hnow
        · obtain ⟨hnot, hkept⟩ := hall h (List.mem_append_right _ List.mem_cons_self)
          exact hover.elim hkept (fun hfinds => hnot hfinds.runs)
    · rw [List.forall_mem_append] at hquiet
      obtain ⟨habsent, hoff, hrest⟩ := ih hhs hover hquiet.1
      obtain ⟨hruns, hbroken⟩ := last.not_runs habsent.1
      have habsent : Absent key t := happened.absent
        (Or.inl ⟨habsent, fun x hx => ⟨hruns x hx, hquiet.2 x hx⟩⟩)
      refine ⟨⟨?_, ?_⟩, ?_, List.forall_mem_append.mpr ⟨hrest, hruns⟩⟩
      · exact (Schedule.due_without hbroken t).trans habsent.1
      · rw [Schedule.polls_without, habsent.2]
      · rintro (hnow | ⟨hlost, -⟩)
        · exact hbroken hnow
        · exact hoff hlost

end Operations

/-- Along every row of operations, whatever the reconciles answer and whatever the clock does:

* a poll that is remembered is scheduled, not later than asked for or than the end of the key's last
  run, unless the last run of the key was broken off;
* an operation in which the key is not removed or found gone keeps the poll unless a run asks for
  another one, and can only bring forward what is due unless it runs the key;
* a key that is removed or found gone is absent, and is not run, until it is reported or requested
  anew;
* every run of a reconcile that finds the declaration gone counts as one that finds nothing. -/
theorem requested_poll_stands {off : ObjectKey → Prop} (row : Operations c .empty hs off s)
    (key : ObjectKey) :
    (¬ off key → ∀ poll, s.polls.get? key = some poll → ∃ time ended,
      s.due.get? key = some time ∧ LastEnded key ended hs ∧ time ≤ poll.later ended) ∧
    (∀ hs' broken s', Operation c s hs' broken s' →
      (∀ h ∈ hs', ¬ h.Removes key ∧ ¬ h.FindsNothing key) →
      ((∀ h ∈ hs', ¬ h.AsksForPoll key) → s'.polls.get? key = s.polls.get? key) ∧
      ((∀ h ∈ hs', ¬ h.Runs key) → broken ≠ some key → ∀ time, s.due.get? key = some time →
        ∃ time', s'.due.get? key = some time' ∧ time' ≤ time)) ∧
    (∀ before h after, hs = before ++ h :: after → h.Removes key ∨ h.FindsNothing key →
      (∀ x ∈ after, ¬ x.Reports key ∧ x ≠ .requested key) →
      s.due.get? key = none ∧ s.polls.get? key = none ∧ ¬ off key ∧ ∀ x ∈ after, ¬ x.Runs key) ∧
    ∀ settings, c.reconcile = Sync.reconcile settings → ∀ result ended,
      Happening.ran key result ended ∈ hs → result.outcome = .notFound →
        (Happening.ran key result ended).FindsNothing key := by
  refine ⟨row.pollStands, ?_, ?_, ?_⟩
  · intro hs' broken s' op hkept
    obtain ⟨t, happened, rfl⟩ := op.happened
    constructor
    · intro hasks
      rw [Schedule.polls_without]
      exact happened.polls_eq (fun h hh => ⟨hasks h hh, (hkept h hh).2, (hkept h hh).1⟩)
    · intro hruns hbroken time hdue
      rw [Schedule.due_without hbroken]
      exact happened.due_le (fun h hh => ⟨hruns h hh, (hkept h hh).1⟩) hdue
  · intro before h after hsplit hover hquiet
    obtain ⟨⟨hdue, hpolls⟩, hrest⟩ := row.absent_behind hsplit hover hquiet
    exact ⟨hdue, hpolls, hrest⟩
  · intro settings hsettings result ended hmem hgone
    obtain ⟨v, u, hends⟩ := row.ran_ends hmem
    rw [hsettings] at hends
    obtain ⟨ms, hreconciled⟩ := Sync.reconcile_ends hends
    have hrequeue := (Sync.reconciled_accounted hreconciled).requeue
    rw [if_pos (Or.inl hgone)] at hrequeue
    exact ⟨rfl, hrequeue, hgone⟩

/-! ### Samples -/

namespace Sample

open Sync.Sample (morning session settings syncedWorld)

/-- Ten minutes before the end of the calendar. -/
def lateEvening : Time.Instant := ⟨315537897000000000, by decide⟩

/-- Five minutes before the end of the calendar. -/
def nextPoll : Time.Instant := ⟨315537897300000000, by decide⟩

/-- Four minutes before the end of the calendar. -/
def lastMinutes : Time.Instant := ⟨315537897360000000, by decide⟩

/-- A declaration that was synced long ago. -/
def lateWorld (time : Time.Instant) : World :=
  { syncedWorld morning (session .zero [("a", "1")]) with clock := time }

/-- How the reconcile of a pass ends. -/
def lateRun (time : Time.Instant) : Except Sync.Escape Sync.Result × World :=
  StateT.run (Sync.reconcile settings declaration.key).run (lateWorld time).clockRead

/-- The schedule behind a report of the declaration. -/
def enlistedLate : Schedule := Schedule.empty.enlist declaration lateEvening

/-- The schedule behind its run. -/
def polledLate : Schedule :=
  { enlistedLate with
    due := Dict.ofList [(declaration.key, nextPoll)]
    polls := Dict.ofList [(declaration.key, nextPoll)] }

/-- The declaration is reported and run. -/
def lateHappenings : List Happening :=
  [.event (some "ADDED") declaration, .pass lateEvening, .ran declaration.key synced lateEvening]

set_option maxRecDepth 10000 in
/-- A declaration that is reported in the late evening is synced, and due again in five minutes. -/
theorem polled_late :
    ∃ off, Operations controller .empty lateHappenings off polledLate ∧ ¬ off declaration.key := by
  have hadded : Ends (handleEvent controller (some "ADDED") declaration) .empty
      (lateWorld lateEvening) (.ok ()) enlistedLate (lateWorld lateEvening).clockRead := rfl
  have hasked : Act.Ends Act.now (lateWorld lateEvening) lateEvening
    (lateWorld lateEvening).clockRead := rfl
  have horder : enlistedLate.inOrder = [(declaration.key, lateEvening)] :=
    List.mergeSort_singleton _
  have hends := Act.ends_of_toOption
    (by decide +kernel : (lateRun lateEvening).1.toOption = some synced)
  have hreading : (StateT.run (noteResult controller declaration.key synced)
    (lateRun lateEvening).2).1 = lateEvening := by decide +kernel
  have hsettled : (enlistedLate.start declaration.key).settle? declaration.key synced lateEvening =
    some polledLate := rfl
  refine ⟨_, (Operations.none.next (.event hadded)).next (.run_single horder (by decide) hasked rfl
    hends (Prod.ext hreading rfl) hsettled), ?_⟩
  rintro (⟨⟨⟩⟩ | ⟨⟨⟨⟩⟩ | ⟨⟨⟩, -⟩, -⟩)

end Sample

/-- The statement at a sync that ended late on the last day of the calendar. -/
theorem requested_poll_stands_after_sync :
    ∃ off, Operations Sample.controller .empty Sample.lateHappenings off Sample.polledLate ∧
      Sample.polledLate.polls.get? Sample.declaration.key = some Sample.nextPoll ∧
      ∃ time ended, Sample.polledLate.due.get? Sample.declaration.key = some time ∧
        LastEnded Sample.declaration.key ended Sample.lateHappenings ∧
        time ≤ Sample.nextPoll.later ended := by
  obtain ⟨off, hrow, hkept⟩ := Sample.polled_late
  have hpoll : Sample.polledLate.polls.get? Sample.declaration.key = some Sample.nextPoll := rfl
  exact ⟨off, hrow, hpoll, (requested_poll_stands hrow _).1 hkept _ hpoll⟩

set_option maxRecDepth 10000 in
/-- A run that is broken off because the next one would be due behind the end of the calendar
leaves a poll that is not scheduled. -/
theorem broken_run_leaves_poll :
    ∃ (hs : List Happening) (off : ObjectKey → Prop) (s : Schedule),
      Operations Sample.controller .empty hs off s ∧
        s.polls.get? Sample.declaration.key = some Sample.nextPoll ∧
        s.due.get? Sample.declaration.key = none := by
  obtain ⟨off, hrow, -⟩ := Sample.polled_late
  have hasked : Act.Ends Act.now (Sample.lateWorld Sample.lastMinutes) Sample.lastMinutes
    (Sample.lateWorld Sample.lastMinutes).clockRead := rfl
  have horder : Sample.polledLate.inOrder = [(Sample.declaration.key, Sample.nextPoll)] :=
    List.mergeSort_singleton _
  have hends := Act.ends_of_toOption
    (by decide +kernel : (Sample.lateRun Sample.lastMinutes).1.toOption = some Sample.synced)
  have hreading : (StateT.run (noteResult Sample.controller Sample.declaration.key Sample.synced)
    (Sample.lateRun Sample.lastMinutes).2).1 = Sample.lastMinutes := by decide +kernel
  have hbreaks := ends_dispatch_breaks (s := Sample.polledLate.start Sample.declaration.key) hends
    (Prod.ext hreading rfl) rfl
  exact ⟨_, _, _, hrow.next (.break_single horder (by decide) hasked rfl hbreaks), rfl, rfl⟩

end SecretSync.Controller

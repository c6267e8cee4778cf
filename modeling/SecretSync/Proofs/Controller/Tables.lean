import SecretSync.Proofs.Controller.History

/-!
# The tables of the schedule

What each change does to the due times, the polls and the generations: it concerns one key at most
and leaves what is held of the others.
-/

namespace SecretSync.Controller

variable {key : ObjectKey} {s s' : Schedule} {h : Happening}

namespace Schedule

/-- Requesting a run leaves the generations. -/
@[simp] theorem generations_enqueueAt (key : ObjectKey) (time : Time.Instant) (s : Schedule) :
    (s.enqueueAt key time).generations = s.generations := by
  unfold enqueueAt
  split
  · rfl
  · split <;> rfl

/-- Requesting a run leaves the polls. -/
@[simp] theorem polls_enqueueAt (key : ObjectKey) (time : Time.Instant) (s : Schedule) :
    (s.enqueueAt key time).polls = s.polls := by
  unfold enqueueAt
  split
  · rfl
  · split <;> rfl

/-- What is enqueued is due, and all that was due still is. -/
@[simp] theorem isSome_due_enqueueAt (key k : ObjectKey) (time : Time.Instant) (s : Schedule) :
    ((s.enqueueAt key time).due.get? k).isSome ↔ key = k ∨ (s.due.get? k).isSome := by
  have hinsert : ((s.due.insert key time).get? k).isSome ↔
      key = k ∨ (s.due.get? k).isSome := by
    rw [Dict.get?_insert]
    split <;> simp [*]
  unfold enqueueAt
  split
  · exact hinsert
  · next current hcurrent =>
    split
    · exact hinsert
    · constructor
      · exact Or.inr
      · rintro (rfl | h)
        · rw [hcurrent]
          rfl
        · exact h

/-- The cursor's advance leaves the due table. -/
@[simp] theorem due_advanceCursor (d : Declaration) (s : Schedule) :
    (s.advanceCursor d).due = s.due := by
  unfold advanceCursor
  split <;> rfl

/-- The cursor's advance leaves the polls. -/
@[simp] theorem polls_advanceCursor (d : Declaration) (s : Schedule) :
    (s.advanceCursor d).polls = s.polls := by
  unfold advanceCursor
  split <;> rfl

/-- The cursor's advance leaves the generations. -/
@[simp] theorem generations_advanceCursor (d : Declaration) (s : Schedule) :
    (s.advanceCursor d).generations = s.generations := by
  unfold advanceCursor
  split <;> rfl

/-- The cursor's advance makes no event a repeat and none new. -/
theorem repeats_advanceCursor (type : Option String) (d d' : Declaration) (s : Schedule) :
    (s.advanceCursor d').repeats type d = s.repeats type d := by
  rw [repeats, repeats, generations_advanceCursor]

/-- A result sets a poll, takes it away, falls back on it, or changes nothing. -/
theorem settle?_cases {result : Sync.Result} {now : Time.Instant}
    (h : s.settle? key result now = some s') :
    (∃ delay time, result.requeueAfter = some delay ∧ now.add? delay = some time ∧
      s' = { s with due := s.due.insert key time, polls := s.polls.insert key time }) ∨
    (result.requeueAfter = none ∧ result.outcome = .notFound ∧
      s' = { s with polls := s.polls.erase key }) ∨
    (result.requeueAfter = none ∧ result.outcome ≠ .notFound ∧
      ∃ time, s.polls.get? key = some time ∧
        s' = { s with due := s.due.insert key (time.later now) }) ∨
    (result.requeueAfter = none ∧ result.outcome ≠ .notFound ∧ s.polls.get? key = none ∧
      s' = s) := by
  unfold settle? at h
  split at h
  · next delay hdelay =>
    obtain ⟨time, htime, rfl⟩ := Option.map_eq_some_iff.mp h
    exact Or.inl ⟨delay, time, hdelay, htime, rfl⟩
  · next hnone =>
    split at h
    · next hgone =>
      cases h
      exact Or.inr (Or.inl ⟨hnone, hgone, rfl⟩)
    · next hthere =>
      split at h
      · next time htime =>
        cases h
        exact Or.inr (Or.inr (Or.inl ⟨hnone, hthere, time, htime, rfl⟩))
      · next hfree =>
        cases h
        exact Or.inr (Or.inr (Or.inr ⟨hnone, hthere, hfree, rfl⟩))

private theorem generations_settle? {result : Sync.Result} {now : Time.Instant}
    (h : s.settle? key result now = some s') : s'.generations = s.generations := by
  obtain ⟨_, _, _, _, rfl⟩ | ⟨_, _, rfl⟩ | ⟨_, _, _, _, rfl⟩ | ⟨_, _, _, rfl⟩ := settle?_cases h <;>
    rfl

/-- A key whose run has ended is due exactly if there is a poll for it. -/
theorem isSome_due_settle? {result : Sync.Result} {now : Time.Instant}
    (h : s.settle? key result now = some s') (hfree : s.due.get? key = none) :
    (s'.due.get? key).isSome ↔ (s'.polls.get? key).isSome := by
  obtain ⟨_, _, _, _, rfl⟩ | ⟨_, _, rfl⟩ | ⟨_, _, _, hpoll, rfl⟩ | ⟨_, _, hpoll, rfl⟩ :=
    settle?_cases h
  · simp
  · simp [hfree]
  · simp [hpoll]
  · simp [hfree, hpoll]

end Schedule

/-- Two schedules hold the same of a key. -/
structure SameAt (key : ObjectKey) (s s' : Schedule) : Prop where
  generations : s'.generations.get? key = s.generations.get? key
  polls : s'.polls.get? key = s.polls.get? key
  due : s'.due.get? key = s.due.get? key

/-- Two schedules hold the same of a key through a third one. -/
theorem SameAt.trans {t : Schedule} (h : SameAt key s t) (h' : SameAt key t s') :
    SameAt key s s' :=
  ⟨h'.generations.trans h.generations, h'.polls.trans h.polls, h'.due.trans h.due⟩

private theorem sameAt_advanceCursor (key : ObjectKey) (d : Declaration) (s : Schedule) :
    SameAt key s (s.advanceCursor d) := by
  constructor <;> simp

private theorem sameAt_enqueueAt {k : ObjectKey} (hne : k ≠ key) (time : Time.Instant)
    (s : Schedule) :
    SameAt key s (s.enqueueAt k time) := by
  refine ⟨by simp, by simp, ?_⟩
  unfold Schedule.enqueueAt
  split
  · simp [hne]
  · split <;> simp [hne]

private theorem sameAt_enlist {d : Declaration} (hne : d.key ≠ key) (now : Time.Instant)
    (s : Schedule) :
    SameAt key s (s.enlist d now) := by
  have hnoted : SameAt key s { s with generations := s.generations.insert d.key d.generation } :=
    ⟨by simp [hne], rfl, rfl⟩
  exact hnoted.trans (sameAt_enqueueAt hne now _)

private theorem sameAt_forget {k : ObjectKey} (hne : k ≠ key) (s : Schedule) :
    SameAt key s (s.forget k) := by
  constructor <;> simp [Schedule.forget, hne]

private theorem sameAt_settle? {k : ObjectKey} (hne : k ≠ key) {result : Sync.Result}
    {now : Time.Instant}
    (h : s.settle? k result now = some s') : SameAt key s s' := by
  obtain ⟨_, _, _, _, rfl⟩ | ⟨_, _, rfl⟩ | ⟨_, _, _, _, rfl⟩ | ⟨_, _, _, rfl⟩ :=
    Schedule.settle?_cases h <;> constructor <;> simp [hne]

/-- What does not happen to a key leaves what the schedule holds of it. -/
theorem Happens.sameAt (step : Happens s h s') (hother : ¬ h.Concerns key) : SameAt key s s' := by
  cases step with
  | listed d now => exact sameAt_enlist hother now s
  | cursor version => exact ⟨rfl, rfl, rfl⟩
  | deleted d => exact (sameAt_advanceCursor key d s).trans (sameAt_forget hother _)
  | repeated kept known => exact sameAt_advanceCursor key _ s
  | reported now kept new => exact (sameAt_advanceCursor key _ s).trans (sameAt_enlist hother now _)
  | requested k time => exact sameAt_enqueueAt hother time s
  | forgotten k => exact sameAt_forget hother s
  | pass now => exact ⟨rfl, rfl, rfl⟩
  | @ran k _ _ _ settled =>
    have hne : k ≠ key := hother
    have hstarted : SameAt key s (s.start k) := ⟨rfl, rfl, by simp [Schedule.start, hne]⟩
    exact hstarted.trans (sameAt_settle? hne settled)

/-- A history that does not concern a key leaves what the schedule holds of it. -/
theorem Happened.sameAt {hs : List Happening} (happened : Happened s hs s')
    (hother : ∀ h ∈ hs, ¬ h.Concerns key) : SameAt key s s' := by
  induction happened with
  | none => exact ⟨rfl, rfl, rfl⟩
  | next _ step ih =>
    obtain ⟨hearlier, hlast⟩ := List.forall_mem_append.mp hother
    exact (ih hearlier).trans (step.sameAt (hlast _ List.mem_cons_self))

/-! ### The generations -/

/-- The generation that the schedule holds of a key is the one that was last reported. -/
def Noted (key : ObjectKey) (hs : List Happening) (s : Schedule) : Prop :=
  ∀ g, s.generations.get? key = some g ↔ LastReportedAt key g hs

/-- Nothing is noted of an empty history. -/
theorem noted_empty (key : ObjectKey) : Noted key [] Schedule.empty :=
  fun _ => iff_of_false (nomatch ·) not_since_nil

namespace Noted

open Happening

variable {hs : List Happening} {d : Declaration} {type : Option String}

/-- An event is taken for a repetition exactly if it tells a modification that leaves the generation
as it was last reported. -/
theorem repeats_iff (noted : Noted d.key hs s) :
    s.repeats type d = true ↔
      type = some "MODIFIED" ∧ LastReportedAt d.key d.generation hs := by
  rw [Schedule.repeats, Bool.and_eq_true, beq_iff_eq, beq_iff_eq, noted]

/-- What neither reports nor removes a key leaves the generation that is held of it. -/
theorem kept (noted : Noted key hs s)
    (hsame : s'.generations.get? key = s.generations.get? key) (hreports : ¬ h.Reports key)
    (hremoves : ¬ h.Removes key) : Noted key (hs ++ [h]) s' := by
  intro g
  rw [hsame, noted]
  exact (since_concat_of_not (mt ReportsAt.reports hreports) ⟨hreports, hremoves⟩).symm

/-- Of a key that is removed no generation is held. -/
theorem removed (hremoves : h.Removes key) (hs : List Happening) (s : Schedule) :
    Noted key (hs ++ [h]) (s.forget key) := by
  intro g
  refine iff_of_false (by simp [Schedule.forget]) ?_
  exact not_since_concat (mt ReportsAt.reports (hremoves.only hs).1)
    (fun hstays => hstays.2 hremoves)

/-- Whatever happens, the generation that is held is the one that was last reported. -/
theorem next (noted : Noted key hs s) (step : Happens s h s') : Noted key (hs ++ [h]) s' := by
  by_cases hconcerns : h.Concerns key
  case neg =>
    obtain ⟨hreports, hremoves, -⟩ := of_not_concerns hconcerns hs
    exact noted.kept (step.sameAt hconcerns).generations hreports hremoves
  cases step with
  | listed d now =>
    cases hconcerns
    intro g
    simp [LastReportedAt, since_concat, ReportsAt, Reports, report?, Schedule.enlist]
  | cursor version => exact hconcerns.elim
  | deleted d =>
    cases hconcerns
    have hremoves : (Happening.event (some "DELETED") d).Removes d.key := ⟨rfl, rfl⟩
    exact removed hremoves hs _
  | repeated kept known =>
    cases hconcerns
    intro g
    have hlast := (noted _).mpr (noted.repeats_iff.mp known).2
    simp [LastReportedAt, since_concat, ReportsAt, Reports, report?, kept, hlast]
  | reported now kept new =>
    cases hconcerns
    intro g
    simp [LastReportedAt, since_concat, ReportsAt, Reports, report?, kept, Schedule.enlist]
  | requested k time =>
    cases hconcerns
    have hreports : ¬ (Happening.requested key).Reports key := by rintro ⟨_, ⟨⟩, _⟩
    exact noted.kept (by simp) hreports id
  | forgotten k =>
    cases hconcerns
    have hremoves : (Happening.forgotten key).Removes key := rfl
    exact removed hremoves hs s
  | pass now => exact hconcerns.elim
  | ran settled =>
    refine noted.kept ?_ (by rintro ⟨_, ⟨⟩, _⟩) id
    rw [Schedule.generations_settle? settled]
    rfl

end Noted

/-- Along every history the generation that is held is the one that was last reported. -/
theorem Happened.noted {past hs : List Happening} {t : Schedule} (happened : Happened s hs t)
    (noted : Noted key past s) : Noted key (past ++ hs) t := by
  induction happened with
  | none =>
    rw [List.append_nil]
    exact noted
  | next _ step ih =>
    rw [← List.append_assoc]
    exact ih.next step

end SecretSync.Controller

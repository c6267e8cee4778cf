import SecretSync.Controller.Schedule

/-!
# What happens to the schedule

Whatever the controller does changes the schedule in one of a few ways.  `Happens` lists them, and a
history of them says what the schedule must hold.  `Since` tells that something has happened and
that from then on all was of some sort; what a schedule holds is stated with it.
-/

namespace SecretSync.Controller

/-- Something that happens to the schedule. -/
inductive Happening where
  /-- A list holds a declaration. -/
  | listed (d : Declaration)
  /-- The next watch is to start behind a version. -/
  | cursor (version : Json)
  /-- An event of a watch tells of a declaration. -/
  | event (type : Option String) (d : Declaration)
  /-- A run of a key is asked for. -/
  | requested (key : ObjectKey)
  /-- A key is given up. -/
  | forgotten (key : ObjectKey)
  /-- The clock is read for a pass over what is due. -/
  | pass (now : Time.Instant)
  /-- A key was taken off the schedule and run, and the run had ended when the clock was read. -/
  | ran (key : ObjectKey) (result : Sync.Result) (ended : Time.Instant)

/-- What a happening does to the schedule. -/
inductive Happens (s : Schedule) : Happening → Schedule → Prop
  | listed (d : Declaration) (now : Time.Instant) : Happens s (.listed d) (s.enlist d now)
  | cursor (version : Json) : Happens s (.cursor version) { s with cursor := version }
  | deleted (d : Declaration) :
    Happens s (.event (some "DELETED") d) ((s.advanceCursor d).forget d.key)
  | repeated {type : Option String} {d : Declaration} (kept : type ≠ some "DELETED")
    (known : s.repeats type d = true) : Happens s (.event type d) (s.advanceCursor d)
  | reported {type : Option String} {d : Declaration} (now : Time.Instant)
    (kept : type ≠ some "DELETED") (new : s.repeats type d = false) :
    Happens s (.event type d) ((s.advanceCursor d).enlist d now)
  | requested (key : ObjectKey) (time : Time.Instant) :
    Happens s (.requested key) (s.enqueueAt key time)
  | forgotten (key : ObjectKey) : Happens s (.forgotten key) (s.forget key)
  | pass (now : Time.Instant) : Happens s (.pass now) s
  | ran {key : ObjectKey} {result : Sync.Result} {ended : Time.Instant} {s' : Schedule}
    (settled : (s.start key).settle? key result ended = some s') :
    Happens s (.ran key result ended) s'

/-- A history leads from one schedule to another. -/
inductive Happened (s : Schedule) : List Happening → Schedule → Prop
  | none : Happened s [] s
  | next {hs : List Happening} {h : Happening} {t s' : Schedule} (earlier : Happened s hs t)
    (step : Happens t h s') : Happened s (hs ++ [h]) s'

/-- One happening is a history of one. -/
theorem Happens.happened {s s' : Schedule} {h : Happening} (step : Happens s h s') :
    Happened s [h] s' := .next .none step

/-- Two histories one behind the other are a history. -/
theorem Happened.trans {s t s' : Schedule} {hs hs' : List Happening} (earlier : Happened s hs t)
    (later : Happened t hs' s') : Happened s (hs ++ hs') s' := by
  induction later with
  | none =>
    rw [List.append_nil]
    exact earlier
  | next _ step ih =>
    rw [← List.append_assoc]
    exact ih.next step

/-- A history that goes on behind another one splits between them. -/
theorem happened_append {s s' : Schedule} {hs hs' : List Happening} :
    Happened s (hs ++ hs') s' ↔ ∃ t, Happened s hs t ∧ Happened t hs' s' := by
  constructor
  · intro h
    generalize heq : hs ++ hs' = all at h
    induction h generalizing hs' with
    | none =>
      obtain ⟨rfl, rfl⟩ := List.append_eq_nil_iff.mp heq
      exact ⟨s, .none, .none⟩
    | next earlier step ih =>
      rcases List.eq_nil_or_concat hs' with rfl | ⟨hs', last, rfl⟩
      · rw [List.append_nil] at heq
        subst heq
        exact ⟨_, earlier.next step, .none⟩
      · rw [List.concat_eq_append, ← List.append_assoc] at heq
        obtain ⟨hall, hlast⟩ := List.append_inj' heq rfl
        cases hlast
        obtain ⟨t, hfirst, hrest⟩ := ih hall
        rw [List.concat_eq_append]
        exact ⟨t, hfirst, hrest.next step⟩
  · rintro ⟨t, hfirst, hrest⟩
    exact hfirst.trans hrest

private theorem eq_of_happened_nil {s s' : Schedule} (happened : Happened s [] s') : s' = s := by
  generalize heq : [] = all at happened
  cases happened with
  | none => rfl
  | next => simp at heq

/-- A history goes on behind its first happening. -/
theorem happened_cons {s s' : Schedule} {h : Happening} {hs : List Happening} :
    Happened s (h :: hs) s' ↔ ∃ t, Happens s h t ∧ Happened t hs s' := by
  constructor
  · intro happened
    generalize heq : h :: hs = all at happened
    induction happened generalizing hs with
    | none => cases heq
    | @next all last t s' earlier step ih =>
      cases all with
      | nil =>
        cases heq
        cases eq_of_happened_nil earlier
        exact ⟨s', step, .none⟩
      | cons first rest =>
        cases heq
        obtain ⟨u, hfirst, hrest⟩ := ih rfl
        exact ⟨u, hfirst, hrest.next step⟩
  · rintro ⟨t, hfirst, hrest⟩
    exact hfirst.happened.trans hrest

/-- Where a happening of two lists one behind the other stands: in the second one or in the
first. -/
theorem append_eq_append_cons {hs hs' before after : List Happening} {h : Happening}
    (hsplit : hs ++ hs' = before ++ h :: after) :
    (∃ mid, before = hs ++ mid ∧ hs' = mid ++ h :: after) ∨
      ∃ rest, hs = before ++ h :: rest ∧ after = rest ++ hs' := by
  obtain ⟨mid, hbefore, hhs'⟩ | ⟨mid, hhs, hrest⟩ := List.append_eq_append_iff.mp hsplit
  · exact Or.inl ⟨mid, hbefore, hhs'⟩
  · cases mid with
    | nil => exact Or.inl ⟨[], by simpa using hhs.symm, hrest.symm⟩
    | cons first rest =>
      obtain ⟨rfl, rfl⟩ := List.cons.inj hrest
      exact Or.inr ⟨rest, hhs, rfl⟩

/-! ### What a history tells -/

/-- Something has happened, seen from what was before it, and all that has happened behind it is of
some sort. -/
def Since (P : List Happening → Happening → Prop) (Q : Happening → Prop)
    (hs : List Happening) : Prop :=
  ∃ before h after, hs = before ++ h :: after ∧ P before h ∧ ∀ x ∈ after, Q x

variable {P : List Happening → Happening → Prop} {Q : Happening → Prop}

/-- Nothing lasts since a happening in an empty history. -/
theorem not_since_nil : ¬ Since P Q [] := by
  rintro ⟨before, h, after, heq, -⟩
  simp at heq

/-- The last happening was it, or is of the sort that may follow. -/
theorem since_concat (hs : List Happening) (h : Happening) :
    Since P Q (hs ++ [h]) ↔ P hs h ∨ Q h ∧ Since P Q hs := by
  constructor
  · rintro ⟨before, h', after, heq, hP, hQ⟩
    rcases List.eq_nil_or_concat after with rfl | ⟨after, last, rfl⟩
    · obtain ⟨rfl, hlast⟩ := List.append_inj' heq rfl
      cases hlast
      exact Or.inl hP
    · rw [List.concat_eq_append] at heq hQ
      rw [← List.cons_append, ← List.append_assoc] at heq
      obtain ⟨rfl, hlast⟩ := List.append_inj' heq rfl
      cases hlast
      rw [List.forall_mem_append, List.forall_mem_singleton] at hQ
      exact Or.inr ⟨hQ.2, before, h', after, rfl, hP, hQ.1⟩
  · rintro (hP | ⟨hQ, before, h', after, rfl, hP, hafter⟩)
    · exact ⟨hs, h, [], rfl, hP, fun _ hx => nomatch hx⟩
    · refine ⟨before, h', after ++ [h], by rw [List.append_assoc]; rfl, hP, ?_⟩
      exact List.forall_mem_append.mpr ⟨hafter, List.forall_mem_singleton.mpr hQ⟩

/-- What has not just begun and is not just over is as it was. -/
theorem since_concat_of_not {hs : List Happening} {h : Happening} (hP : ¬ P hs h) (hQ : Q h) :
    Since P Q (hs ++ [h]) ↔ Since P Q hs := by
  rw [since_concat]
  exact ⟨fun hsince => (hsince.resolve_left hP).2, fun hsince => Or.inr ⟨hQ, hsince⟩⟩

/-- What is over, and has not just begun anew, is over. -/
theorem not_since_concat {hs : List Happening} {h : Happening} (hP : ¬ P hs h) (hQ : ¬ Q h) :
    ¬ Since P Q (hs ++ [h]) := by
  rw [since_concat]
  exact not_or.mpr ⟨hP, fun hsince => hQ hsince.1⟩

namespace Happening

/-- The declaration that a list or an event reports as being there. -/
def report? : Happening → Option Declaration
  | .listed d => some d
  | .event type d => if type = some "DELETED" then none else some d
  | _ => none

/-- Whether a declaration with a key is reported. -/
def Reports (key : ObjectKey) (h : Happening) : Prop := ∃ d, h.report? = some d ∧ d.key = key

/-- Whether a declaration with a key and a generation is reported. -/
def ReportsAt (key : ObjectKey) (generation : Option Int) (h : Happening) : Prop :=
  ∃ d, h.report? = some d ∧ d.key = key ∧ d.generation = generation

/-- Whether a key is deleted or given up. -/
def Removes (key : ObjectKey) : Happening → Prop
  | .event type d => type = some "DELETED" ∧ d.key = key
  | .forgotten k => k = key
  | _ => False

/-- Whether a key was run. -/
def Runs (key : ObjectKey) : Happening → Prop
  | .ran k _ _ => k = key
  | _ => False

/-- Whether it happens to a key. -/
def Concerns (key : ObjectKey) : Happening → Prop
  | .listed d => d.key = key
  | .event _ d => d.key = key
  | .requested k => k = key
  | .forgotten k => k = key
  | .ran k _ _ => k = key
  | .cursor _ => False
  | .pass _ => False

/-- Whether a run of a key asked for another one. -/
def AsksForPoll (key : ObjectKey) : Happening → Prop
  | .ran k result _ => k = key ∧ result.requeueAfter ≠ none
  | _ => False

/-- Whether a run of a key found nothing, and asked for no other one. -/
def FindsNothing (key : ObjectKey) : Happening → Prop
  | .ran k result _ => k = key ∧ result.requeueAfter = none ∧ result.outcome = .notFound
  | _ => False

variable {key : ObjectKey} {h : Happening} {hs : List Happening}

/-- A report at a generation is a report. -/
theorem ReportsAt.reports {generation : Option Int} (hat : h.ReportsAt key generation) :
    h.Reports key := by
  obtain ⟨d, hd, hkey, -⟩ := hat
  exact ⟨d, hd, hkey⟩

/-- A run that asks for a poll is a run. -/
theorem AsksForPoll.runs (hasks : h.AsksForPoll key) : h.Runs key := by
  cases h with
  | ran => exact hasks.1
  | _ => exact hasks

/-- A run that finds nothing is a run. -/
theorem FindsNothing.runs (hfinds : h.FindsNothing key) : h.Runs key := by
  cases h with
  | ran => exact hfinds.1
  | _ => exact hfinds

end Happening

/-- The generation of a key as it was last reported since the key was removed. -/
def LastReportedAt (key : ObjectKey) (generation : Option Int) : List Happening → Prop :=
  Since (fun _ h => h.ReportsAt key generation) (fun h => ¬ h.Reports key ∧ ¬ h.Removes key)

/-- Whether a run of a key is called for: it is requested, or reported otherwise than as modified
with the generation that was last reported. -/
def CallsForRun (key : ObjectKey) (before : List Happening) : Happening → Prop
  | .listed d => d.key = key
  | .event type d => type ≠ some "DELETED" ∧ d.key = key ∧
      ¬ (type = some "MODIFIED" ∧ LastReportedAt key d.generation before)
  | .requested k => k = key
  | _ => False

/-- A run of a key was called for, and since then the key was neither run nor removed. -/
def Awaited (key : ObjectKey) : List Happening → Prop :=
  Since (CallsForRun key) (fun h => ¬ h.Runs key ∧ ¬ h.Removes key)

/-- A run of a key asked for another one, and since then no run found nothing and the key was not
removed. -/
def Polled (key : ObjectKey) : List Happening → Prop :=
  Since (fun _ h => h.AsksForPoll key) (fun h => ¬ h.FindsNothing key ∧ ¬ h.Removes key)

/-- A key was reported, and since then no run found nothing and the key was not removed. -/
def Live (key : ObjectKey) : List Happening → Prop :=
  Since (fun _ h => h.Reports key) (fun h => ¬ h.FindsNothing key ∧ ¬ h.Removes key)

namespace Happening

variable {key : ObjectKey} {h : Happening}

/-- What removes a key does nothing else to it. -/
theorem Removes.only (hremoves : h.Removes key) (hs : List Happening) :
    ¬ h.Reports key ∧ ¬ h.Runs key ∧ ¬ CallsForRun key hs h := by
  cases h <;> simp_all [Removes, Reports, report?, Runs, CallsForRun]

/-- What does not happen to a key does nothing to it. -/
theorem of_not_concerns (hother : ¬ h.Concerns key) (hs : List Happening) :
    ¬ h.Reports key ∧ ¬ h.Removes key ∧ ¬ h.Runs key ∧ ¬ CallsForRun key hs h := by
  cases h <;> simp_all [Concerns, Removes, Reports, report?, Runs, CallsForRun]

end Happening

end SecretSync.Controller

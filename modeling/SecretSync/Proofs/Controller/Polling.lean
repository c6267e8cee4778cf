import SecretSync.Proofs.Controller.Operation
import SecretSync.Proofs.Sync.Run

/-!
# Which keys are scheduled

The tables of the schedule are functions of what has happened: the generations tell how a key was
last reported, the polls tell whether a run asked for another one that still stands, and a key is
due exactly if a run is awaited or such a poll stands.  Only the due time of a key whose last run
was broken off tells nothing. -/

namespace SecretSync.Controller

variable {key : ObjectKey} {hs hs' : List Happening} {s s' t : Schedule} {h : Happening}
  {kept kept' : Prop}

/-- The tables of a schedule tell of a key what has happened to it; the due times only if its last
run was not broken off. -/
structure Tracks (key : ObjectKey) (kept : Prop) (hs : List Happening) (s : Schedule) : Prop where
  noted : Noted key hs s
  poll : (s.polls.get? key).isSome ↔ Polled key hs
  due : kept → ((s.due.get? key).isSome ↔ Awaited key hs ∨ Polled key hs)

private theorem tracks_empty (key : ObjectKey) (kept : Prop) :
    Tracks key kept [] Schedule.empty where
  noted := noted_empty key
  poll := iff_of_false (nomatch ·) not_since_nil
  due _ := iff_of_false (nomatch ·) (not_or.mpr ⟨not_since_nil, not_since_nil⟩)

namespace Tracks

open Happening

variable {d : Declaration} {type : Option String}

/-- What does not happen to a key leaves it as it is. -/
theorem other (tracks : Tracks key kept hs s) (step : Happens s h s')
    (hother : ¬ h.Concerns key) : Tracks key kept (hs ++ [h]) s' := by
  obtain ⟨hreports, hremoves, hruns, hcalls⟩ := of_not_concerns hother hs
  have hsame := step.sameAt hother
  have hpolled : Polled key (hs ++ [h]) ↔ Polled key hs :=
    since_concat_of_not (mt AsksForPoll.runs hruns) ⟨mt FindsNothing.runs hruns, hremoves⟩
  constructor
  · exact tracks.noted.next step
  · rw [hsame.polls, tracks.poll, hpolled]
  · intro hkept
    rw [hsame.due, tracks.due hkept, hpolled, Awaited,
      since_concat_of_not hcalls ⟨hruns, hremoves⟩]

/-- A listed declaration keeps the tables in step with the history. -/
theorem listed (tracks : Tracks d.key kept hs s) (now : Time.Instant) :
    Tracks d.key kept (hs ++ [.listed d]) (s.enlist d now) where
  noted := tracks.noted.next (.listed d now)
  poll := by
    simp [Polled, since_concat, AsksForPoll, FindsNothing, Removes, Schedule.enlist, tracks.poll]
  due _ := by simp [Awaited, since_concat, CallsForRun, Schedule.enlist]

/-- A reported declaration keeps the tables in step with the history. -/
theorem reported (tracks : Tracks d.key kept hs s) (hkept : type ≠ some "DELETED")
    (new : s.repeats type d = false) (now : Time.Instant) :
    Tracks d.key kept (hs ++ [.event type d]) ((s.advanceCursor d).enlist d now) where
  noted := tracks.noted.next (.reported now hkept new)
  poll := by
    simp [Polled, since_concat, AsksForPoll, FindsNothing, Removes, hkept, Schedule.enlist,
      tracks.poll]
  due _ := by
    have hnew := mt tracks.noted.repeats_iff.mpr (Bool.eq_false_iff.mp new)
    simp [Awaited, since_concat, CallsForRun, hkept, hnew, Schedule.enlist]

/-- An event that is taken for a repetition changes nothing that is known of its key. -/
theorem repeated (tracks : Tracks d.key kept hs s) (hkept : type ≠ some "DELETED")
    (known : s.repeats type d = true) :
    Tracks d.key kept (hs ++ [.event type d]) (s.advanceCursor d) where
  noted := tracks.noted.next (.repeated hkept known)
  poll := by
    simp [Polled, since_concat, AsksForPoll, FindsNothing, Removes, hkept, tracks.poll]
  due hwhole := by
    have hknown := tracks.noted.repeats_iff.mp known
    simp [Awaited, Polled, since_concat, CallsForRun, Runs, AsksForPoll, FindsNothing, Removes,
      hknown, tracks.due hwhole]

/-- A requested run keeps the tables in step with the history. -/
theorem requested (tracks : Tracks key kept hs s) (time : Time.Instant) :
    Tracks key kept (hs ++ [.requested key]) (s.enqueueAt key time) where
  noted := tracks.noted.next (.requested key time)
  poll := by
    simp [Polled, since_concat, AsksForPoll, FindsNothing, Removes, tracks.poll]
  due _ := by simp [Awaited, since_concat, CallsForRun]

/-- Of a key that is removed nothing is known any more. -/
theorem removed (hremoves : h.Removes key) (hs : List Happening) (s : Schedule) :
    Tracks key kept (hs ++ [h]) (s.forget key) := by
  obtain ⟨hreports, hruns, hcalls⟩ := hremoves.only hs
  have hpolled : ¬ Polled key (hs ++ [h]) :=
    not_since_concat (mt AsksForPoll.runs hruns) (fun hstays => hstays.2 hremoves)
  have hawaited : ¬ Awaited key (hs ++ [h]) :=
    not_since_concat hcalls (fun hstays => hstays.2 hremoves)
  constructor
  · exact Noted.removed hremoves hs s
  · exact iff_of_false (by simp [Schedule.forget]) hpolled
  · exact fun _ => iff_of_false (by simp [Schedule.forget]) (not_or.mpr ⟨hawaited, hpolled⟩)

private theorem poll_ran {result : Sync.Result} {ended : Time.Instant}
    (tracks : Tracks key kept hs s)
    (settled : (s.start key).settle? key result ended = some s') :
    (s'.polls.get? key).isSome ↔ Polled key (hs ++ [.ran key result ended]) := by
  have hstarted : (s.start key).polls = s.polls := rfl
  rw [Polled, since_concat, ← Polled, ← tracks.poll]
  obtain ⟨_, _, hsome, _, rfl⟩ | ⟨hnone, hgone, rfl⟩ | ⟨hnone, hthere, _, hpoll, rfl⟩ |
    ⟨hnone, hthere, hpoll, rfl⟩ := Schedule.settle?_cases settled
  · simp [AsksForPoll, hsome]
  · simp [AsksForPoll, FindsNothing, hnone, hgone]
  · simp [AsksForPoll, FindsNothing, Removes, hnone, hthere, hstarted]
  · simp [AsksForPoll, FindsNothing, Removes, hnone, hthere, hstarted]

/-- A run that ends with a result mends what one that was broken off has left. -/
theorem ran {result : Sync.Result} {ended : Time.Instant} (tracks : Tracks key kept hs s)
    (settled : (s.start key).settle? key result ended = some s') :
    Tracks key kept' (hs ++ [.ran key result ended]) s' := by
  have hawaited : ¬ Awaited key (hs ++ [.ran key result ended]) :=
    not_since_concat id (fun hstays => hstays.1 rfl)
  have hpoll := tracks.poll_ran settled
  constructor
  · exact tracks.noted.next (.ran settled)
  · exact hpoll
  · intro _
    have hfree : (s.start key).due.get? key = none := by simp [Schedule.start]
    rw [Schedule.isSome_due_settle? settled hfree, hpoll]
    exact ⟨Or.inr, fun h => h.resolve_left hawaited⟩

/-- Tables in step for more stay in step for less. -/
theorem weaken (tracks : Tracks key kept hs s) (hkept : kept' → kept) :
    Tracks key kept' hs s :=
  ⟨tracks.noted, tracks.poll, tracks.due ∘ hkept⟩

/-- Whatever happens, the tables keep telling what has happened, and they do so again of a key that
is run or removed. -/
theorem next (tracks : Tracks key kept hs s) (step : Happens s h s')
    (hmends : kept' → kept ∨ h.Runs key ∨ h.Removes key) : Tracks key kept' (hs ++ [h]) s' := by
  have hstays (hruns : ¬ h.Runs key) (hremoves : ¬ h.Removes key) : kept' → kept := fun hkept =>
    (hmends hkept).resolve_right (not_or.mpr ⟨hruns, hremoves⟩)
  by_cases hconcerns : h.Concerns key
  case neg =>
    obtain ⟨-, hremoves, hruns, -⟩ := of_not_concerns hconcerns hs
    exact (tracks.other step hconcerns).weaken (hstays hruns hremoves)
  cases step with
  | listed d now =>
    cases hconcerns
    exact (tracks.listed now).weaken (hstays id id)
  | cursor version => exact hconcerns.elim
  | deleted d =>
    cases hconcerns
    have hremoves : (Happening.event (some "DELETED") d).Removes d.key := ⟨rfl, rfl⟩
    exact removed hremoves hs _
  | repeated kept known =>
    cases hconcerns
    exact (tracks.repeated kept known).weaken (hstays id (fun hremoves => kept hremoves.1))
  | reported now kept new =>
    cases hconcerns
    exact (tracks.reported kept new now).weaken (hstays id (fun hremoves => kept hremoves.1))
  | requested k time =>
    cases hconcerns
    exact (tracks.requested time).weaken (hstays id id)
  | forgotten k =>
    cases hconcerns
    have hremoves : (Happening.forgotten key).Removes key := rfl
    exact removed hremoves hs s
  | pass now => exact hconcerns.elim
  | ran settled =>
    cases hconcerns
    exact tracks.ran settled

end Tracks

/-- Along every history the tables keep telling what has happened. -/
theorem Happened.tracks (happened : Happened s hs' t) (tracks : Tracks key kept hs s) :
    Tracks key (kept ∨ ∃ h ∈ hs', h.Runs key ∨ h.Removes key) (hs ++ hs') t := by
  induction happened with
  | none =>
    rw [List.append_nil]
    exact tracks.weaken (fun hkept => hkept.resolve_right nofun)
  | @next hs' h _ _ _ step ih =>
    rw [← List.append_assoc]
    refine ih.next step ?_
    rintro (hkept | ⟨x, hx, hmends⟩)
    · exact Or.inl (Or.inl hkept)
    · rcases List.mem_append.mp hx with hx | hx
      · exact Or.inl (Or.inr ⟨x, hx, hmends⟩)
      · cases List.mem_singleton.mp hx
        exact Or.inr hmends

/-- Along every row of operations the tables tell what has happened. -/
theorem Operations.tracks {c : Settings} {off : ObjectKey → Prop}
    (row : Operations c .empty hs off s) (key : ObjectKey) : Tracks key (¬ off key) hs s := by
  induction row with
  | none => exact tracks_empty key _
  | @next hs hs' off broken _ _ earlier last ih =>
    obtain ⟨t, happened, rfl⟩ := last.happened
    have htracks := happened.tracks ih
    refine ⟨?_, ?_, fun hkept => ?_⟩
    · intro g
      rw [Schedule.generations_without]
      exact htracks.noted g
    · rw [Schedule.polls_without]
      exact htracks.poll
    · obtain ⟨hbroken, hoff⟩ := not_or.mp hkept
      rw [Schedule.due_without hbroken]
      refine htracks.due ?_
      by_cases hlost : off key
      · refine Or.inr (Classical.byContradiction (fun hnone => hoff ⟨hlost, fun h hh => ?_⟩))
        exact not_or.mp (fun hmends => hnone ⟨h, hh, hmends⟩)
      · exact Or.inl hlost

/-- Between operations, those that end with an error among them, a key is due exactly if a run of it
is awaited or a poll of it stands; unless its last run was broken off. -/
theorem scheduled_iff {c : Settings} {off : ObjectKey → Prop}
    (row : Operations c .empty hs off s) (key : ObjectKey) (kept : ¬ off key) :
    (s.due.get? key).isSome ↔ Awaited key hs ∨ Polled key hs :=
  (row.tracks key).due kept

/-! ### A sample

A controller that is told of a declaration and runs it. -/

namespace Sample

open Sync.Sample (noon morning settings syncedWorld)

/-- The controller of all namespaces. -/
def controller : Settings := ⟨⟨30⟩, none, defaultWatchTimeout, 5, Sync.reconcile settings⟩

/-- The declaration that an event tells of. -/
def declaration : Declaration where
  name := "app"
  ns := some "default"
  uid := some "u1"
  resourceVersion := none
  generation := none
  labels := Dict.empty
  annotations := Dict.empty
  spec := ⟨"org", "app-env", ⟨"auth", "token"⟩, none⟩
  status := ⟨some noon, []⟩

/-- The schedule behind the event. -/
def enlisted : Schedule := Schedule.empty.enlist declaration noon

/-- The world in which the declaration is run, last synced at a time. -/
def dueWorld (time : Time.Instant) (next : Vault.Session) : World :=
  (syncedWorld time next).clockRead.clockRead

/-- The declaration is reported, and run with a result. -/
def happenings (result : Sync.Result) (ended : Time.Instant) : List Happening :=
  [.event (some "ADDED") declaration, .pass noon, .ran declaration.key result ended]

/-- A declaration that is reported is due, and the next pass runs it. -/
theorem operated {time : Time.Instant} {next : Vault.Session} {result : Sync.Result} {u w' : World}
    {ended : Time.Instant}
    (ends : Act.Ends (Sync.reconcile settings declaration.key).run (dueWorld time next)
      (.ok result) u)
    (reading : Act.Ends (noteResult controller declaration.key result) u ended w')
    (settled : (enlisted.start declaration.key).settle? declaration.key result ended = some s) :
    ∃ off, Operations controller .empty (happenings result ended) off s ∧
      ¬ off declaration.key := by
  have hadded : Ends (handleEvent controller (some "ADDED") declaration) .empty
      (syncedWorld time next) (.ok ()) enlisted (syncedWorld time next).clockRead := rfl
  have hasked : Act.Ends Act.now (syncedWorld time next).clockRead noon (dueWorld time next) := rfl
  have horder : enlisted.inOrder = [(declaration.key, noon)] := List.mergeSort_singleton _
  refine ⟨_, (Operations.none.next (.event hadded)).next
    (.run_single horder (by decide) hasked rfl ends reading settled), ?_⟩
  rintro (⟨⟨⟩⟩ | ⟨⟨⟨⟩⟩ | ⟨⟨⟩, -⟩, -⟩)

/-- The run fills the target. -/
def synced : Sync.Result := ⟨.synced, some (.ofSeconds 300), "Completed sync for default/app"⟩

/-- The run meets an echo. -/
def echo : Sync.Result := ⟨.skippedEcho, none, ""⟩

private theorem polled_synced (ended : Time.Instant) :
    Polled declaration.key (happenings synced ended) := by
  have hasks : Happening.AsksForPoll declaration.key (.ran declaration.key synced ended) :=
    ⟨rfl, nofun⟩
  exact ⟨[.event (some "ADDED") declaration, .pass noon], _, [], rfl, hasks,
    fun _ hx => nomatch hx⟩

private theorem live_echo (ended : Time.Instant) :
    Live declaration.key (happenings echo ended) := by
  refine ⟨[], _, _, rfl, ⟨declaration, rfl, rfl⟩, ?_⟩
  simp [Happening.FindsNothing, Happening.Removes, echo]

end Sample

set_option maxRecDepth 10000 in
/-- The statement at the happenings of one sync, whose poll is the only entry. -/
theorem scheduled_iff_after_sync :
    ∃ (ended : Time.Instant) (off : ObjectKey → Prop) (s : Schedule),
      Operations Sample.controller .empty (Sample.happenings Sample.synced ended) off s ∧
      ¬ off Sample.declaration.key ∧
      Polled Sample.declaration.key (Sample.happenings Sample.synced ended) ∧
      ((s.due.get? Sample.declaration.key).isSome ↔
        Awaited Sample.declaration.key (Sample.happenings Sample.synced ended) ∨
          Polled Sample.declaration.key (Sample.happenings Sample.synced ended)) := by
  have hends := Act.ends_of_toOption (by decide +kernel : (StateT.run
    (Sync.reconcile Sync.Sample.settings Sample.declaration.key).run
    (Sample.dueWorld Sync.Sample.morning (Sync.Sample.session .zero [("a", "1")]))).1.toOption =
      some Sample.synced)
  have hsettles : ((Sample.enlisted.start Sample.declaration.key).settle? Sample.declaration.key
      Sample.synced (StateT.run
        (noteResult Sample.controller Sample.declaration.key Sample.synced) (StateT.run
        (Sync.reconcile Sync.Sample.settings Sample.declaration.key).run
        (Sample.dueWorld Sync.Sample.morning
          (Sync.Sample.session .zero [("a", "1")]))).2).1).isSome := by
    decide +kernel
  obtain ⟨s, hsettled⟩ := Option.isSome_iff_exists.mp hsettles
  obtain ⟨off, hrow, hkept⟩ := Sample.operated hends (Act.ends_self _ _) hsettled
  exact ⟨_, off, s, hrow, hkept, Sample.polled_synced _, scheduled_iff hrow _ hkept⟩

set_option maxRecDepth 10000 in
/-- A first run that falls into the guard window ends the polling of a declaration that is there. -/
theorem first_echo_ends_polling :
    ∃ (ended : Time.Instant) (off : ObjectKey → Prop) (s : Schedule),
      Operations Sample.controller .empty (Sample.happenings Sample.echo ended) off s ∧
      ¬ off Sample.declaration.key ∧
      Live Sample.declaration.key (Sample.happenings Sample.echo ended) ∧
      s.due.get? Sample.declaration.key = none := by
  have hends := Act.ends_of_toOption (by decide +kernel : (StateT.run
    (Sync.reconcile Sync.Sample.settings Sample.declaration.key).run
    (Sample.dueWorld Sync.Sample.noon Vault.Session.quiet)).1.toOption = some Sample.echo)
  obtain ⟨off, hrow, hkept⟩ := Sample.operated hends (Act.ends_self _ _) rfl
  exact ⟨_, off, _, hrow, hkept, Sample.live_echo _, rfl⟩

end SecretSync.Controller

import SecretSync.Proofs.Controller.Intake
import SecretSync.Proofs.Controller.Pass

/-!
# Rows of operations

The controller lists, takes in events, enqueues and gives up keys, and runs what is due.  These are
its operations, those that end with an error among them; whatever it does is a row of them.
-/

namespace SecretSync.Controller

variable {c : Settings} {key : ObjectKey} {hs hs' : List Happening} {h : Happening}
  {broken : Option ObjectKey} {s t s' : Schedule} {time ended : Time.Instant}

/-- One operation of the controller, whether or not it ends with an error: what happens to the
schedule in it, and the key whose run was broken off, if one was. -/
inductive Operation (c : Settings) (s : Schedule) :
    List Happening → Option ObjectKey → Schedule → Prop
  | listing {s' : Schedule} {w v w' : World} {ds : List Declaration} {version : Json}
    (ends : Ends (resync c) s w (.ok ()) s' w')
    (list : Act.Ends (Cluster.Declarations.list c.access c.ns).run w (.ok (ds, version)) v) :
    Operation c s (ds.map Happening.listed ++ [.cursor version]) none s'
  | unlisted {s' : Schedule} {w w' : World} {e : Cluster.Escape}
    (ends : Ends (resync c) s w (.error e) s' w') : Operation c s [] none s'
  | event {s' : Schedule} {w w' : World} {type : Option String} {d : Declaration}
    {r : Except Cluster.Escape Unit} (ends : Ends (handleEvent c type d) s w r s' w') :
    Operation c s [.event type d] none s'
  | request {s' : Schedule} {w w' : World} {key : ObjectKey} {after : Time.Duration}
    (ends : Ends (enqueue key after) s w (.ok ()) s' w') : Operation c s [.requested key] none s'
  | refusal {s' : Schedule} {w w' : World} {key : ObjectKey} {after : Time.Duration}
    {e : Cluster.Escape} (ends : Ends (enqueue key after) s w (.error e) s' w') :
    Operation c s [] none s'
  | forgetting (key : ObjectKey) : Operation c s [.forgotten key] none (s.forget key)
  | processing {runs : List Happening} {broken : Option BrokenRun} {s' : Schedule}
    {w v w' : World} {now : Time.Instant}
    (ends : Ends (processDue c) s w (passEnd runs broken) s' w')
    (reading : Act.Ends Act.now w now v)
    (pass : Passed c now s.inOrder s v runs broken s' w') :
    Operation c s (.pass now :: runs) (broken.map BrokenRun.key) s'
  | expiry : Operation c s [.cursor .null] none { s with cursor := .null }

/-- The keys whose last run was broken off: that of an operation joins them, and those that are run
to an end or removed in it leave them. -/
def BrokenOff (earlier : ObjectKey → Prop) (hs : List Happening) (broken : Option ObjectKey)
    (key : ObjectKey) : Prop :=
  broken = some key ∨ earlier key ∧ ∀ h ∈ hs, ¬ h.Runs key ∧ ¬ h.Removes key

/-- Operations one behind the other, each in whatever world there is by then: all that happens to
the schedule in them, and the keys whose last run was broken off. -/
inductive Operations (c : Settings) (first : Schedule) :
    List Happening → (ObjectKey → Prop) → Schedule → Prop
  | none : Operations c first [] (fun _ => False) first
  | next {hs hs' : List Happening} {off : ObjectKey → Prop} {broken : Option ObjectKey}
    {s s' : Schedule} (earlier : Operations c first hs off s)
    (last : Operation c s hs' broken s') :
    Operations c first (hs ++ hs') (BrokenOff off hs' broken) s'

namespace Schedule

/-- A dispatch that broke off takes nothing from the polls. -/
@[simp] theorem polls_without (broken : Option ObjectKey) (s : Schedule) :
    (s.without broken).polls = s.polls := by
  cases broken <;> rfl

/-- A dispatch that broke off takes nothing from the generations. -/
theorem generations_without (broken : Option ObjectKey) (s : Schedule) :
    (s.without broken).generations = s.generations := by
  cases broken <;> rfl

/-- A dispatch that broke off takes no other key from the due table. -/
theorem due_without (hne : broken ≠ some key) (s : Schedule) :
    (s.without broken).due.get? key = s.due.get? key := by
  cases broken with
  | none => rfl
  | some k =>
    have hne : k ≠ key := fun heq => hne (congrArg some heq)
    simp [without, start, hne]

end Schedule

namespace Operation

/-- What happens in an operation leads to a schedule from which only the key of a run that was
broken off is missing. -/
theorem happened (op : Operation c s hs broken s') :
    ∃ t, Happened s hs t ∧ s' = t.without broken := by
  cases op with
  | listing ends list =>
    obtain ⟨e, v, hlist, -⟩ | ⟨ds, version, v, hlist, -, hall⟩ := resync_ends ends
    · cases hlist.symm.trans list
    · cases hlist.symm.trans list
      exact ⟨s', hall, rfl⟩
  | unlisted ends =>
    obtain ⟨_, _, -, -, rfl⟩ | ⟨_, _, _, -, he, -⟩ := resync_ends ends
    · exact ⟨s', .none, rfl⟩
    · cases he
  | event ends => exact ⟨s', (handleEvent_ends ends).2.happened, rfl⟩
  | request ends => exact ⟨s', (enqueue_ends ends).happened, rfl⟩
  | refusal ends =>
    obtain rfl := enqueue_refused ends
    exact ⟨s', .none, rfl⟩
  | forgetting key => exact ⟨_, (Happens.forgotten key).happened, rfl⟩
  | processing ends reading pass =>
    obtain ⟨t, hruns, rfl⟩ := pass.happened
    exact ⟨t, (Happens.pass _).happened.trans hruns, rfl⟩
  | expiry => exact ⟨_, (Happens.cursor .null).happened, rfl⟩

/-- Only a pass over what is due runs anything. -/
theorem quiet_or_pass (op : Operation c s hs broken s') :
    (broken = none ∧ ∀ h ∈ hs, ∀ key, ¬ Happening.Runs key h) ∨
      ∃ now runs off v w', hs = .pass now :: runs ∧ broken = off.map BrokenRun.key ∧
        Passed c now s.inOrder s v runs off s' w' := by
  cases op with
  | @listing _ _ _ _ ds version =>
    refine Or.inl ⟨rfl, List.forall_mem_append.mpr ⟨?_, ?_⟩⟩
    · intro h hlisted key
      obtain ⟨d, -, rfl⟩ := List.mem_map.mp hlisted
      exact id
    · exact List.forall_mem_singleton.mpr (fun key => id)
  | processing ends reading pass => exact Or.inr ⟨_, _, _, _, _, rfl, rfl, pass⟩
  | unlisted => exact Or.inl ⟨rfl, List.forall_mem_nil _⟩
  | refusal => exact Or.inl ⟨rfl, List.forall_mem_nil _⟩
  | _ => exact Or.inl ⟨rfl, List.forall_mem_singleton.mpr (fun key => id)⟩

/-- A key that is not scheduled is not run. -/
theorem not_runs (op : Operation c s hs broken s') (hfree : s.due.get? key = none) :
    (∀ h ∈ hs, ¬ h.Runs key) ∧ broken ≠ some key := by
  obtain ⟨rfl, hquiet⟩ | ⟨now, runs, off, v, w', rfl, rfl, hpass⟩ := op.quiet_or_pass
  · exact ⟨fun h hh => hquiet h hh key, nofun⟩
  · have habsent : key ∉ s.inOrder.map Prod.fst := by
      rw [Schedule.mem_keys_inOrder, hfree]
      nofun
    have hmem := hpass.runs_mem key
    refine ⟨List.forall_mem_cons.mpr ⟨id, fun h hh hruns => ?_⟩, fun hbroken => ?_⟩
    · exact habsent (hmem.1 h hh hruns)
    · exact habsent (hmem.2 hbroken)

/-- A key that is removed or found gone in an operation is not run any more in it. -/
theorem not_runs_behind (op : Operation c s hs broken s') {before after : List Happening}
    (hsplit : hs = before ++ h :: after) (hover : h.Removes key ∨ h.FindsNothing key) :
    (∀ x ∈ after, ¬ x.Runs key) ∧ broken ≠ some key := by
  obtain ⟨rfl, hquiet⟩ | ⟨now, runs, off, v, w', rfl, rfl, hpass⟩ := op.quiet_or_pass
  · refine ⟨fun x hx => hquiet x ?_ key, nofun⟩
    rw [hsplit]
    exact List.mem_append_right _ (List.mem_cons_of_mem _ hx)
  · cases before with
    | nil =>
      obtain ⟨rfl, -⟩ := List.cons.inj hsplit
      exact (hover.elim id id).elim
    | cons first before =>
      obtain ⟨-, rfl⟩ := List.cons.inj hsplit
      have hmem : h ∈ before ++ h :: after := List.mem_append_right _ List.mem_cons_self
      obtain ⟨_, _, _, _, _, rfl, -⟩ := hpass.is_run h hmem
      have hfinds := hover.resolve_left id
      exact hpass.runs_once s.nodup_keys_inOrder rfl hfinds.runs

end Operation

/-- When one key is due, an operation that is not stopped runs it. -/
theorem Operation.run_single {w v u w' : World} {now : Time.Instant} {result : Sync.Result}
    (single : s.inOrder = [(key, time)]) (due : ¬ now < time)
    (asked : Act.Ends Act.now w now v) (going : v.stopRequested = false)
    (ends : Act.Ends (c.reconcile key).run v (.ok result) u)
    (reading : Act.Ends (noteResult c key result) u ended w')
    (settled : (s.start key).settle? key result ended = some s') :
    Operation c s [.pass now, .ran key result ended] none s' := by
  have hpass : Passed c now s.inOrder s v [.ran key result ended] none s' w' := by
    rw [single]
    exact .run due going ends reading settled (.done s' w')
  exact .processing (ends_processDue asked hpass) asked hpass

/-- When one key is due and its run is broken off, so is the operation. -/
theorem Operation.break_single {w v w' : World} {now : Time.Instant} {e : Cluster.Escape}
    (single : s.inOrder = [(key, time)]) (due : ¬ now < time)
    (asked : Act.Ends Act.now w now v) (going : v.stopRequested = false)
    (ends : Ends (dispatch c key) (s.start key) v (.error e) (s.start key) w') :
    Operation c s [.pass now] (some key) (s.start key) := by
  have hpass : Passed c now s.inOrder s v [] (some ⟨key, e⟩) (s.start key) w' := by
    rw [single]
    exact .broken due going ends
  exact .processing (ends_processDue asked hpass) asked hpass

namespace Operations

variable {off : ObjectKey → Prop}

/-- Every run of a row is a reconcile. -/
theorem ran_ends (row : Operations c .empty hs off s) {result : Sync.Result}
    (hmem : Happening.ran key result ended ∈ hs) :
    ∃ v u, Act.Ends (c.reconcile key).run v (.ok result) u := by
  induction row with
  | none => cases hmem
  | next earlier last ih =>
    obtain hmem | hmem := List.mem_append.mp hmem
    · exact ih hmem
    · obtain ⟨-, hquiet⟩ | ⟨now, runs, _, v, w', rfl, -, hpass⟩ := last.quiet_or_pass
      · exact (hquiet _ hmem key rfl).elim
      · obtain hpass' | hmem := List.mem_cons.mp hmem
        · cases hpass'
        · obtain ⟨k, _, _, v, u, heq, hends⟩ := hpass.is_run _ hmem
          cases heq
          exact ⟨v, u, hends⟩

end Operations

end SecretSync.Controller

import SecretSync.Proofs.Controller.Operation

/-!
# The loop of the controller

Whatever the controller does between its start and its end is a row of operations: windows that fail
and are tried again, watches that expire, runs that are broken off and requests to stop included.
-/

namespace SecretSync.Controller

variable {c : Settings} {s t s' : Schedule} {w w' : World} {α β : Type}

/-! ### Rows -/

/-- Two rows of operations one behind the other are a row. -/
theorem Operations.trans {hs hs' : List Happening} {off off' : ObjectKey → Prop}
    (earlier : Operations c s hs off t) (later : Operations c t hs' off' s') :
    ∃ off'', Operations c s (hs ++ hs') off'' s' := by
  induction later with
  | none =>
    rw [List.append_nil]
    exact ⟨off, earlier⟩
  | next _ last ih =>
    obtain ⟨off'', hrow⟩ := ih
    rw [← List.append_assoc]
    exact ⟨_, hrow.next last⟩

/-- There is a row of operations between two schedules. -/
def Row (c : Settings) (s s' : Schedule) : Prop := ∃ hs off, Operations c s hs off s'

/-- A schedule at rest is a row of no operations. -/
theorem Row.rest (s : Schedule) : Row c s s := ⟨[], _, .none⟩

/-- Rows of operations can be joined. -/
theorem Row.trans (earlier : Row c s t) (later : Row c t s') : Row c s s' := by
  obtain ⟨hs, off, earlier⟩ := earlier
  obtain ⟨hs', off', later⟩ := later
  exact ⟨hs ++ hs', earlier.trans later⟩

/-- One operation is a row. -/
theorem Operation.row {hs : List Happening} {broken : Option ObjectKey}
    (op : Operation c s hs broken s') : Row c s s' :=
  ⟨_, _, Operations.none.next op⟩

/-! ### Computations -/

/-- A computation of the controller is a row of operations. -/
def Operates (c : Settings) (x : Loop α) : Prop :=
  ∀ ⦃s w r s' w'⦄, Ends x s w r s' w' → Row c s s'

namespace Operates

/-- A sequence operates if both its parts do. -/
theorem bind {x : Loop α} {f : α → Loop β} (hx : Operates c x) (hf : ∀ a, Operates c (f a)) :
    Operates c (x >>= f) := by
  intro s w r s' w' h
  obtain ⟨e, hfirst, -⟩ | ⟨a, t, v, hfirst, hrest⟩ := ends_bind.mp h
  · exact hx hfirst
  · exact (hx hfirst).trans (hf a hrest)

/-- What leaves the schedule as it is has no operation in it. -/
theorem of_same {x : Loop α} (h : ∀ ⦃s w r s' w'⦄, Ends x s w r s' w' → s' = s) :
    Operates c x := by
  intro s w r s' w' hends
  cases h hends
  exact .rest _

/-- A value operates on nothing. -/
theorem pure (a : α) : Operates c (Pure.pure a : Loop α) :=
  of_same (fun _ _ _ _ _ h => (ends_pure.mp h).2.1)

/-- An error operates on nothing. -/
theorem throw (e : Cluster.Escape) : Operates c (MonadExcept.throw e : Loop α) :=
  of_same (fun _ _ _ _ _ h => (ends_throw.mp h).2.1)

/-- An act on the world operates on nothing. -/
theorem act (x : Act α) : Operates c (Controller.act x) := by
  refine of_same (fun _ _ _ _ _ h => ?_)
  obtain ⟨_, -, -, hsame⟩ := ends_act.mp h
  exact hsame

private theorem getThe_bind {f : Schedule → Loop β} (hf : ∀ s, Operates c (f s)) :
    Operates c (getThe Schedule >>= f) :=
  fun s _ _ _ _ h => hf s (ends_getThe_bind.mp h)

/-- Forgetting the cursor is an operation. -/
theorem expiry : Operates c (change (fun s => { s with cursor := .null })) := by
  intro s w r s' w' h
  obtain ⟨rfl, rfl, rfl⟩ := ends_change.mp h
  exact Operation.expiry.row

/-- A listing is a row of operations. -/
theorem resync : Operates c (resync c) := by
  intro s w r s' w' h
  cases r with
  | error e => exact (Operation.unlisted h).row
  | ok u =>
    obtain ⟨e, v, -, hr, -⟩ | ⟨ds, version, v, hlist, -, -⟩ := resync_ends h
    · cases hr
    · exact (Operation.listing h hlist).row

/-- An event that is handled is an operation. -/
theorem handleEvent (type : Option String) (d : Declaration) :
    Operates c (handleEvent c type d) := fun _ _ _ _ _ h => (Operation.event h).row

/-- A pass over what is due is an operation. -/
theorem processDue : Operates c (processDue c) := by
  intro s w r s' w' h
  obtain ⟨now, v, runs, broken, hreading, hpass, rfl⟩ := processDue_passed h
  exact (Operation.processing h hreading hpass).row

/-- The items of a window are a row of operations. -/
theorem consume (items : List WindowItem) : Operates c (consume c items) := by
  induction items with
  | nil => exact pure _
  | cons item rest ih =>
    refine (act _).bind (fun received => ?_)
    cases received with
    | nothing => exact ih
    | failed e => exact pure _
    | event type d =>
      refine (handleEvent _ d).bind (fun _ => processDue.bind (fun _ => ?_))
      refine (act _).bind (fun stop => ?_)
      split
      · exact pure _
      · exact ih

/-- Computing the time until the next run operates on nothing. -/
theorem secondsUntilDue : Operates c (secondsUntilDue c) := by
  refine getThe_bind (fun s => ?_)
  split
  · exact pure _
  · exact (act _).bind (fun _ => pure _)

/-- One round of the loop is a row of operations. -/
theorem runOnce : Operates c (runOnce c) := by
  have hlast : Operates c (do let _ ← Controller.processDue c) :=
    processDue.bind (fun _ => pure ())
  refine getThe_bind (fun s => ?_)
  dsimp only
  split
  -- Behind a list the window goes on as it does without one.
  case' h_1 => refine resync.bind (fun _ => ?_)
  all_goals
    refine processDue.bind (fun _ => (act _).bind (fun stop => ?_))
    split
    · exact pure ()
    · refine secondsUntilDue.bind (fun seconds => getThe_bind (fun s => ?_))
      refine (act _).bind (fun items => (consume items).bind (fun failure => ?_))
      cases failure with
      | none => exact hlast
      | some e =>
        dsimp only
        split
        · exact (act _).bind (fun _ => expiry.bind (fun _ => hlast))
        · exact (throw _).bind (fun _ => hlast)

/-- Retrying operates as often as the action is tried. -/
theorem retrying {action : Run (Except Cluster.Escape α)}
    (haction : Operates c (ExceptT.mk action)) (tries more : Nat) :
    Operates c (ExceptT.mk (retrying mayPass (fun time => StateT.lift (Act.sleep time))
      action tries more)) := by
  induction more generalizing tries with
  | zero => exact haction
  | succ more ih =>
    intro s w r s' w' h
    obtain ⟨a, t, v, hfirst, hrest⟩ := ends_mk_bind.mp h
    refine (haction hfirst).trans ?_
    cases a with
    | ok a => exact pure a hrest
    | error e =>
      dsimp only at hrest
      split at hrest
      · have hagain : Operates c (Controller.act (Act.sleep (backoff tries)) >>= fun _ =>
            ExceptT.mk (Controller.retrying mayPass (fun time => StateT.lift (Act.sleep time))
              action (tries + 1) more)) := (act _).bind (fun _ => ih (tries + 1))
        exact hagain hrest
      · exact throw e hrest

/-- A window with its retries is a row of operations. -/
theorem runWindow : Operates c (runWindow c) := retrying runOnce 1 (c.attempts - 1)

/-- Any number of windows is a row of operations. -/
theorem runWindows (n : Nat) : Operates c (runWindows c n) := by
  induction n with
  | zero => exact pure ()
  | succ n ih =>
    refine (act _).bind (fun stop => ?_)
    split
    · exact pure ()
    · exact runWindow.bind (fun _ => ih)

/-- The whole run of the controller is a row of operations. -/
theorem run : Operates c (run c) := by
  refine (act _).bind (fun _ => (act _).bind (fun w => (act _).bind (fun _ => ?_)))
  intro s w r s' w' h
  obtain ⟨result, t, v, hwindows, hrest⟩ := ends_lift_run_bind.mp h
  refine (runWindows _ hwindows).trans ?_
  cases result with
  | error e =>
    have hlast : Operates c (Controller.act (modify (fun w => { w with stopWhenIdle := false })) >>=
        fun _ => (MonadExcept.throw e : Loop Unit)) := (act _).bind (fun _ => throw e)
    exact hlast hrest
  | ok _ =>
    have hlast : Operates c (Controller.act (modify (fun w => { w with stopWhenIdle := false })) >>=
        fun _ => Controller.act (c.log .info "controller_stopped" [])) :=
      (act _).bind (fun _ => act _)
    exact hlast hrest

end Operates

/-- Every run of the controller is a row of operations, those that end with an error among them. -/
theorem run_operations {r : Except Cluster.Escape Unit} (h : Ends (run c) s w r s' w') :
    ∃ hs off, Operations c s hs off s' := Operates.run h

end SecretSync.Controller

import SecretSync.Proofs.World.Passage

/-!
# Who asks for all declarations

Lists and watches are the only calls that ask for more than one object.  What a computation asks in
this way is told by the calls that it puts on record; along with it the watches that wait are kept,
and a request to stop stays.  The rules build such facts from those on the steps.
-/

namespace SecretSync

/-- Whether a call asks for declarations. -/
def Call.asksForDeclarations : Call → Bool
  | .getDeclaration _ _ => true
  | .listDeclarations _ _ => true
  | .watch _ _ _ => true
  | _ => false

namespace World

/-- The calls so far that have asked for declarations. -/
def asked (w : World) : List Call := w.calls.filter Call.asksForDeclarations

/-- Between two worlds some calls ask for declarations. -/
structure Asks (w : World) (calls : List Call) (w' : World) : Prop where
  asked : w'.asked = w.asked ++ calls
  windows : w'.windows.length ≤ w.windows.length
  stopWhenIdle : w'.stopWhenIdle = w.stopWhenIdle
  stays : w.stopRequested = true → w'.stopRequested = true

namespace Asks

variable {u v w : World} {calls calls' : List Call}

/-- A world asks nothing of itself. -/
theorem refl (w : World) : w.Asks [] w := ⟨(List.append_nil _).symm, Nat.le_refl _, rfl, id⟩

/-- What two stretches ask, they ask one behind the other. -/
theorem trans (h : u.Asks calls v) (h' : v.Asks calls' w) : u.Asks (calls ++ calls') w where
  asked := by rw [h'.asked, h.asked, List.append_assoc]
  windows := Nat.le_trans h'.windows h.windows
  stopWhenIdle := h'.stopWhenIdle.trans h.stopWhenIdle
  stays := h'.stays ∘ h.stays

/-- What asks nothing may follow. -/
theorem quiet (h : u.Asks calls v) (h' : v.Asks [] w) : u.Asks calls w := by
  have hboth := h.trans h'
  rwa [List.append_nil] at hboth

end Asks

/-- Between worlds in which the same calls were made and the same watches wait nothing is asked. -/
theorem asks_nil_of_same {v w : World} (calls : w.calls = v.calls) (windows : w.windows = v.windows)
    (idle : w.stopWhenIdle = v.stopWhenIdle)
    (stays : v.stopRequested = true → w.stopRequested = true) : v.Asks [] w :=
  ⟨by rw [asked, calls, List.append_nil, asked], Nat.le_of_eq (congrArg List.length windows), idle,
    stays⟩

private theorem asks_disturb (w : World) (deed : Disturbance) : w.Asks [] (w.disturb deed) := by
  cases deed with
  | editDeclaration key changes generation =>
    simp only [disturb]
    split
    · exact Asks.refl w
    · exact asks_nil_of_same rfl rfl rfl id
  | requestStop => exact asks_nil_of_same rfl rfl rfl (fun _ => rfl)
  | _ => exact asks_nil_of_same rfl rfl rfl id

private theorem asks_interlude (w : World) : w.Asks [] w.interlude :=
  interlude_of_disturb Asks.refl Asks.quiet (fun _ _ => asks_nil_of_same rfl rfl rfl id)
    asks_disturb w

private theorem asks_noted (call : Call) (w : World) :
    w.Asks ([call].filter Call.asksForDeclarations) (w.noted call) :=
  ⟨List.filter_append _ _, Nat.le_refl _, rfl, id⟩

end World

/-! ### Rules -/

namespace Act

variable {ε ε' α β : Type} {calls : List Call}

/-- Wherever a computation runs, the same calls of it ask for declarations. -/
def Asks (calls : List Call) (x : Act α) : Prop :=
  ∀ ⦃w a w'⦄, Ends x w a w' → w.Asks calls w'

/-- A value asks nothing. -/
theorem asks_pure (a : α) : Asks [] (pure a) := by
  intro w b w' h
  obtain ⟨-, rfl⟩ := ends_pure.mp h
  exact World.Asks.refl _

/-- A sequence asks what its first part does, if the second asks nothing. -/
theorem Asks.bind {x : Act α} {f : α → Act β} (hx : Asks calls x) (hf : ∀ a, Asks [] (f a)) :
    Asks calls (x >>= f) := by
  intro w b w' h
  obtain ⟨a, v, hfirst, hrest⟩ := ends_bind.mp h
  exact (hx hfirst).quiet (hf a hrest)

/-- A mapped act asks what the act does. -/
theorem Asks.map {x : Act α} (hx : Asks calls x) (f : α → β) : Asks calls (f <$> x) := by
  intro w b w' h
  obtain ⟨a, hends, -⟩ := ends_map.mp h
  exact hx hends

/-- A change of the world asks what the change does. -/
theorem asks_modify {f : World → World} (hf : ∀ w : World, w.Asks calls (f w)) :
    Asks calls (modify f) := by
  intro w u w' h
  cases ends_modify.mp h
  exact hf w

/-- Behind a look at the world, the rest asks. -/
theorem asks_get_bind {f : World → Act β} (hf : ∀ w, Asks calls (f w)) : Asks calls (get >>= f) :=
  fun w _ _ h => hf w (ends_get_bind.mp h)

/-! ### Computations that may fail -/

/-- A value asks nothing, also where an error may come. -/
theorem asks_run_pure (a : α) : Asks [] (pure a : ExceptT ε Act α).run := asks_pure _

/-- An error asks nothing. -/
theorem asks_run_throw (e : ε) : Asks [] (throw e : ExceptT ε Act α).run := asks_pure _

/-- A sequence that may fail asks what its first part does, if the second asks nothing. -/
theorem Asks.run_bind {x : ExceptT ε Act α} {f : α → ExceptT ε Act β} (hx : Asks calls x.run)
    (hf : ∀ a, Asks [] (f a).run) : Asks calls (x >>= f).run := by
  rw [ExceptT.run_bind]
  refine hx.bind (fun r => ?_)
  cases r with
  | ok a => exact hf a
  | error e => exact asks_pure _

/-- Behind a lifted act, nothing more is asked. -/
theorem Asks.run_lift_bind {x : Act α} {f : α → ExceptT ε Act β} (hx : Asks calls x)
    (hf : ∀ a, Asks [] (f a).run) : Asks calls (liftM x >>= f : ExceptT ε Act β).run := by
  intro w b w' h
  obtain ⟨a, v, hfirst, hrest⟩ := ends_run_lift_bind.mp h
  exact (hx hfirst).quiet (hf a hrest)

/-- What asks nothing may come first. -/
theorem Asks.run_lift_before {x : Act α} {f : α → ExceptT ε Act β} (hx : Asks [] x)
    (hf : ∀ a, Asks calls (f a).run) : Asks calls (liftM x >>= f : ExceptT ε Act β).run := by
  intro w b w' h
  obtain ⟨a, v, hfirst, hrest⟩ := ends_run_lift_bind.mp h
  exact (hx hfirst).trans (hf a hrest)

/-- A lifted act asks what the act does. -/
theorem Asks.run_lift {x : Act α} (hx : Asks calls x) :
    Asks calls (liftM x : ExceptT ε Act α).run := hx.map _

/-- Naming the error otherwise asks nothing. -/
theorem Asks.run_adapt {x : ExceptT ε' Act α} (hx : Asks calls x.run) (f : ε' → ε) :
    Asks calls (ExceptT.adapt f x).run := hx.map _

/-- Behind a look at the world, the rest asks, also where an error may come. -/
theorem asks_run_get_bind {f : World → ExceptT ε Act β} (hf : ∀ w, Asks calls (f w).run) :
    Asks calls (get >>= f : ExceptT ε Act β).run := asks_get_bind (f := fun w => (f w).run) hf

/-! ### Single steps -/

/-- Others' turn asks nothing on the controller's behalf. -/
theorem yieldToOthers_asks : Asks [] yieldToOthers := asks_modify World.asks_interlude

/-- A call that is noted is asked, if it is one for declarations. -/
theorem note_asks (call : Call) : Asks ([call].filter Call.asksForDeclarations) (note call) :=
  asks_modify (World.asks_noted call)

/-- A log record asks nothing. -/
theorem log_asks (level : LogLevel) (event : String) (fields : List (String × Json)) :
    Asks [] (log level event fields) :=
  asks_modify (fun _ => World.asks_nil_of_same rfl rfl rfl id)

/-- Time that passes asks nothing. -/
theorem advance_asks (time : Time.Duration) : Asks [] (modify (World.advance time)) :=
  asks_modify (fun _ => World.asks_nil_of_same rfl rfl rfl id)

/-- A reading of the clock asks nothing. -/
theorem now_asks : Asks [] now := by
  have hread : Asks [] (modify World.clockRead) :=
    asks_modify (fun _ => World.asks_nil_of_same rfl rfl rfl id)
  refine yieldToOthers_asks.bind (fun _ => hread.bind (fun _ => ?_))
  exact asks_get_bind (fun _ => asks_pure _)

/-- A sleep asks nothing. -/
theorem sleep_asks (time : Time.Duration) : Asks [] (sleep time) :=
  yieldToOthers_asks.bind (fun _ => (note_asks (.sleep time)).bind (fun _ => advance_asks time))

end Act
end SecretSync

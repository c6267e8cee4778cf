import SecretSync.Proofs.World.Ends

/-!
# Runs that go side by side

A computation that runs in two related worlds may do the same in both.  The rules build such facts
from those on the steps.
-/

namespace SecretSync.Act

variable {R : World → World → Prop} {ε ε' α β : Type}

/-- In related worlds a computation yields the same and ends in related worlds. -/
def Respects (R : World → World → Prop) (x : Act α) : Prop :=
  ∀ ⦃w v w' : World⦄ ⦃a : α⦄, R w v → Ends x w a w' → ∃ v', Ends x v a v' ∧ R w' v'

/-- In related worlds a computation yields the same. -/
def Agrees (R : World → World → Prop) (x : Act α) : Prop :=
  ∀ ⦃w v w' : World⦄ ⦃a : α⦄, R w v → Ends x w a w' → ∃ v', Ends x v a v'

/-- What respects a relation yields the same in related worlds. -/
theorem Respects.agrees {x : Act α} (h : Respects R x) : Agrees R x := by
  intro w v w' a hr hends
  obtain ⟨v', hends', -⟩ := h hr hends
  exact ⟨v', hends'⟩

/-- A value respects every relation. -/
theorem respects_pure (a : α) : Respects R (pure a) := by
  intro w v w' b hr hends
  obtain ⟨rfl, rfl⟩ := ends_pure.mp hends
  exact ⟨v, ends_pure.mpr ⟨rfl, rfl⟩, hr⟩

/-- A sequence respects a relation if both parts do. -/
theorem Respects.bind {x : Act α} {f : α → Act β} (hx : Respects R x)
    (hf : ∀ a, Respects R (f a)) : Respects R (x >>= f) := by
  intro w v w' b hr hends
  obtain ⟨a, w₁, hends₁, hends₂⟩ := ends_bind.mp hends
  obtain ⟨v₁, hends₁', hr₁⟩ := hx hr hends₁
  obtain ⟨v', hends₂', hr'⟩ := hf a hr₁ hends₂
  exact ⟨v', ends_bind.mpr ⟨a, v₁, hends₁', hends₂'⟩, hr'⟩

private theorem Respects.bind_agrees {x : Act α} {f : α → Act β} (hx : Respects R x)
    (hf : ∀ a, Agrees R (f a)) : Agrees R (x >>= f) := by
  intro w v w' b hr hends
  obtain ⟨a, w₁, hends₁, hends₂⟩ := ends_bind.mp hends
  obtain ⟨v₁, hends₁', hr₁⟩ := hx hr hends₁
  obtain ⟨v', hends₂'⟩ := hf a hr₁ hends₂
  exact ⟨v', ends_bind.mpr ⟨a, v₁, hends₁', hends₂'⟩⟩

/-- A computation that yields the same in all worlds. -/
theorem agrees_of_const {x : Act α} (b : α) (h : ∀ ⦃w w' a⦄, Ends x w a w' → a = b) :
    Agrees R x := by
  intro w v w' a hr hends
  have hself := ends_self x v
  rw [h hself, ← h hends] at hself
  exact ⟨_, hself⟩

/-- A mapped act respects what the act does. -/
theorem Respects.map {x : Act α} (hx : Respects R x) (f : α → β) : Respects R (f <$> x) := by
  intro w v w' b hr hends
  obtain ⟨a, hends₁, rfl⟩ := ends_map.mp hends
  obtain ⟨v', hends₁', hr'⟩ := hx hr hends₁
  exact ⟨v', ends_map.mpr ⟨a, hends₁', rfl⟩, hr'⟩

/-- A change that keeps the relation respects it. -/
theorem respects_modify {f : World → World} (hf : ∀ ⦃w v⦄, R w v → R (f w) (f v)) :
    Respects R (modify f) := by
  intro w v w' u hr hends
  cases ends_modify.mp hends
  exact ⟨f v, ends_modify.mpr rfl, hf hr⟩

/-- What is done after looking around may depend on what is the same in related worlds. -/
theorem respects_get_bind {f : World → Act β} (hsame : ∀ ⦃w v⦄, R w v → f w = f v)
    (hf : ∀ w, Respects R (f w)) : Respects R (get >>= f) := by
  intro w v w' b hr hends
  rw [ends_get_bind, hsame hr] at hends
  obtain ⟨v', hends', hr'⟩ := hf v hr hends
  exact ⟨v', ends_get_bind.mpr hends', hr'⟩

/-! ### Computations that may fail -/

/-- A value respects every relation, also where an error may come. -/
theorem respects_run_pure (a : α) : Respects R (pure a : ExceptT ε Act α).run :=
  respects_pure _

/-- An error respects every relation. -/
theorem respects_run_throw (e : ε) : Respects R (throw e : ExceptT ε Act α).run :=
  respects_pure _

/-- A sequence that may fail respects a relation if both parts do. -/
theorem Respects.run_bind {x : ExceptT ε Act α} {f : α → ExceptT ε Act β}
    (hx : Respects R x.run) (hf : ∀ a, Respects R (f a).run) : Respects R (x >>= f).run := by
  rw [ExceptT.run_bind]
  refine hx.bind ?_
  intro r
  cases r with
  | ok a => exact hf a
  | error e => exact respects_pure _

/-- A lifted act respects what the act does. -/
theorem Respects.run_lift {x : Act α} (hx : Respects R x) :
    Respects R (liftM x : ExceptT ε Act α).run := hx.map _

/-- A lifted act and the rest behind it respect a relation if both do. -/
theorem Respects.run_lift_bind {x : Act α} {f : α → ExceptT ε Act β} (hx : Respects R x)
    (hf : ∀ a, Respects R (f a).run) : Respects R (liftM x >>= f : ExceptT ε Act β).run :=
  hx.run_lift.run_bind hf

/-- Behind an act that respects the relation, the rest need only yield the same. -/
theorem Respects.run_lift_bind_agrees {x : Act α} {f : α → ExceptT ε Act β} (hx : Respects R x)
    (hf : ∀ a, Agrees R (f a).run) : Agrees R (liftM x >>= f : ExceptT ε Act β).run := by
  intro w v w' r hr hends
  obtain ⟨a, w₁, hends₁, hends₂⟩ := ends_run_lift_bind.mp hends
  obtain ⟨v₁, hends₁', hr₁⟩ := hx hr hends₁
  obtain ⟨v', hends₂'⟩ := hf a hr₁ hends₂
  exact ⟨v', ends_run_lift_bind.mpr ⟨a, v₁, hends₁', hends₂'⟩⟩

/-- A lifted act yields the same where the act does. -/
theorem Agrees.run_lift {x : Act α} (hx : Agrees R x) :
    Agrees R (liftM x : ExceptT ε Act α).run := by
  intro w v w' r hr hends
  obtain ⟨a, hends₁, rfl⟩ := ends_run_lift.mp hends
  obtain ⟨v', hends₁'⟩ := hx hr hends₁
  exact ⟨v', ends_run_lift.mpr ⟨a, hends₁', rfl⟩⟩

/-- Naming the error otherwise respects what the act does. -/
theorem Respects.run_adapt {x : ExceptT ε' Act α} (hx : Respects R x.run) (f : ε' → ε) :
    Respects R (ExceptT.adapt f x).run := hx.map _

/-- A look at what both worlds share respects the relation. -/
theorem respects_run_get_bind {f : World → ExceptT ε Act β}
    (hsame : ∀ ⦃w v⦄, R w v → f w = f v) (hf : ∀ w, Respects R (f w).run) :
    Respects R (get >>= f : ExceptT ε Act β).run :=
  respects_get_bind (f := fun w => (f w).run) (fun _ _ hr => congrArg ExceptT.run (hsame hr)) hf

end SecretSync.Act

import SecretSync.World.Basic

/-!
# How computations end

A computation that starts in a world ends with a value in a world.  The laws take a computation
apart into its steps, with the failing ones among them.
-/

namespace SecretSync

variable {ε ε' α β : Type} {w w' : World}

/-- An error that is named otherwise leaves the successes. -/
theorem mapError_eq_ok_iff {f : ε' → ε} {x : Except ε' α} {a : α} :
    x.mapError f = .ok a ↔ x = .ok a := by
  cases x with
  | error e =>
    constructor
    · intro h
      cases h
    · intro h
      cases h
  | ok b =>
    constructor
    · intro h
      cases h
      rfl
    · intro h
      cases h
      rfl

/-- An error that is named otherwise comes from one. -/
theorem mapError_eq_error_iff {f : ε' → ε} {x : Except ε' α} {e : ε} :
    x.mapError f = .error e ↔ ∃ e', x = .error e' ∧ f e' = e := by
  cases x with
  | error e' =>
    constructor
    · intro h
      cases h
      exact ⟨e', rfl, rfl⟩
    · rintro ⟨e'', h, rfl⟩
      cases h
      rfl
  | ok a =>
    constructor
    · intro h
      cases h
    · rintro ⟨e', h, -⟩
      cases h

/-- What is left of a result is its success. -/
theorem eq_ok_of_toOption {x : Except ε α} {a : α} (h : x.toOption = some a) : x = .ok a := by
  cases x with
  | error e => cases h
  | ok b =>
    cases h
    rfl

/-- A computation that starts in `w` yields `a` and ends in `w'`. -/
def Act.Ends (x : Act α) (w : World) (a : α) (w' : World) : Prop := StateT.run x w = (a, w')

namespace Act

/-- A value ends at once, with the world as it was. -/
theorem ends_pure {a b : α} : Ends (pure a) w b w' ↔ b = a ∧ w' = w := by
  constructor
  · intro h
    cases h
    exact ⟨rfl, rfl⟩
  · rintro ⟨rfl, rfl⟩
    rfl

/-- A sequence ends through a value and a world in between. -/
theorem ends_bind {x : Act α} {f : α → Act β} {b : β} :
    Ends (x >>= f) w b w' ↔ ∃ a v, Ends x w a v ∧ Ends (f a) v b w' := by
  constructor
  · intro h
    exact ⟨_, _, rfl, h⟩
  · rintro ⟨a, v, hx, hf⟩
    unfold Ends at *
    rw [StateT.run_bind, hx]
    exact hf

/-- A mapped act ends with the mapped value. -/
theorem ends_map {f : α → β} {x : Act α} {b : β} :
    Ends (f <$> x) w b w' ↔ ∃ a, Ends x w a w' ∧ b = f a := by
  constructor
  · intro h
    cases h
    exact ⟨_, rfl, rfl⟩
  · rintro ⟨a, hx, rfl⟩
    unfold Ends at *
    rw [StateT.run_map, hx]
    rfl

/-- Behind a look at the world, the rest goes on with it. -/
theorem ends_get_bind {f : World → Act β} {b : β} :
    Ends (get >>= f) w b w' ↔ Ends (f w) w b w' := Iff.rfl

/-- A change ends with the changed world. -/
theorem ends_modify {f : World → World} {u : Unit} : Ends (modify f) w u w' ↔ w' = f w := by
  constructor
  · intro h
    cases h
    rfl
  · rintro rfl
    rfl

/-- Behind a change, the rest goes on in the changed world. -/
theorem ends_modify_bind {g : World → World} {f : Unit → Act β} {b : β} :
    Ends (modify g >>= f) w b w' ↔ Ends (f ()) (g w) b w' := Iff.rfl

/-- Behind a new world, the rest goes on in it. -/
theorem ends_set_bind {v : World} {f : Unit → Act β} {b : β} :
    Ends (set v >>= f) w b w' ↔ Ends (f ()) v b w' := Iff.rfl

/-- An act ends as it runs. -/
theorem ends_self (x : Act α) (w : World) : Ends x w (StateT.run x w).1 (StateT.run x w).2 := rfl

/-- A computation ends in one way. -/
theorem Ends.unique {x : Act α} {a b : α} {v u : World} (h : Ends x w a v) (h' : Ends x w b u) :
    a = b ∧ v = u := Prod.ext_iff.mp (h.symm.trans h')

/-! ### Computations that may fail -/

/-- An act that gives a success ends with it. -/
theorem ends_of_toOption {x : Act (Except ε α)} {a : α}
    (h : (StateT.run x w).1.toOption = some a) : Ends x w (.ok a) (StateT.run x w).2 :=
  Prod.ext (eq_ok_of_toOption h) rfl

variable {r : Except ε β}

/-- A sequence that may fail ends in its first part with an error, or in its second. -/
theorem ends_run_bind {x : ExceptT ε Act α} {f : α → ExceptT ε Act β} :
    Ends (x >>= f).run w r w' ↔
      (∃ e, Ends x.run w (.error e) w' ∧ r = .error e) ∨
        ∃ a v, Ends x.run w (.ok a) v ∧ Ends (f a).run v r w' := by
  rw [ExceptT.run_bind, ends_bind]
  constructor
  · rintro ⟨a, v, hx, hf⟩
    cases a with
    | error e =>
      obtain ⟨rfl, rfl⟩ := ends_pure.mp hf
      exact Or.inl ⟨e, hx, rfl⟩
    | ok a => exact Or.inr ⟨a, v, hx, hf⟩
  · rintro (⟨e, hx, rfl⟩ | ⟨a, v, hx, hf⟩)
    · exact ⟨.error e, w', hx, ends_pure.mpr ⟨rfl, rfl⟩⟩
    · exact ⟨.ok a, v, hx, hf⟩

/-- A value ends as a success, with the world as it was. -/
theorem ends_run_pure {b : β} :
    Ends (pure b : ExceptT ε Act β).run w r w' ↔ r = .ok b ∧ w' = w := ends_pure

/-- An error ends as one, with the world as it was. -/
theorem ends_run_throw {e : ε} :
    Ends (throw e : ExceptT ε Act β).run w r w' ↔ r = .error e ∧ w' = w := ends_pure

/-- A result built by hand ends as it is. -/
theorem ends_run_mk {x : Act (Except ε β)} : Ends (ExceptT.mk x).run w r w' ↔ Ends x w r w' :=
  Iff.rfl

/-- A lifted act ends as a success. -/
theorem ends_run_lift {x : Act β} :
    Ends (liftM x : ExceptT ε Act β).run w r w' ↔ ∃ b, Ends x w b w' ∧ r = .ok b := ends_map

/-- Behind a lifted act, the rest goes on with its value. -/
theorem ends_run_lift_bind {x : Act α} {f : α → ExceptT ε Act β} :
    Ends (liftM x >>= f : ExceptT ε Act β).run w r w' ↔
      ∃ a v, Ends x w a v ∧ Ends (f a).run v r w' := by
  rw [ends_run_bind]
  constructor
  · rintro (⟨e, hx, -⟩ | ⟨a, v, hx, hf⟩)
    · obtain ⟨_, -, he⟩ := ends_run_lift.mp hx
      cases he
    · obtain ⟨_, hx, he⟩ := ends_run_lift.mp hx
      cases he
      exact ⟨a, v, hx, hf⟩
  · rintro ⟨a, v, hx, hf⟩
    exact Or.inr ⟨a, v, ends_run_lift.mpr ⟨a, hx, rfl⟩, hf⟩

/-- Behind a look at the world, the rest goes on with it, also where an error may come. -/
theorem ends_run_get_bind {f : World → ExceptT ε Act β} :
    Ends (get >>= f : ExceptT ε Act β).run w r w' ↔ Ends (f w).run w r w' := Iff.rfl

/-- Behind a change, the rest goes on in the changed world, also where an error may come. -/
theorem ends_run_modify_bind {g : World → World} {f : Unit → ExceptT ε Act β} :
    Ends (modify g >>= f : ExceptT ε Act β).run w r w' ↔ Ends (f ()).run (g w) r w' := Iff.rfl

/-- An error named otherwise ends as before but for its name. -/
theorem ends_run_adapt {f : ε' → ε} {x : ExceptT ε' Act β} :
    Ends (ExceptT.adapt f x).run w r w' ↔ ∃ r', Ends x.run w r' w' ∧ r = r'.mapError f := ends_map

end Act
end SecretSync

import SecretSync.Controller.Run
import SecretSync.Proofs.World.Ends

/-!
# How steps of the controller end

A step of the controller starts with a schedule in a world and ends with a schedule in a world, with
a value or with an error that stops the controller.  The laws take steps apart.
-/

namespace SecretSync.Controller

variable {α β : Type} {s s' : Schedule} {w w' : World} {r : Except Cluster.Escape β}

/-- A step that starts with `s` in `w` yields `r` and ends with `s'` in `w'`. -/
def Ends (x : Loop α) (s : Schedule) (w : World) (r : Except Cluster.Escape α) (s' : Schedule)
    (w' : World) : Prop := Act.Ends (x.run.run s) w (r, s') w'

/-- A value ends at once, with nothing changed. -/
theorem ends_pure {b : β} : Ends (pure b) s w r s' w' ↔ r = .ok b ∧ s' = s ∧ w' = w := by
  constructor
  · intro h
    cases h
    exact ⟨rfl, rfl, rfl⟩
  · rintro ⟨rfl, rfl, rfl⟩
    rfl

/-- An error ends at once, with nothing changed. -/
theorem ends_throw {e : Cluster.Escape} :
    Ends (throw e : Loop β) s w r s' w' ↔ r = .error e ∧ s' = s ∧ w' = w := by
  constructor
  · intro h
    cases h
    exact ⟨rfl, rfl, rfl⟩
  · rintro ⟨rfl, rfl, rfl⟩
    rfl

/-- A sequence ends in its first part with an error, or in its second behind a value. -/
theorem ends_bind {x : Loop α} {f : α → Loop β} :
    Ends (x >>= f) s w r s' w' ↔
      (∃ e, Ends x s w (.error e) s' w' ∧ r = .error e) ∨
        ∃ a t v, Ends x s w (.ok a) t v ∧ Ends (f a) t v r s' w' := by
  unfold Ends
  rw [ExceptT.run_bind, StateT.run_bind, Act.ends_bind]
  constructor
  · rintro ⟨⟨a, t⟩, v, hx, hf⟩
    cases a with
    | error e =>
      cases Act.ends_pure.mp hf
      next h hw =>
        cases h
        subst hw
        exact Or.inl ⟨e, hx, rfl⟩
    | ok a => exact Or.inr ⟨a, t, v, hx, hf⟩
  · rintro (⟨e, hx, rfl⟩ | ⟨a, t, v, hx, hf⟩)
    · exact ⟨(.error e, s'), w', hx, Act.ends_pure.mpr ⟨rfl, rfl⟩⟩
    · exact ⟨(.ok a, t), v, hx, hf⟩

private theorem run_act (x : Act α) (s : Schedule) :
    (act x).run.run s = (fun a => (Except.ok a, s)) <$> x := rfl

/-- An act on the world leaves the schedule alone. -/
theorem ends_act {x : Act β} :
    Ends (act x) s w r s' w' ↔ ∃ b, Act.Ends x w b w' ∧ r = .ok b ∧ s' = s := by
  rw [Ends, run_act, Act.ends_map]
  constructor
  · rintro ⟨b, hx, h⟩
    cases h
    exact ⟨b, hx, rfl, rfl⟩
  · rintro ⟨b, hx, rfl, rfl⟩
    exact ⟨b, hx, rfl⟩

/-- Behind an act, the rest goes on with what it gave. -/
theorem ends_act_bind {x : Act α} {f : α → Loop β} :
    Ends (act x >>= f) s w r s' w' ↔ ∃ a v, Act.Ends x w a v ∧ Ends (f a) s v r s' w' := by
  rw [ends_bind]
  constructor
  · rintro (⟨e, hx, -⟩ | ⟨a, t, v, hx, hf⟩)
    · obtain ⟨_, -, he, -⟩ := ends_act.mp hx
      cases he
    · obtain ⟨_, hx, he, rfl⟩ := ends_act.mp hx
      cases he
      exact ⟨a, v, hx, hf⟩
  · rintro ⟨a, v, hx, hf⟩
    exact Or.inr ⟨a, s, v, ends_act.mpr ⟨a, hx, rfl, rfl⟩, hf⟩

/-- A change of the schedule leaves the world alone. -/
theorem ends_change {f : Schedule → Schedule} {r : Except Cluster.Escape Unit} :
    Ends (change f) s w r s' w' ↔ r = .ok () ∧ s' = f s ∧ w' = w := by
  constructor
  · intro h
    cases h
    exact ⟨rfl, rfl, rfl⟩
  · rintro ⟨rfl, rfl, rfl⟩
    rfl

/-- Behind a look at the schedule, the rest goes on with what stands there. -/
theorem ends_getThe_bind {f : Schedule → Loop β} :
    Ends (getThe Schedule >>= f) s w r s' w' ↔ Ends (f s) s w r s' w' := Iff.rfl

/-- Behind a change, the rest goes on with the changed schedule. -/
theorem ends_change_bind {f : Schedule → Schedule} {g : Unit → Loop β} :
    Ends (change f >>= g) s w r s' w' ↔ Ends (g ()) (f s) w r s' w' := Iff.rfl

/-- Behind a look at the flag, the rest goes on with what the world says. -/
theorem ends_stopRequested_bind {f : Bool → Loop β} :
    Ends (act Act.stopRequested >>= f) s w r s' w' ↔ Ends (f w.stopRequested) s w r s' w' := Iff.rfl

private theorem run_mk_lift (x : Act (Except Cluster.Escape α)) (s : Schedule) :
    (ExceptT.mk (StateT.lift x) : Loop α).run.run s = (fun r => (r, s)) <$> x := rfl

/-- A lifted act ends as it does in the world. -/
theorem ends_mk_lift {x : Act (Except Cluster.Escape β)} :
    Ends (ExceptT.mk (StateT.lift x)) s w r s' w' ↔ Act.Ends x w r w' ∧ s' = s := by
  rw [Ends, run_mk_lift, Act.ends_map]
  constructor
  · rintro ⟨r, hx, h⟩
    cases h
    exact ⟨hx, rfl⟩
  · rintro ⟨hx, rfl⟩
    exact ⟨r, hx, rfl⟩

/-! ### Errors that are caught -/

/-- Behind a result that may be an error, the rest goes on with either. -/
theorem ends_mk_bind {x : Run (Except Cluster.Escape α)}
    {f : Except Cluster.Escape α → Run (Except Cluster.Escape β)} :
    Ends (ExceptT.mk (x >>= f)) s w r s' w' ↔
      ∃ a t v, Ends (ExceptT.mk x) s w a t v ∧ Ends (ExceptT.mk (f a)) t v r s' w' := by
  unfold Ends
  rw [ExceptT.run_mk, StateT.run_bind, Act.ends_bind]
  constructor
  · rintro ⟨⟨a, t⟩, v, hx, hf⟩
    exact ⟨a, t, v, hx, hf⟩
  · rintro ⟨a, t, v, hx, hf⟩
    exact ⟨(a, t), v, hx, hf⟩

/-- Behind a part whose error is caught, the rest goes on with either ending. -/
theorem ends_lift_run_bind {x : Loop α} {f : Except Cluster.Escape α → Loop β} :
    Ends (ExceptT.lift x.run >>= f) s w r s' w' ↔
      ∃ a t v, Ends x s w a t v ∧ Ends (f a) t v r s' w' := by
  have heq : ExceptT.lift x.run >>= f = ExceptT.mk (x.run >>= fun a => (f a).run) := rfl
  rw [heq, ends_mk_bind]
  exact Iff.rfl

end SecretSync.Controller

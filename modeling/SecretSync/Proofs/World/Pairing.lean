import SecretSync.Proofs.Data.Values
import SecretSync.Proofs.World.Coupling

/-!
# Two computations in two worlds

Two computations that start in related worlds may end with related values in related worlds.  The
rules build such facts along the steps that the two have in common.  Where every step leaves the
worlds in one relation, only the values have to be followed.
-/

namespace SecretSync.Act

variable {ε ε' α α' β β' γ γ' : Type} {P P' : World → World → Prop}

/-- Started in worlds that stand in `P`, the computations end with values and worlds that stand in
`Q`. -/
def Coupled (P : World → World → Prop) (x : Act α) (y : Act β)
    (Q : α → World → β → World → Prop) : Prop :=
  ∀ ⦃w v w' v' : World⦄ ⦃a : α⦄ ⦃b : β⦄, P w v → Ends x w a w' → Ends y v b v' → Q a w' b v'

/-- Values stand in one relation and worlds in another. -/
def both (V : α → β → Prop) (R : World → World → Prop) (a : α) (w : World) (b : β) (v : World) :
    Prop := V a b ∧ R w v

/-- Both computations failed, with one error, or both yield values. -/
def settled (E : World → World → Prop) (Q : α → World → β → World → Prop) :
    Except ε α → World → Except ε β → World → Prop
  | .ok a, w, .ok b, v => Q a w b v
  | .error e, w, .error e', v => e = e' ∧ E w v
  | _, _, _, _ => False

section Rules

variable {Q : α → World → α' → World → Prop} {S : β → World → β' → World → Prop}

/-- A coupling holds from less and for more. -/
theorem Coupled.mono {x : Act α} {y : Act α'} {Q' : α → World → α' → World → Prop}
    (h : Coupled P x y Q) (hpre : ∀ ⦃w v⦄, P' w v → P w v)
    (hpost : ∀ ⦃a w b v⦄, Q a w b v → Q' a w b v) : Coupled P' x y Q' := by
  intro w v w' v' a b hp hx hy
  exact hpost (h (hpre hp) hx hy)

/-- The computations may start in worlds that are known. -/
theorem Coupled.known {x : Act α} {y : Act α'} (h : Coupled P x y Q) {w v : World} (hp : P w v) :
    Coupled (fun w' v' => w' = w ∧ v' = v) x y Q := by
  refine h.mono ?_ (fun _ _ _ _ hq => hq)
  rintro _ _ ⟨rfl, rfl⟩
  exact hp

/-- What relates the values that came before may be taken as given. -/
theorem coupled_of {x : Act α} {y : Act α'} {p : Prop} (h : p → Coupled P x y Q) :
    Coupled (fun w v => p ∧ P w v) x y Q := by
  intro w v w' v' a b hp hx hy
  exact h hp.1 hp.2 hx hy

/-- Two values are coupled by what is known of them. -/
theorem coupled_pure {a : α} {b : α'} (h : ∀ ⦃w v⦄, P w v → Q a w b v) :
    Coupled P (pure a) (pure b) Q := by
  intro w v w' v' a' b' hp hx hy
  obtain ⟨rfl, rfl⟩ := ends_pure.mp hx
  obtain ⟨rfl, rfl⟩ := ends_pure.mp hy
  exact h hp

/-- Sequences are coupled part by part. -/
theorem Coupled.bind {x : Act α} {y : Act α'} {f : α → Act β} {g : α' → Act β'}
    (h : Coupled P x y Q) (hf : ∀ a b, Coupled (fun w v => Q a w b v) (f a) (g b) S) :
    Coupled P (x >>= f) (y >>= g) S := by
  intro w v w' v' a b hp hx hy
  obtain ⟨a₁, w₁, hx₁, hx₂⟩ := ends_bind.mp hx
  obtain ⟨b₁, v₁, hy₁, hy₂⟩ := ends_bind.mp hy
  exact hf a₁ b₁ (h hp hx₁ hy₁) hx₂ hy₂

/-- Mapped acts are coupled by what holds of the mapped values. -/
theorem Coupled.map {x : Act α} {y : Act α'} {f : α → β} {g : α' → β'}
    (h : Coupled P x y (fun a w b v => S (f a) w (g b) v)) : Coupled P (f <$> x) (g <$> y) S := by
  intro w v w' v' a b hp hx hy
  obtain ⟨a₁, hx₁, rfl⟩ := ends_map.mp hx
  obtain ⟨b₁, hy₁, rfl⟩ := ends_map.mp hy
  exact h hp hx₁ hy₁

/-- Two changes of the world are coupled by what they establish. -/
theorem coupled_modify {f g : World → World} {Q : Unit → World → Unit → World → Prop}
    (h : ∀ ⦃w v⦄, P w v → Q () (f w) () (g v)) : Coupled P (modify f) (modify g) Q := by
  intro w v w' v' a b hp hx hy
  cases ends_modify.mp hx
  cases ends_modify.mp hy
  exact h hp

/-- Both computations look around; what they see of their worlds is known to them. -/
theorem coupled_get_bind {f : World → Act β} {g : World → Act β'}
    (h : ∀ w v, P w v → Coupled (fun w' v' => w' = w ∧ v' = v) (f w) (g v) S) :
    Coupled P (get >>= f) (get >>= g) S := by
  intro w v w' v' a b hp hx hy
  exact h w v hp ⟨rfl, rfl⟩ (ends_get_bind.mp hx) (ends_get_bind.mp hy)

/-- Behind two set worlds, the rests are coupled from there. -/
theorem coupled_set_bind {w v : World} {f : Unit → Act β} {g : Unit → Act β'}
    (h : Coupled P (f ()) (g ()) S) (hp : P w v) :
    Coupled P' (set w >>= f) (set v >>= g) S := by
  intro w₁ v₁ w' v' a b _ hx hy
  exact h hp (ends_set_bind.mp hx) (ends_set_bind.mp hy)

end Rules

/-! ### Computations that may fail -/

/-- Settled runs stay settled for weaker relations. -/
theorem settled_mono {E E' : World → World → Prop} {Q Q' : α → World → α' → World → Prop}
    (hE : ∀ ⦃w v⦄, E w v → E' w v) (hQ : ∀ ⦃a w b v⦄, Q a w b v → Q' a w b v)
    ⦃r : Except ε α⦄ ⦃w : World⦄ ⦃r' : Except ε α'⦄ ⦃v : World⦄ (h : settled E Q r w r' v) :
    settled E' Q' r w r' v := by
  cases r with
  | ok a =>
    cases r' with
    | ok b => exact hQ h
    | error e => exact h
  | error e =>
    cases r' with
    | ok b => exact h
    | error e' => exact ⟨h.1, hE h.2⟩

/-- A relation that errors and values both establish holds at the end. -/
theorem settled_const {E : World → World → Prop} ⦃r : Except ε α⦄ ⦃w : World⦄ ⦃r' : Except ε α'⦄
    ⦃v : World⦄ (h : settled E (fun _ w _ v => E w v) r w r' v) : E w v := by
  cases r with
  | ok a =>
    cases r' with
    | ok b => exact h
    | error e => exact h.elim
  | error e =>
    cases r' with
    | ok b => exact h.elim
    | error e' => exact h.2

section Failing

variable {E : World → World → Prop} {Q : α → World → α' → World → Prop}
  {S : β → World → β' → World → Prop}

/-- Two values are settled by what is known of them. -/
theorem coupled_run_pure {a : α} {b : α'} (h : ∀ ⦃w v⦄, P w v → Q a w b v) :
    Coupled P (pure a : ExceptT ε Act α).run (pure b : ExceptT ε Act α').run (settled E Q) :=
  coupled_pure h

/-- One error in both runs is settled. -/
theorem coupled_run_throw {e : ε} (h : ∀ ⦃w v⦄, P w v → E w v) :
    Coupled P (throw e : ExceptT ε Act α).run (throw e : ExceptT ε Act α').run (settled E Q) :=
  coupled_pure (fun _ _ hp => ⟨rfl, h hp⟩)

/-- The two ways in which a step that may fail can have ended on both sides. -/
theorem coupled_settled {r : Except ε α} {r' : Except ε α'} {x : Act β} {y : Act β'}
    (hok : ∀ a b, r = .ok a → r' = .ok b → Coupled (fun w v => Q a w b v) x y S)
    (herror : ∀ e, r = .error e → r' = .error e → Coupled E x y S) :
    Coupled (fun w v => settled E Q r w r' v) x y S := by
  intro w v w' v' a b hp hx hy
  cases r with
  | ok c =>
    cases r' with
    | ok d => exact hok c d rfl rfl hp hx hy
    | error e => exact hp.elim
  | error e =>
    cases r' with
    | ok d => exact hp.elim
    | error e' =>
      obtain ⟨rfl, hp⟩ := hp
      exact herror e rfl rfl hp hx hy

/-- Sequences that may fail are coupled part by part. -/
theorem Coupled.run_bind {x : ExceptT ε Act α} {y : ExceptT ε Act α'} {f : α → ExceptT ε Act β}
    {g : α' → ExceptT ε Act β'} (h : Coupled P x.run y.run (settled E Q))
    (hf : ∀ a b, Coupled (fun w v => Q a w b v) (f a).run (g b).run (settled E S)) :
    Coupled P (x >>= f).run (y >>= g).run (settled E S) := by
  rw [ExceptT.run_bind, ExceptT.run_bind]
  refine h.bind (fun r r' => coupled_settled ?_ ?_)
  · rintro a b rfl rfl
    exact hf a b
  · rintro e rfl rfl
    exact coupled_pure (fun _ _ he => ⟨rfl, he⟩)

/-- Behind coupled acts, the rests are coupled. -/
theorem Coupled.run_lift_bind {x : Act α} {y : Act α'} {f : α → ExceptT ε Act β}
    {g : α' → ExceptT ε Act β'} (h : Coupled P x y Q)
    (hf : ∀ a b, Coupled (fun w v => Q a w b v) (f a).run (g b).run (settled E S)) :
    Coupled P (liftM x >>= f : ExceptT ε Act β).run (liftM y >>= g : ExceptT ε Act β').run
      (settled E S) := by
  intro w v w' v' a b hp hx hy
  obtain ⟨a₁, w₁, hx₁, hx₂⟩ := ends_run_lift_bind.mp hx
  obtain ⟨b₁, v₁, hy₁, hy₂⟩ := ends_run_lift_bind.mp hy
  exact hf a₁ b₁ (h hp hx₁ hy₁) hx₂ hy₂

/-- Coupled acts stay coupled where an error may come. -/
theorem Coupled.run_lift {x : Act α} {y : Act α'} (h : Coupled P x y Q) :
    Coupled P (liftM x : ExceptT ε Act α).run (liftM y : ExceptT ε Act α').run (settled E Q) :=
  Coupled.map h

/-- Naming the error otherwise keeps the coupling. -/
theorem Coupled.run_adapt {x : ExceptT ε' Act α} {y : ExceptT ε' Act α'}
    (h : Coupled P x.run y.run (settled E Q)) (f : ε' → ε) :
    Coupled P (ExceptT.adapt f x).run (ExceptT.adapt f y).run (settled E Q) := by
  refine Coupled.map (h.mono (fun _ _ hp => hp) ?_)
  rintro (e | a) w (e' | b) v hr
  · obtain ⟨rfl, hr⟩ := hr
    exact ⟨rfl, hr⟩
  · exact hr
  · exact hr
  · exact hr

/-- Behind a look at either world, the rests are coupled from the worlds seen. -/
theorem coupled_run_get_bind {f : World → ExceptT ε Act β} {g : World → ExceptT ε Act β'}
    (h : ∀ w v, P w v →
      Coupled (fun w' v' => w' = w ∧ v' = v) (f w).run (g v).run (settled E S)) :
    Coupled P (get >>= f : ExceptT ε Act β).run (get >>= g : ExceptT ε Act β').run
      (settled E S) :=
  coupled_get_bind (f := fun w => (f w).run) (g := fun v => (g v).run) h

end Failing

/-! ### Computations that leave worlds in one relation -/

section Paired

variable {R : World → World → Prop} {V : α → α' → Prop} {U : β → β' → Prop}

/-- In worlds that stand in `R` the computations yield related values and end in such worlds. -/
def Paired (R : World → World → Prop) (V : α → α' → Prop) (x : Act α) (y : Act α') : Prop :=
  Coupled R x y (both V R)

/-- In worlds that stand in `R` the computations fail alike or yield related values, and end in such
worlds. -/
def PairedRun (R : World → World → Prop) (V : α → α' → Prop) (x : ExceptT ε Act α)
    (y : ExceptT ε Act α') : Prop :=
  Coupled R x.run y.run (settled R (both V R))

/-- Two related values are paired. -/
theorem paired_pure {a : α} {b : α'} (h : V a b) : Paired R V (pure a) (pure b) :=
  coupled_pure (fun _ _ hp => ⟨h, hp⟩)

/-- Sequences are paired part by part. -/
theorem Paired.bind {x : Act α} {y : Act α'} {f : α → Act β} {g : α' → Act β'}
    (h : Paired R V x y) (hf : ∀ a b, V a b → Paired R U (f a) (g b)) :
    Paired R U (x >>= f) (y >>= g) :=
  Coupled.bind h (fun a b => coupled_of (hf a b))

/-- Two changes that keep the relation are paired. -/
theorem paired_modify {f g : World → World} (h : ∀ ⦃w v⦄, R w v → R (f w) (g v)) :
    Paired R (· = ·) (modify f) (modify g) :=
  coupled_modify (fun _ _ hp => ⟨rfl, h hp⟩)

/-- Behind a look at either world, the rests are paired. -/
theorem paired_get_bind {f : World → Act β} {g : World → Act β'}
    (h : ∀ w v, R w v → Paired R U (f w) (g v)) : Paired R U (get >>= f) (get >>= g) :=
  coupled_get_bind (fun w v hp => (h w v hp).known hp)

/-- Two related values are paired, also where an error may come. -/
theorem pairedRun_pure {a : α} {b : α'} (h : V a b) :
    PairedRun R V (pure a : ExceptT ε Act α) (pure b) :=
  coupled_run_pure (fun _ _ hp => ⟨h, hp⟩)

/-- One error in both runs is paired. -/
theorem pairedRun_throw (e : ε) :
    PairedRun R V (throw e : ExceptT ε Act α) (throw e : ExceptT ε Act α') :=
  coupled_run_throw (fun _ _ hp => hp)

/-- Results that are the same error or related values are paired. -/
theorem pairedRun_mapError (failure : ε' → ε) {x : Except ε' α} {y : Except ε' α'}
    (h : (∃ e, x = .error e ∧ y = .error e) ∨ ∃ a b, x = .ok a ∧ y = .ok b ∧ V a b) :
    PairedRun R V (ExceptT.mk (pure (x.mapError failure)) : ExceptT ε Act α)
      (ExceptT.mk (pure (y.mapError failure))) := by
  obtain ⟨e, rfl, rfl⟩ | ⟨a, b, rfl, rfl, hab⟩ := h
  · exact pairedRun_throw _
  · exact pairedRun_pure hab

/-- Sequences that may fail are paired part by part. -/
theorem PairedRun.bind {x : ExceptT ε Act α} {y : ExceptT ε Act α'} {f : α → ExceptT ε Act β}
    {g : α' → ExceptT ε Act β'} (h : PairedRun R V x y)
    (hf : ∀ a b, V a b → PairedRun R U (f a) (g b)) : PairedRun R U (x >>= f) (y >>= g) :=
  Coupled.run_bind h (fun a b => coupled_of (hf a b))

/-- Behind paired acts, the rests are paired. -/
theorem Paired.lift_bind {x : Act α} {y : Act α'} {f : α → ExceptT ε Act β}
    {g : α' → ExceptT ε Act β'} (h : Paired R V x y)
    (hf : ∀ a b, V a b → PairedRun R U (f a) (g b)) :
    PairedRun R U (liftM x >>= f : ExceptT ε Act β) (liftM y >>= g) :=
  Coupled.run_lift_bind h (fun a b => coupled_of (hf a b))

/-- Paired acts stay paired where an error may come. -/
theorem Paired.lift {x : Act α} {y : Act α'} (h : Paired R V x y) :
    PairedRun R V (liftM x : ExceptT ε Act α) (liftM y) := Coupled.run_lift h

/-- How a computation ended may be looked at. -/
theorem PairedRun.run_bind {x : ExceptT ε Act α} {y : ExceptT ε Act α'} {f : Except ε α → Act β}
    {g : Except ε α' → Act β'} (h : PairedRun R V x y)
    (hok : ∀ a b, V a b → Paired R U (f (.ok a)) (g (.ok b)))
    (herror : ∀ e, Paired R U (f (.error e)) (g (.error e))) :
    Paired R U (x.run >>= f) (y.run >>= g) := by
  refine Coupled.bind h (fun r r' => coupled_settled ?_ ?_)
  · rintro a b rfl rfl
    exact coupled_of (hok a b)
  · rintro e rfl rfl
    exact herror e

/-- Behind a part whose error is caught, the rests are paired for either ending. -/
theorem PairedRun.lift_run_bind {x : ExceptT ε' Act α} {y : ExceptT ε' Act α'}
    {f : Except ε' α → ExceptT ε Act β} {g : Except ε' α' → ExceptT ε Act β'}
    (h : PairedRun R V x y) (hok : ∀ a b, V a b → PairedRun R U (f (.ok a)) (g (.ok b)))
    (herror : ∀ e, PairedRun R U (f (.error e)) (g (.error e))) :
    PairedRun R U (liftM x.run >>= f : ExceptT ε Act β) (liftM y.run >>= g) := by
  refine Coupled.run_lift_bind h (fun r r' => coupled_settled ?_ ?_)
  · rintro a b rfl rfl
    exact coupled_of (hok a b)
  · rintro e rfl rfl
    exact herror e

/-- Naming the error otherwise keeps the pairing. -/
theorem PairedRun.adapt {x : ExceptT ε' Act α} {y : ExceptT ε' Act α'} (h : PairedRun R V x y)
    (f : ε' → ε) : PairedRun R V (ExceptT.adapt f x) (ExceptT.adapt f y) := Coupled.run_adapt h f

/-- Behind a look at either world, the rests are paired, also where an error may come. -/
theorem pairedRun_get_bind {f : World → ExceptT ε Act β} {g : World → ExceptT ε Act β'}
    (h : ∀ w v, R w v → PairedRun R U (f w) (g v)) :
    PairedRun R U (get >>= f : ExceptT ε Act β) (get >>= g) :=
  coupled_run_get_bind (fun w v hp => (h w v hp).known hp)

/-- A computation that does the same in related worlds goes beside itself. -/
theorem Respects.paired {x : Act α} (h : Respects R x) : Paired R (· = ·) x x := by
  intro w v w' v' a b hr hx hy
  obtain ⟨u, hu, hr'⟩ := h hr hx
  obtain ⟨rfl, rfl⟩ := hu.unique hy
  exact ⟨rfl, hr'⟩

/-- What does the same in related worlds may come before both computations. -/
theorem Respects.before {E : World → World → Prop} {S : β → World → β' → World → Prop} {x : Act α}
    {y : ExceptT ε Act β} {z : ExceptT ε Act β'} (h : Respects R x)
    (hrest : Coupled R y.run z.run (settled E S)) :
    Coupled R (liftM x >>= fun _ => y : ExceptT ε Act β).run
      (liftM x >>= fun _ => z : ExceptT ε Act β').run (settled E S) :=
  Coupled.run_lift_bind h.paired (fun _ _ => hrest.mono (fun _ _ hr => hr.2)
    (fun _ _ _ _ hq => hq))

/-- The worlds may be related by less afterwards. -/
theorem PairedRun.weaken {E : World → World → Prop} {x : ExceptT ε Act α} {y : ExceptT ε Act α'}
    (h : PairedRun R V x y) (hE : ∀ ⦃w v⦄, R w v → E w v) :
    Coupled R x.run y.run (settled E (both V R)) :=
  h.mono (fun _ _ hp => hp) (settled_mono hE (fun _ _ _ _ hq => hq))

/-- What respects a relation is paired with itself. -/
theorem Respects.pairedRun {x : ExceptT ε Act α} (h : Respects R x.run) :
    PairedRun R (· = ·) x x := by
  refine h.paired.mono (fun _ _ hr => hr) ?_
  rintro (e | a) w _ v ⟨rfl, hr⟩
  · exact ⟨rfl, hr⟩
  · exact ⟨rfl, hr⟩

end Paired
end SecretSync.Act

import SecretSync.World.Basic

/-!
# The turns of others

In a turn others do a row of deeds.  What each deed leads to, a whole turn leads to: once as a
relation between the worlds before and behind it, once as a relation between two worlds in which
others do alike.
-/

namespace SecretSync.World

private theorem disturb_others (w : World) (deed : Disturbance) :
    (w.disturb deed).others = w.others := by
  cases deed with
  | editDeclaration key changes generation =>
    simp only [disturb]
    split <;> rfl
  | _ => rfl

/-- A deed of others leaves the faults. -/
theorem disturb_faults (w : World) (deed : Disturbance) : (w.disturb deed).faults = w.faults := by
  cases deed with
  | editDeclaration key changes generation =>
    simp only [disturb]
    split <;> rfl
  | _ => rfl

/-- A turn is made of the first deeds that others have in mind. -/
theorem interlude_eq (w : World) :
    w.interlude = (w.others.getD 0 []).foldl disturb { w with others := w.others.tail } := by
  unfold interlude
  split
  · next hothers => rw [hothers, List.getD_nil, List.foldl_nil, List.tail_nil, ← hothers]
  · next hothers =>
    rw [hothers]
    rfl

section Relation

variable {R : World → World → Prop}

/-- Where each of some deeds leads, all of them in a row lead. -/
theorem foldl_disturb (refl : ∀ w, R w w) (trans : ∀ {u v w}, R u v → R v w → R u w)
    {deeds : List Disturbance} (h : ∀ deed ∈ deeds, ∀ w : World, R w (w.disturb deed)) (w : World) :
    R w (deeds.foldl disturb w) := by
  induction deeds generalizing w with
  | nil => exact refl w
  | cons deed deeds ih =>
    rw [List.forall_mem_cons] at h
    exact trans (h.1 w) (ih h.2 (w.disturb deed))

/-- Where every deed leads, a turn leads. -/
theorem interlude_of_disturb (refl : ∀ w, R w w) (trans : ∀ {u v w}, R u v → R v w → R u w)
    (taken : ∀ (w : World) rest, R w { w with others := rest })
    (h : ∀ (w : World) deed, R w (w.disturb deed)) (w : World) : R w w.interlude := by
  rw [interlude_eq]
  exact trans (taken w _) (foldl_disturb refl trans (fun deed _ w => h w deed) _)

end Relation

/-- The turn of others uses up the first of their deeds. -/
theorem interlude_others (w : World) : w.interlude.others = w.others.tail := by
  rw [interlude_eq]
  exact foldl_disturb (R := fun v u => u.others = v.others) (fun _ => rfl)
    (fun h h' => h'.trans h) (fun deed _ v => disturb_others v deed) _

/-- The turn of others leaves the faults. -/
theorem interlude_faults (w : World) : w.interlude.faults = w.faults :=
  interlude_of_disturb (R := fun v u => u.faults = v.faults) (fun _ => rfl)
    (fun h h' => h'.trans h) (fun _ _ => rfl) disturb_faults w

/-! ### Turns in two worlds -/

section Worlds

variable {R : World → World → Prop} {g : Disturbance → Disturbance}

private theorem foldl_disturb_related
    (h : ∀ ⦃w v : World⦄ deed, R w v → R (w.disturb deed) (v.disturb (g deed)))
    (deeds : List Disturbance) ⦃w v : World⦄ (hwv : R w v) :
    R (deeds.foldl disturb w) ((deeds.map g).foldl disturb v) := by
  induction deeds generalizing w v with
  | nil => exact hwv
  | cons deed deeds ih => exact ih (h deed hwv)

/-- A relation between worlds in which others have related deeds in mind is kept by turns if it is
kept by deeds. -/
theorem interlude_related
    (others : ∀ ⦃w v : World⦄, R w v → v.others = w.others.map (List.map g))
    (taken : ∀ ⦃w v : World⦄ rest, R w v →
      R { w with others := rest } { v with others := rest.map (List.map g) })
    (h : ∀ ⦃w v : World⦄ deed, R w v → R (w.disturb deed) (v.disturb (g deed)))
    ⦃w v : World⦄ (hwv : R w v) : R w.interlude v.interlude := by
  unfold interlude
  rw [others hwv]
  cases w.others with
  | nil => exact hwv
  | cons deeds rest => exact foldl_disturb_related h deeds (taken rest hwv)

end Worlds

/-- Two worlds differ at most in their logs. -/
def SameButLogs (w v : World) : Prop := ∃ logs, v = { w with logs := logs }

/-- The log makes no difference to a turn, but in the log. -/
theorem SameButLogs.interlude ⦃w v : World⦄ (h : w.SameButLogs v) :
    w.interlude.SameButLogs v.interlude := by
  refine interlude_related (R := SameButLogs) (g := id) ?_ ?_ ?_ h
  · rintro w v ⟨logs, rfl⟩
    simp
  · rintro w v rest ⟨logs, rfl⟩
    exact ⟨logs, by simp⟩
  · rintro w v deed ⟨logs, rfl⟩
    cases deed with
    | editDeclaration key changes generation =>
      refine ⟨logs, ?_⟩
      simp only [disturb, id]
      split <;> rfl
    | requestStop => exact ⟨_, rfl⟩
    | _ => exact ⟨logs, rfl⟩

/-- A log record differs behind the turn of others in the records alone. -/
theorem interlude_logged (record : LogRecord) (w : World) :
    ∃ logs, (w.logged record).interlude = { w.interlude with logs := logs } :=
  SameButLogs.interlude ⟨_, rfl⟩

/-- Others meet the same declarations whether or not a record was written. -/
theorem declarations_interlude_logged (record : LogRecord) (w : World) :
    (w.logged record).interlude.declarations = w.interlude.declarations := by
  rcases interlude_logged record w with ⟨logs, h⟩
  rw [h]

/-- Others meet the same secrets whether or not a record was written. -/
theorem secrets_interlude_logged (record : LogRecord) (w : World) :
    (w.logged record).interlude.secrets = w.interlude.secrets := by
  rcases interlude_logged record w with ⟨logs, h⟩
  rw [h]

end SecretSync.World

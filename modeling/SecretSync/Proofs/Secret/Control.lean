import SecretSync.Secret.Basic

/-!
# Taking control of a secret

A declaration takes control of the secret at hand in steps: the checks come first, and only behind
them are its own references dropped and the one put last that makes it the controller.  So a secret
that it must not control stays as it is, and one that it controls has this one controller, however
many references there were before and to whom.
-/

namespace SecretSync.Secret

/-- A change of the secret at hand that may fail. -/
abbrev Taking := ExceptT OwnershipError (StateM Secret)

/-- Check that a reference does not mark another object as the controller. -/
def checkOwner (uid : String) (o : OwnerRef) : Taking Unit := do
  if o.controller && o.uid ≠ uid then
    throw (.controlledByOther (← get).fullName o.kind o.name)

/-- Make a declaration the controller of the secret at hand, step by step. -/
def takeControl (d : Declaration) : Taking Unit := do
  let s ← get
  let uid := d.uid.getD ""
  if uid.isEmpty then throw (.ownerWithoutUid d.fullName)
  else if d.ns ≠ s.ns then throw (.foreignNamespace d.fullName s.fullName)
  else
    s.owners.forM (checkOwner uid)
    modify (fun s => { s with owners := s.owners.filter (fun o => o.uid ≠ uid) })
    modify (fun s => { s with owners := s.owners ++ [controllerRef d uid] })

/-- A declaration must not control a secret: it has no uid, it lies in another namespace, or another
object is the controller. -/
def Withheld (d : Declaration) (s : Secret) : Prop :=
  (d.uid = none ∨ d.uid = some "") ∨ d.ns ≠ s.ns ∨
    ∃ o ∈ s.owners, o.controller = true ∧ d.uid ≠ some o.uid

/-- The last of some references is the only one that marks a controller, and the only one to its
owner; the owner cannot be deleted before what it owns. -/
structure SoleController (ref : OwnerRef) (owners : List OwnerRef) : Prop where
  controller : ref.controller = true
  blocks : ref.blockOwnerDeletion = true
  last : owners.getLast? = some ref
  onlyController : owners.filter (fun o => o.controller) = [ref]
  onlyReference : owners.filter (fun o => o.uid = ref.uid) = [ref]

/-- The owners of a secret that a declaration has taken control of. -/
def controlled (d : Declaration) (uid : String) (owners : List OwnerRef) : List OwnerRef :=
  owners.filter (fun o => o.uid ≠ uid) ++ [controllerRef d uid]

variable {d : Declaration} {s : Secret} {uid : String} {owners : List OwnerRef}

/-! ### The answer -/

private theorem own_eq_of_uid (huid : d.uid = some uid) (hfull : uid ≠ "") (hns : d.ns = s.ns) :
    own d s = match s.owners.find? (fun o => o.controller && o.uid ≠ uid) with
      | some o => .error (.controlledByOther s.fullName o.kind o.name)
      | none => .ok { s with owners := controlled d uid s.owners } := by
  have hnonempty : ¬ uid.isEmpty = true := by simpa using hfull
  unfold own
  simp only [huid, Option.getD_some]
  rw [if_neg hnonempty, if_neg (not_not_intro hns)]
  rfl

/-- Nothing else is found to be the controller if every controller is the declaration itself. -/
theorem find?_foreign_eq_none_iff :
    owners.find? (fun o => o.controller && o.uid ≠ uid) = none ↔
      ∀ o ∈ owners, o.controller = true → o.uid = uid := by
  rw [List.find?_eq_none]
  constructor
  · intro hnone o ho hcontroller
    have hsame := hnone o ho
    rw [hcontroller, Bool.true_and, decide_eq_true_eq] at hsame
    exact Decidable.not_not.mp hsame
  · intro hfree o ho hforeign
    rw [Bool.and_eq_true, decide_eq_true_eq] at hforeign
    exact hforeign.2 (hfree o ho hforeign.1)

private theorem own_eq_ok (huid : d.uid = some uid) (hfull : uid ≠ "") (hns : d.ns = s.ns)
    (hfree : ∀ o ∈ s.owners, o.controller = true → o.uid = uid) :
    own d s = .ok { s with owners := controlled d uid s.owners } := by
  rw [own_eq_of_uid huid hfull hns, find?_foreign_eq_none_iff.mpr hfree]

/-- Control is refused exactly if the declaration must not control the secret. -/
theorem own_refused_or_taken (d : Declaration) (s : Secret) :
    (Withheld d s ∧ ∃ e, own d s = .error e) ∨
      (¬ Withheld d s ∧ ∃ uid, d.uid = some uid ∧ uid ≠ "" ∧ d.ns = s.ns ∧
        (∀ o ∈ s.owners, o.controller = true → o.uid = uid) ∧
        own d s = .ok { s with owners := controlled d uid s.owners }) := by
  cases huid : d.uid with
  | none => exact Or.inl ⟨Or.inl (Or.inl huid), by simp [own, huid]⟩
  | some uid =>
    by_cases hfull : uid = ""
    · exact Or.inl ⟨Or.inl (Or.inr (hfull ▸ huid)), by simp [own, huid, hfull]⟩
    · by_cases hns : d.ns = s.ns
      · have hown := own_eq_of_uid huid hfull hns
        cases hfind : s.owners.find? (fun o => o.controller && o.uid ≠ uid) with
        | some o =>
          rw [hfind] at hown
          have hforeign := List.find?_some hfind
          rw [Bool.and_eq_true, decide_eq_true_eq] at hforeign
          have hne : d.uid ≠ some o.uid := by
            rw [huid]
            exact fun heq => hforeign.2 (Option.some.inj heq).symm
          have ho := List.mem_of_find?_eq_some hfind
          exact Or.inl ⟨Or.inr (Or.inr ⟨o, ho, hforeign.1, hne⟩), _, hown⟩
        | none =>
          have hfree := find?_foreign_eq_none_iff.mp hfind
          refine Or.inr ⟨?_, uid, rfl, hfull, hns, hfree, own_eq_ok huid hfull hns hfree⟩
          rintro ((hnone | hempty) | hother | ⟨o, ho, hcontroller, hne⟩)
          · cases huid.symm.trans hnone
          · exact hfull (Option.some.inj (huid.symm.trans hempty))
          · exact hother hns
          · exact hne (huid.trans (congrArg some (hfree o ho hcontroller).symm))
      · exact Or.inl ⟨Or.inr (Or.inl hns), by simp [own, huid, hfull, hns]⟩

/-! ### The owners -/

private theorem soleController_controlled
    (hfree : ∀ o ∈ owners, o.controller = true → o.uid = uid) :
    SoleController (controllerRef d uid) (controlled d uid owners) where
  controller := rfl
  blocks := rfl
  last := List.getLast?_concat
  onlyController := by
    have hnone : (owners.filter (fun o => o.uid ≠ uid)).filter (fun o => o.controller) = [] := by
      rw [List.filter_filter, List.filter_eq_nil_iff]
      intro o ho hboth
      rw [Bool.and_eq_true, decide_eq_true_eq] at hboth
      exact hboth.2 (hfree o ho hboth.1)
    rw [controlled, List.filter_append, hnone]
    rfl
  onlyReference := by
    have hnone : (owners.filter (fun o => o.uid ≠ uid)).filter (fun o => o.uid = uid) = [] := by
      rw [List.filter_filter, List.filter_eq_nil_iff]
      intro o _ hboth
      rw [Bool.and_eq_true, decide_eq_true_eq, decide_eq_true_eq] at hboth
      exact hboth.2 hboth.1
    rw [controlled, List.filter_append]
    change (owners.filter (fun o => o.uid ≠ uid)).filter (fun o => o.uid = uid) ++ _ = _
    rw [hnone]
    simp [controllerRef]

/-- References to others are kept, and taking control anew puts the same one behind them. -/
theorem controlled_controlled (d : Declaration) (uid : String) (owners : List OwnerRef) :
    controlled d uid (controlled d uid owners) = controlled d uid owners := by
  simp [controlled, controllerRef, List.filter_append, List.filter_filter]

/-! ### The steps -/

/-- The scan of the owners ends at the first reference that marks another controller. -/
theorem run_scan (uid : String) (owners : List OwnerRef) (s : Secret) :
    (owners.forM (checkOwner uid)).run.run s =
      (match owners.find? (fun o => o.controller && o.uid ≠ uid) with
        | some o => .error (.controlledByOther s.fullName o.kind o.name)
        | none => .ok (), s) := by
  induction owners with
  | nil => rfl
  | cons o rest ih =>
    have hstep : (o :: rest).forM (checkOwner uid) =
        checkOwner uid o >>= fun _ => rest.forM (checkOwner uid) := rfl
    rw [List.find?_cons, hstep, checkOwner]
    cases hforeign : o.controller && decide (o.uid ≠ uid) with
    | true => rfl
    | false => exact ih

/-- The steps end as `own` tells, and leave the secret at hand if they end with an error. -/
theorem run_takeControl (d : Declaration) (s : Secret) :
    (takeControl d).run.run s =
      match own d s with
      | .ok s' => (.ok (), s')
      | .error e => (.error e, s) := by
  let uid := d.uid.getD ""
  have hsteps : (takeControl d).run.run s = (
      if uid.isEmpty then throw (.ownerWithoutUid d.fullName)
      else if d.ns ≠ s.ns then throw (.foreignNamespace d.fullName s.fullName)
      else do
        s.owners.forM (checkOwner uid)
        modify (fun s => { s with owners := s.owners.filter (fun o => o.uid ≠ uid) })
        modify (fun s => { s with owners := s.owners ++ [controllerRef d uid] }) :
      Taking Unit).run.run s := rfl
  rw [hsteps, own]
  by_cases hempty : uid.isEmpty = true
  · rw [if_pos hempty, if_pos hempty]
    rfl
  · rw [if_neg hempty, if_neg hempty]
    by_cases hns : d.ns ≠ s.ns
    · rw [if_pos hns, if_pos hns]
      rfl
    · rw [if_neg hns, if_neg hns, ExceptT.run_bind, StateT.run_bind, run_scan]
      cases s.owners.find? (fun o => o.controller && o.uid ≠ uid) with
      | some o => rfl
      | none => rfl

/-- A declaration takes control of a secret exactly if nothing withholds it, and a secret that is
withheld stays as it is.  Otherwise all that changes are the owners: those with other uids are kept
in their order, and behind them stands the reference to the declaration, which is then the only
controller and the only one with its uid.  Taking control again changes nothing. -/
theorem taken_control_is_sole_and_stable (d : Declaration) (s : Secret) :
    own d s = ((takeControl d).run.run s).1.map (fun _ => ((takeControl d).run.run s).2) ∧
      match (takeControl d).run.run s with
      | (.error _, s') => Withheld d s ∧ s' = s
      | (.ok (), s') => ¬ Withheld d s ∧ ∃ uid, d.uid = some uid ∧
          s' = { s with
            owners := s.owners.filter (fun o => o.uid ≠ uid) ++ [controllerRef d uid] } ∧
          SoleController (controllerRef d uid) s'.owners ∧
          (takeControl d).run.run s' = (.ok (), s') := by
  rcases own_refused_or_taken d s with ⟨hwithheld, e, hown⟩ |
    ⟨hfree, uid, huid, hfull, hns, howners, hown⟩
  · rw [run_takeControl, hown]
    exact ⟨rfl, hwithheld, rfl⟩
  · rw [run_takeControl, hown]
    refine ⟨rfl, hfree, uid, huid, rfl, soleController_controlled howners, ?_⟩
    have hkept : ∀ o ∈ controlled d uid s.owners, o.controller = true → o.uid = uid := by
      intro o ho hcontroller
      have hsole : o ∈ (controlled d uid s.owners).filter (fun o => o.controller) :=
        List.mem_filter.mpr ⟨ho, hcontroller⟩
      rw [(soleController_controlled howners).onlyController, List.mem_singleton] at hsole
      rw [hsole]
      rfl
    have hagain : own d { s with owners := controlled d uid s.owners } =
        .ok { s with owners := controlled d uid (controlled d uid s.owners) } :=
      own_eq_ok huid hfull hns hkept
    rw [run_takeControl, hagain, controlled_controlled]

end SecretSync.Secret

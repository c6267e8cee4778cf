import SecretSync.Proofs.World.Asking
import SecretSync.Sync.Reconcile

/-!
# Which calls ask for declarations

A list and a watch are one call each, and every reconcile asks for its own declaration once.
-/

namespace SecretSync

open Act

/-! ### Requests to the cluster -/

namespace Cluster

private theorem takeFault_asks (api : Api) : Asks [] (takeFault api) := by
  intro w fault w' h
  have hends := ends_get_bind.mp h
  split at hends
  · rw [ends_set_bind] at hends
    obtain ⟨-, rfl⟩ := ends_pure.mp hends
    exact World.asks_nil_of_same rfl rfl rfl id
  · obtain ⟨-, rfl⟩ := ends_pure.mp hends
    exact World.Asks.refl _

/-- A request asks for declarations exactly if its call does, also when a fault strikes. -/
theorem send_asks (api : Api) (call : Call) :
    Asks ([call].filter Call.asksForDeclarations) (send api call).run := by
  refine yieldToOthers_asks.run_lift_before (fun _ => (note_asks call).run_lift_bind (fun _ => ?_))
  refine (takeFault_asks api).run_lift_bind (fun fault => ?_)
  cases fault with
  | some fault => exact asks_run_throw fault
  | none => exact asks_run_pure ()

private theorem nextVersion_asks : Asks [] nextVersion := by
  have hcounted : Asks [] (modify (fun w : World => { w with version := w.version + 1 })) :=
    asks_modify (fun _ => World.asks_nil_of_same rfl rfl rfl id)
  exact hcounted.bind (fun _ => asks_get_bind (fun _ => asks_pure _))

private theorem getDeclaration_asks (key : ObjectKey) (timeout : Int) :
    Asks [.getDeclaration key timeout] (getDeclaration key timeout).run := by
  refine (send_asks .getDeclaration (.getDeclaration key timeout)).run_bind (fun _ => ?_)
  refine asks_run_get_bind (fun w => ?_)
  split
  · exact asks_run_pure _
  · exact asks_run_throw _

private theorem listDeclarations_asks (ns : Option String) (timeout : Int) :
    Asks [.listDeclarations ns timeout] (listDeclarations ns timeout).run := by
  refine (send_asks .listDeclarations (.listDeclarations ns timeout)).run_bind (fun _ => ?_)
  refine asks_run_get_bind (fun w => ?_)
  split <;> exact asks_run_pure _

private theorem patchStatus_asks (key : ObjectKey) (body : Json) (timeout : Int) :
    Asks [] (patchStatus key body timeout).run := by
  refine (send_asks .patchStatus (.patchStatus key body timeout)).run_bind (fun _ => ?_)
  refine asks_run_get_bind (fun w => ?_)
  split
  · exact asks_run_throw _
  · refine nextVersion_asks.run_lift_bind (fun version => ?_)
    exact Asks.run_lift_bind (asks_modify (fun _ => World.asks_nil_of_same rfl rfl rfl id))
      (fun _ => asks_run_pure _)

private theorem readSecret_asks (key : ObjectKey) (timeout : Int) :
    Asks [] (readSecret key timeout).run := by
  refine (send_asks .readSecret (.readSecret key timeout)).run_bind (fun _ => ?_)
  refine asks_run_get_bind (fun w => ?_)
  split
  · exact asks_run_pure _
  · exact asks_run_throw _

private theorem createSecret_asks (ns : String) (body : SecretObject) (timeout : Int) :
    Asks [] (createSecret ns body timeout).run := by
  refine (send_asks .createSecret (.createSecret ns body timeout)).run_bind (fun _ => ?_)
  refine asks_run_get_bind (fun w => ?_)
  split
  · exact asks_run_throw _
  · refine nextVersion_asks.run_lift_bind (fun version => ?_)
    exact Asks.run_lift_bind (asks_modify (fun _ => World.asks_nil_of_same rfl rfl rfl id))
      (fun _ => asks_run_pure _)

private theorem replaceSecret_asks (key : ObjectKey) (body : SecretObject) (timeout : Int) :
    Asks [] (replaceSecret key body timeout).run := by
  refine (send_asks .replaceSecret (.replaceSecret key body timeout)).run_bind (fun _ => ?_)
  refine asks_run_get_bind (fun w => ?_)
  split
  · exact asks_run_throw _
  · split
    · exact asks_run_throw _
    · refine nextVersion_asks.run_lift_bind (fun version => ?_)
      exact Asks.run_lift_bind (asks_modify (fun _ => World.asks_nil_of_same rfl rfl rfl id))
        (fun _ => asks_run_pure _)

/-! ### Stores -/

private theorem logWrite_asks (event ns name : String) (answer : Except Fault SecretObject) :
    Asks [] (Secrets.logWrite event ns name answer) := by
  cases answer with
  | ok _ => exact log_asks _ _ _
  | error _ => exact asks_pure ()

private theorem Secrets.fetch_asks (access : Access) (ns name : String) :
    Asks [] (Secrets.fetch access ns name).run :=
  (log_asks _ _ _).run_lift_bind (fun _ =>
    (readSecret_asks _ _).run_lift_bind (fun _ => asks_pure _))

private theorem Secrets.create_asks (access : Access) (s : Secret) :
    Asks [] (Secrets.create access s).run :=
  (log_asks _ _ _).run_lift_bind (fun _ => (createSecret_asks _ _ _).run_lift_bind (fun _ =>
    (logWrite_asks _ _ _ _).run_lift_bind (fun _ => asks_pure _)))

private theorem Secrets.update_asks (access : Access) (s : Secret) :
    Asks [] (Secrets.update access s).run :=
  (log_asks _ _ _).run_lift_bind (fun _ => (replaceSecret_asks _ _ _).run_lift_bind (fun _ =>
    (logWrite_asks _ _ _ _).run_lift_bind (fun _ => asks_pure _)))

namespace Declarations

private theorem fetch_asks (access : Access) (key : ObjectKey) :
    Asks [.getDeclaration key access.timeout] (fetch access key).run :=
  (log_asks _ _ _).run_lift_before (fun _ =>
    (getDeclaration_asks _ _).run_lift_bind (fun _ => asks_pure _))

private theorem logPatch_asks (d : Declaration) (answer : Except Fault Json) :
    Asks [] (logPatch d answer) := by
  cases answer with
  | ok _ => exact log_asks _ _ _
  | error _ => exact asks_pure ()

private theorem updateStatus_asks (access : Access) (d : Declaration) :
    Asks [] (updateStatus access d).run :=
  (log_asks _ _ _).run_lift_bind (fun _ => (patchStatus_asks _ _ _).run_lift_bind (fun _ =>
    (logPatch_asks d _).run_lift_bind (fun _ => asks_pure _)))

private theorem readOrSkip_asks (object : Json) : Asks [] (readOrSkip object).run := by
  unfold readOrSkip
  split
  · exact asks_run_pure _
  · split
    · exact asks_run_throw _
    · exact (log_asks _ _ _).run_lift_bind (fun _ => asks_run_pure _)
  · exact asks_run_throw _

private theorem readAll_asks (objects : List Json) : Asks [] (readAll objects).run := by
  induction objects with
  | nil => exact asks_run_pure _
  | cons object rest ih =>
    exact (readOrSkip_asks object).run_bind (fun _ => ih.run_bind (fun _ => asks_run_pure _))

private theorem readList_asks (answer : Json) : Asks [] (readList answer).run := by
  unfold readList
  split
  · exact asks_run_throw _
  · split
    · exact asks_run_throw _
    · refine (readAll_asks _).run_bind (fun _ => ?_)
      split
      · exact asks_run_throw _
      · exact asks_run_pure _

/-- A list asks once, whether it is answered or not. -/
theorem list_asks (access : Access) (ns : Option String) :
    Asks [.listDeclarations (Subject.part ns) access.timeout] (list access ns).run := by
  refine (log_asks _ _ _).run_lift_before (fun _ => ?_)
  refine (listDeclarations_asks _ _).run_lift_bind (fun answer => ?_)
  cases answer with
  | error fault => exact asks_run_throw _
  | ok answer =>
    refine ((readList_asks answer).run_adapt _).run_bind (fun found => ?_)
    exact (log_asks _ _ _).run_lift_bind (fun _ => asks_run_pure _)

/-- Receiving an item asks nothing of the cluster. -/
theorem receive_asks (ns : Option String) (item : WindowItem) : Asks [] (receive ns item) := by
  cases item with
  | advance time => exact (advance_asks time).bind (fun _ => asks_pure _)
  | stop =>
    have hstopped : Asks [] (modify World.requestStop) :=
      asks_modify (fun _ => World.asks_nil_of_same rfl rfl rfl (fun _ => rfl))
    exact hstopped.bind (fun _ => asks_pure _)
  | failure fault => exact asks_pure _
  | event value =>
    unfold receive receiveEvent
    dsimp only
    split
    · exact asks_pure _
    · split
      · exact asks_pure _
      · split
        · refine (readOrSkip_asks _).bind (fun answer => ?_)
          split <;> exact asks_pure _
        · exact asks_pure _

/-- A watch asks once, and others get their turn before it. -/
theorem openWatch_cases {ns : Option String} {cursor : Json} {seconds : Int}
    {items : List WindowItem} {w w' : World} (h : Ends (openWatch ns cursor seconds) w items w') :
    ∃ v, w.Asks [.watch (Subject.part ns) (if cursor.isTruthy then some cursor else none) seconds]
      v ∧ ((∃ rest, v.windows = items :: rest ∧ w' = { v with windows := rest }) ∨
        v.stopWhenIdle = true ∧ w' = v.requestStop ∨ v.stopWhenIdle = false ∧ w' = v) := by
  obtain ⟨_, u, hturn, h⟩ := ends_bind.mp h
  obtain ⟨_, v, hnoted, h⟩ := ends_bind.mp h
  refine ⟨v, (yieldToOthers_asks hturn).trans (note_asks _ hnoted), ?_⟩
  rw [ends_get_bind] at h
  split at h
  · next window rest hwaits =>
    rw [ends_set_bind] at h
    obtain ⟨rfl, rfl⟩ := ends_pure.mp h
    exact Or.inl ⟨rest, hwaits, rfl⟩
  · split at h
    · next hidle =>
      rw [ends_modify_bind] at h
      obtain ⟨-, rfl⟩ := ends_pure.mp h
      exact Or.inr (Or.inl ⟨hidle, rfl⟩)
    · next hgoing =>
      obtain ⟨-, rfl⟩ := ends_pure.mp h
      exact Or.inr (Or.inr ⟨Bool.eq_false_iff.mpr hgoing, rfl⟩)

/-- Opening a watch is one request, with the cursor if there is one. -/
theorem openWatch_asks (ns : Option String) (cursor : Json) (seconds : Int) :
    Asks [.watch (Subject.part ns) (if cursor.isTruthy then some cursor else none) seconds]
      (openWatch ns cursor seconds) := by
  intro w items w' h
  obtain ⟨v, hasks, ⟨rest, hwaits, rfl⟩ | ⟨-, rfl⟩ | ⟨-, rfl⟩⟩ := openWatch_cases h
  · have hfewer : rest.length ≤ v.windows.length := by simp [hwaits]
    exact ⟨hasks.asked, Nat.le_trans hfewer hasks.windows, hasks.stopWhenIdle, hasks.stays⟩
  · exact ⟨hasks.asked, hasks.windows, hasks.stopWhenIdle, fun _ => rfl⟩
  · exact hasks

/-- A watch that is opened is one of those that wait; when none waits, an operator that is to stop
then is asked to. -/
theorem openWatch_takes {ns : Option String} {cursor : Json} {seconds : Int}
    {items : List WindowItem} {w w' : World} (h : Ends (openWatch ns cursor seconds) w items w')
    (idle : w.stopWhenIdle = true) :
    w'.windows.length < w.windows.length ∨ w'.stopRequested = true := by
  obtain ⟨v, hasks, ⟨rest, hwaits, rfl⟩ | ⟨-, rfl⟩ | ⟨hidle, rfl⟩⟩ := openWatch_cases h
  · have hfewer : rest.length < v.windows.length := by simp [hwaits]
    exact Or.inl (Nat.lt_of_lt_of_le hfewer hasks.windows)
  · exact Or.inr rfl
  · cases (hasks.stopWhenIdle.trans idle).symm.trans hidle

end Declarations
end Cluster

/-! ### The vault -/

namespace Vault

private theorem nextSession_asks : Asks [] nextSession := by
  intro w session w' h
  have hends := ends_get_bind.mp h
  split at hends
  · obtain ⟨-, rfl⟩ := ends_pure.mp hends
    exact World.Asks.refl _
  · rw [ends_set_bind] at hends
    obtain ⟨-, rfl⟩ := ends_pure.mp hends
    exact World.asks_nil_of_same rfl rfl rfl id

private theorem build_asks (endpoints : Endpoints) : Asks [] (Client.build endpoints).run := by
  refine yieldToOthers_asks.run_lift_bind (fun _ => ?_)
  refine (note_asks (.openVault endpoints)).run_lift_bind (fun _ => ?_)
  refine nextSession_asks.run_lift_bind (fun session => ?_)
  split
  · exact asks_run_throw _
  · refine Asks.run_lift_bind (asks_modify (fun _ => World.asks_nil_of_same rfl rfl rfl id))
      (fun _ => ?_)
    exact (log_asks _ _ _).run_lift_bind (fun _ => asks_run_pure _)

private theorem login_asks (client : Client) (token statePath : String) :
    Asks [] (client.login token statePath).run := by
  unfold Client.login
  split
  · exact asks_run_throw _
  · refine yieldToOthers_asks.run_lift_bind (fun _ => ?_)
    refine (note_asks (.login token statePath)).run_lift_bind (fun _ => ?_)
    refine (advance_asks _).run_lift_bind (fun _ => ?_)
    split
    · exact asks_run_throw _
    · split
      · exact asks_run_throw _
      · exact asks_run_pure _

private theorem sync_asks (client : Client) (organization : String) (since : Option Time.Instant) :
    Asks [] (client.sync organization since).run := by
  unfold Client.sync
  split
  · exact asks_run_throw _
  · refine yieldToOthers_asks.run_lift_bind (fun _ => ?_)
    refine (note_asks (.sync organization since)).run_lift_bind (fun _ => ?_)
    refine (advance_asks _).run_lift_bind (fun _ => ?_)
    split
    · exact asks_run_throw _
    · split
      · exact asks_run_throw _
      · split
        · exact asks_run_throw _
        · exact asks_run_pure _

private theorem close_asks (client : Client) : Asks [] client.close := by
  unfold Client.close
  split
  · exact Asks.bind (asks_modify (fun _ => World.asks_nil_of_same rfl rfl rfl id))
      (fun _ => asks_pure _)
  · exact asks_pure _

private theorem fetch_asks (client : Client) (organization token : String)
    (since : Option Time.Instant) (statePath : String) :
    Asks [] (fetch client organization token since statePath).run :=
  ((login_asks _ _ _).run_adapt _).run_bind (fun _ => sync_asks _ _ _)

private theorem readValues_asks (organization : String) (changes : Changes) :
    Asks [] (readValues organization changes).run := by
  unfold readValues
  split
  · exact asks_run_throw _
  · exact (log_asks _ _ _).run_lift_bind (fun _ => asks_run_pure _)

private theorem pull_asks (endpoints : Endpoints) (organization token : String)
    (since : Option Time.Instant) (statePath : String) :
    Asks [] (pull endpoints organization token since statePath).run := by
  refine ((build_asks endpoints).run_adapt _).run_bind (fun client => ?_)
  refine (fetch_asks _ _ _ _ _).run_lift_bind (fun result => ?_)
  cases result with
  | ok changes => exact (close_asks _).run_lift_bind (fun _ => readValues_asks _ _)
  | error e =>
    refine (log_asks _ _ _).run_lift_bind (fun _ => ?_)
    exact (close_asks _).run_lift_bind (fun _ => asks_run_throw _)

end Vault

/-! ### Reconciles -/

namespace Sync

variable (settings : Settings) (key : ObjectKey) (d : Declaration)

private theorem ofResult_asks {ε α : Type} (failure : ε → Failure) (result : Except ε α) :
    Asks [] (Step.ofResult failure result).run := asks_pure _

private theorem readToken_asks (spec : Spec) : Asks [] (readToken settings key spec).run := by
  refine ((Cluster.Secrets.fetch_asks _ _ _).run_adapt _).run_bind (fun secret => ?_)
  split
  · exact asks_run_throw _
  · exact ofResult_asks _ _

private theorem readTarget_asks : Asks [] (readTarget settings key d).run := by
  refine (Cluster.Secrets.fetch_asks _ _ _).run_lift_bind (fun answer => ?_)
  cases answer with
  | ok secret => exact asks_run_pure _
  | error e =>
    dsimp only
    split
    · exact (ofResult_asks _ _).run_bind (fun _ => (Cluster.Secrets.create_asks _ _).run_adapt _)
    · exact asks_run_throw _

private theorem fillTarget_asks (values : Data) :
    Asks [] (fillTarget settings key d values).run := by
  refine (readTarget_asks settings key d).run_bind (fun target => ?_)
  refine (ofResult_asks _ _).run_bind (fun restored => now_asks.run_lift_bind (fun now => ?_))
  refine asks_run_get_bind (fun w => (ofResult_asks _ _).run_bind (fun filled => ?_))
  exact ((Cluster.Secrets.update_asks _ _).run_adapt _).run_bind (fun _ => asks_run_pure _)

private theorem attempt_asks : Asks [] (attempt settings key d).run := by
  refine (readToken_asks settings key d.spec).run_bind (fun token => ?_)
  refine ((Vault.pull_asks _ _ _ _ _).run_adapt _).run_bind (fun delta => ?_)
  split
  · exact (fillTarget_asks settings key d _).run_bind (fun _ => asks_run_pure _)
  · exact (log_asks _ _ _).run_lift_bind (fun _ => asks_run_pure _)

private theorem writeStatus_asks : Asks [] (writeStatus settings key d) := by
  refine (Cluster.Declarations.updateStatus_asks _ _).bind (fun answer => ?_)
  cases answer with
  | ok _ => exact asks_pure _
  | error e => exact log_asks _ _ _

private theorem recordFailure_asks (failure : Failure) :
    Asks [] (recordFailure settings key d failure) := by
  refine (log_asks _ _ _).bind (fun _ => now_asks.bind (fun now => ?_))
  exact (writeStatus_asks settings key _).bind (fun _ => asks_pure _)

private theorem recordProgress_asks (progress : Progress) :
    Asks [] (recordProgress settings key d progress) := by
  refine now_asks.bind (fun now => (log_asks _ _ _).bind (fun _ => ?_))
  exact (writeStatus_asks settings key _).bind (fun _ => asks_pure _)

private theorem attemptAndRecord_asks : Asks [] (attemptAndRecord settings key d).run := by
  refine (log_asks _ _ _).run_lift_bind (fun _ => ?_)
  refine (attempt_asks settings key d).run_lift_bind (fun answer => ?_)
  split
  · exact (recordFailure_asks settings key d _).run_lift
  · exact asks_run_throw _
  · exact (recordProgress_asks settings key d _).run_lift

private theorem reportUnread_asks (e : ClusterError) : Asks [] (reportUnread settings key e) := by
  unfold reportUnread
  split <;> exact (log_asks _ _ _).bind (fun _ => asks_pure _)

/-- A reconcile asks for its declaration, once, and neither lists nor watches. -/
theorem reconcile_asks :
    Asks [.getDeclaration key settings.access.timeout] (reconcile settings key).run := by
  refine (Cluster.Declarations.fetch_asks _ _).run_lift_bind (fun answer => ?_)
  cases answer with
  | error e => exact (reportUnread_asks settings key e).run_lift
  | ok d =>
    refine now_asks.run_lift_bind (fun now => ?_)
    split
    · exact asks_run_throw _
    · exact (log_asks _ _ _).run_lift_bind (fun _ => asks_run_pure _)
    · exact attemptAndRecord_asks settings key d

end Sync
end SecretSync

import SecretSync.Proofs.Sync.Run
import SecretSync.Proofs.World.Redaction

/-!
# Secret material stays in the target

The values that the vault tells and the access token steer nothing: two runs of reconciles in worlds
that differ at most in them end with the same results, the same log and the same calls, up to the
values themselves.
-/

namespace SecretSync

open Act World

namespace Act

private theorem yieldToOthers_hides : Hides (· = ·) yieldToOthers yieldToOthers :=
  paired_modify (SameButValues.step redacted_interlude redacted_interlude)

private theorem note_hides {c c' : Call} (h : c.redacted = c'.redacted) :
    Hides (· = ·) (note c) (note c') := by
  refine paired_modify (SameButValues.step (redacted_noted c) (fun w => ?_))
  rw [redacted_noted, h]

private theorem log_hides (level : LogLevel) (event : String) (fields : List (String × Json)) :
    Hides (· = ·) (log level event fields) (log level event fields) :=
  paired_modify (SameButValues.step (k := World.logged ⟨level, event, fields⟩)
    (fun _ => rfl) (fun _ => rfl))

private theorem advance_hides (time : Time.Duration) :
    Hides (· = ·) (modify (World.advance time)) (modify (World.advance time)) :=
  paired_modify (SameButValues.step (k := World.advance time) (fun _ => rfl) (fun _ => rfl))

private theorem now_hides : Hides (· = ·) now now := by
  refine yieldToOthers_hides.bind (fun _ _ _ => ?_)
  refine (paired_modify (SameButValues.step redacted_clockRead redacted_clockRead)).bind
    (fun _ _ _ => ?_)
  refine paired_get_bind (fun w v hsame => paired_pure ?_)
  exact hsame.same World.clock (fun _ => rfl)

end Act

/-! ### Requests -/

namespace Cluster

private theorem takeFault_hides (api : Api) : Hides (· = ·) (takeFault api) (takeFault api) := by
  refine coupled_get_bind (fun w v hsame => ?_)
  have hfaults : w.faults = v.faults := hsame.same World.faults (fun _ => rfl)
  rw [hfaults]
  split
  · next fault rest _ =>
    refine coupled_set_bind (coupled_pure (fun _ _ hp => ⟨rfl, hp⟩)) ?_
    exact (congrArg (fun u : World => { u with faults := v.faults.insert api rest })
      (show w.redacted = v.redacted from hsame) :)
  · refine coupled_pure ?_
    rintro _ _ ⟨rfl, rfl⟩
    exact ⟨rfl, hsame⟩

private theorem send_hides (api : Api) {c c' : Call} (h : c.redacted = c'.redacted) :
    HidesRun (· = ·) (send api c) (send api c') := by
  refine yieldToOthers_hides.lift_bind (fun _ _ _ => ?_)
  refine (note_hides h).lift_bind (fun _ _ _ => ?_)
  refine (takeFault_hides api).lift_bind ?_
  rintro fault _ rfl
  cases fault with
  | none => exact pairedRun_pure rfl
  | some fault => exact pairedRun_throw fault

private theorem nextVersion_hides : Hides (· = ·) nextVersion nextVersion := by
  refine (paired_modify (SameButValues.step
    (k := fun w => { w with version := w.version + 1 }) (fun _ => rfl) (fun _ => rfl))).bind
    (fun _ _ _ => ?_)
  · refine paired_get_bind (fun w v hsame => paired_pure ?_)
    exact congrArg toString (hsame.same World.version (fun _ => rfl))

private theorem getDeclaration_hides (key : ObjectKey) (timeout : Int) :
    HidesRun (· = ·) (getDeclaration key timeout) (getDeclaration key timeout) := by
  refine (send_hides _ rfl).bind (fun _ _ _ => ?_)
  refine pairedRun_get_bind (fun w v hsame => ?_)
  have hdeclarations : w.declarations = v.declarations :=
    hsame.same World.declarations (fun _ => rfl)
  rw [hdeclarations]
  split
  · exact pairedRun_pure rfl
  · exact pairedRun_throw _

private theorem patchStatus_hides (key : ObjectKey) (body : Json) (timeout : Int) :
    HidesRun (· = ·) (patchStatus key body timeout) (patchStatus key body timeout) := by
  refine (send_hides _ rfl).bind (fun _ _ _ => ?_)
  refine pairedRun_get_bind (fun w v hsame => ?_)
  have hdeclarations : w.declarations = v.declarations :=
    hsame.same World.declarations (fun _ => rfl)
  rw [hdeclarations]
  split
  · exact pairedRun_throw _
  · next object _ =>
    refine nextVersion_hides.lift_bind ?_
    rintro version _ rfl
    refine (paired_modify (SameButValues.step (k := fun w =>
      { w with declarations := w.declarations.insert key (patched object body version) })
      (fun _ => rfl) (fun _ => rfl))).lift_bind (fun _ _ _ => pairedRun_pure rfl)

private theorem readSecret_hides (key : ObjectKey) (timeout : Int) :
    HidesRun (fun o o' => o.redacted = o'.redacted) (readSecret key timeout)
      (readSecret key timeout) := by
  refine (send_hides _ rfl).bind (fun _ _ _ => ?_)
  refine pairedRun_get_bind (fun w v hsame => ?_)
  have hsecret := hsame.get?_secrets key
  cases hw : w.secrets.get? key with
  | none =>
    cases hv : v.secrets.get? key with
    | none => exact pairedRun_throw _
    | some object => rw [hw, hv] at hsecret; cases hsecret
  | some object =>
    cases hv : v.secrets.get? key with
    | none => rw [hw, hv] at hsecret; cases hsecret
    | some object' =>
      rw [hw, hv] at hsecret
      exact pairedRun_pure (Option.some.inj hsecret)

/-- A secret is written alike. -/
theorem write_hides (key : ObjectKey) {object object' : SecretObject}
    (h : object.redacted = object'.redacted) :
    Hides (· = ·) (modify (fun w : World => { w with secrets := w.secrets.insert key object }))
      (modify (fun w : World => { w with secrets := w.secrets.insert key object' })) := by
  refine paired_modify (fun w v hsame => ?_)
  rw [SameButValues, redacted_withSecret, redacted_withSecret, h, hsame]

private theorem createSecret_hides (ns : String) {body body' : SecretObject} (timeout : Int)
    (h : body.redacted = body'.redacted) :
    HidesRun (fun o o' => o.redacted = o'.redacted) (createSecret ns body timeout)
      (createSecret ns body' timeout) := by
  have hfields : body.fields = body'.fields := (congrArg SecretObject.fields h :)
  have hcall : (Call.createSecret ns body timeout).redacted =
      (Call.createSecret ns body' timeout).redacted :=
    (congrArg (Call.createSecret ns · timeout) h :)
  refine (send_hides _ hcall).bind (fun _ _ _ => ?_)
  refine pairedRun_get_bind (fun w v hsame => ?_)
  rw [hfields, hsame.contains_secrets]
  split
  · exact pairedRun_throw _
  · refine nextVersion_hides.lift_bind ?_
    rintro version _ rfl
    have hobject : (body.stored (some ns) (some ("uid-" ++ version)) version).redacted =
        (body'.stored (some ns) (some ("uid-" ++ version)) version).redacted :=
      (congrArg (SecretObject.stored · (some ns) (some ("uid-" ++ version)) version) h :)
    exact (write_hides _ hobject).lift_bind (fun _ _ _ => pairedRun_pure hobject)

private theorem replaceSecret_hides (key : ObjectKey) {body body' : SecretObject} (timeout : Int)
    (h : body.redacted = body'.redacted) :
    HidesRun (fun o o' => o.redacted = o'.redacted) (replaceSecret key body timeout)
      (replaceSecret key body' timeout) := by
  have hversion : body.resourceVersion = body'.resourceVersion :=
    (congrArg SecretObject.resourceVersion h :)
  have hcall : (Call.replaceSecret key body timeout).redacted =
      (Call.replaceSecret key body' timeout).redacted :=
    (congrArg (Call.replaceSecret key · timeout) h :)
  refine (send_hides _ hcall).bind (fun _ _ _ => ?_)
  refine pairedRun_get_bind (fun w v hsame => ?_)
  have hsecret := hsame.get?_secrets key
  cases hw : w.secrets.get? key with
  | none =>
    cases hv : v.secrets.get? key with
    | none => exact pairedRun_throw _
    | some object => rw [hw, hv] at hsecret; cases hsecret
  | some old =>
    cases hv : v.secrets.get? key with
    | none => rw [hw, hv] at hsecret; cases hsecret
    | some old' =>
      rw [hw, hv] at hsecret
      have hold := Option.some.inj hsecret
      have holdVersion : old.resourceVersion = old'.resourceVersion :=
        (congrArg SecretObject.resourceVersion hold :)
      have huid : old.fields.uid = old'.fields.uid := (congrArg (·.fields.uid) hold :)
      dsimp only
      rw [hversion, holdVersion, huid]
      split
      · exact pairedRun_throw _
      · refine nextVersion_hides.lift_bind ?_
        rintro version _ rfl
        have hobject : (body.stored (some key.ns) old'.fields.uid version).redacted =
            (body'.stored (some key.ns) old'.fields.uid version).redacted :=
          (congrArg (SecretObject.stored · (some key.ns) old'.fields.uid version) h :)
        exact (write_hides _ hobject).lift_bind (fun _ _ _ => pairedRun_pure hobject)

namespace Secrets

variable {access : Access}

/-- What is read from answers that differ at most in secret material does too. -/
theorem read_hides (subject : Subject) {o o' : SecretObject}
    (h : o.redacted = o'.redacted) :
    HidesRun (fun s t => s.redacted = t.redacted) (ExceptT.mk (pure (read subject (.ok o))))
      (ExceptT.mk (pure (read subject (.ok o')))) := by
  have hread : (Secret.ofObject o).map Secret.redacted =
      (Secret.ofObject o').map Secret.redacted := by
    rw [← Secret.ofObject_redacted o, h, Secret.ofObject_redacted]
  exact pairedRun_mapError _ (map_eq_map_cases hread)

private theorem fetch_hides (ns name : String) :
    HidesRun (fun s t => s.redacted = t.redacted) (fetch access ns name)
      (fetch access ns name) := by
  refine (log_hides _ _ _).lift_bind (fun _ _ _ => ?_)
  exact (readSecret_hides _ _).lift_run_bind (fun _ _ h => read_hides _ h)
    (fun _ => pairedRun_throw _)

private theorem logWrite_hides (event ns name : String) (o o' : SecretObject) :
    Hides (· = ·) (logWrite event ns name (.ok o)) (logWrite event ns name (.ok o')) :=
  log_hides _ _ _

/-- What a request to write a secret comes to is noted and read. -/
theorem finish_hides (event ns name : String) {request request' : Request SecretObject}
    (h : HidesRun (fun o o' => o.redacted = o'.redacted) request request') :
    HidesRun (fun s t => s.redacted = t.redacted)
      (do
        let answer ← request.run
        logWrite event ns name answer
        ExceptT.mk (pure (read (subject ns name) answer)) : ExceptT ClusterError Act Secret)
      (do
        let answer ← request'.run
        logWrite event ns name answer
        ExceptT.mk (pure (read (subject ns name) answer)) : ExceptT ClusterError Act Secret) := by
  refine h.lift_run_bind (fun o o' ho => ?_) (fun e => ?_)
  · exact (logWrite_hides event ns name o o').lift_bind (fun _ _ _ => read_hides _ ho)
  · refine Paired.lift_bind (V := (· = ·)) (paired_pure rfl) (fun _ _ _ => pairedRun_throw _)

private theorem create_hides {s t : Secret} (h : s.redacted = t.redacted) :
    HidesRun (fun s t => s.redacted = t.redacted) (create access s) (create access t) := by
  have hname : s.name = t.name := (congrArg Secret.name h :)
  have hns : s.ns = t.ns := (congrArg Secret.ns h :)
  have hbody : s.toObject.redacted = t.toObject.redacted := by
    rw [← Secret.toObject_redacted s, h, Secret.toObject_redacted]
  unfold create
  rw [hname, hns]
  refine (log_hides _ _ _).lift_bind (fun _ _ _ => ?_)
  exact finish_hides _ _ _ (createSecret_hides _ _ hbody)

private theorem update_hides {s t : Secret} (h : s.redacted = t.redacted) :
    HidesRun (fun s t => s.redacted = t.redacted) (update access s) (update access t) := by
  have hname : s.name = t.name := (congrArg Secret.name h :)
  have hns : s.ns = t.ns := (congrArg Secret.ns h :)
  have hbody : s.toObject.redacted = t.toObject.redacted := by
    rw [← Secret.toObject_redacted s, h, Secret.toObject_redacted]
  unfold update
  rw [hname, hns]
  refine (log_hides _ _ _).lift_bind (fun _ _ _ => ?_)
  exact finish_hides _ _ _ (replaceSecret_hides _ _ hbody)

end Secrets

namespace Declarations

variable {access : Access}

private theorem read_hides (subject : Subject) (answer : Except Fault Json) :
    HidesRun (· = ·) (ExceptT.mk (pure (read subject answer)))
      (ExceptT.mk (pure (read subject answer))) := by
  cases read subject answer with
  | ok d => exact pairedRun_pure rfl
  | error e => exact pairedRun_throw e

private theorem fetch_hides (key : ObjectKey) :
    HidesRun (· = ·) (fetch access key) (fetch access key) := by
  refine (log_hides _ _ _).lift_bind (fun _ _ _ => ?_)
  exact (getDeclaration_hides _ _).lift_run_bind (fun o _ h => h ▸ read_hides _ (.ok o))
    (fun e => read_hides _ (.error e))

private theorem logPatch_hides (d : Declaration) (answer : Except Fault Json) :
    Hides (· = ·) (logPatch d answer) (logPatch d answer) := by
  cases answer with
  | ok object => exact log_hides _ _ _
  | error fault => exact paired_pure rfl

private theorem updateStatus_hides (d : Declaration) :
    HidesRun (· = ·) (updateStatus access d) (updateStatus access d) := by
  refine (log_hides _ _ _).lift_bind (fun _ _ _ => ?_)
  refine (patchStatus_hides _ _ _).lift_run_bind ?_ (fun e => ?_)
  · rintro o _ rfl
    exact (logPatch_hides d _).lift_bind (fun _ _ _ => read_hides _ _)
  · exact (logPatch_hides d _).lift_bind (fun _ _ _ => read_hides _ _)

end Declarations
end Cluster

/-! ### Pulls -/

namespace Vault

/-- Clients whose sessions differ at most in the values that they tell. -/
def Client.Alike (c c' : Client) : Prop :=
  c.session.map Session.redacted = c'.session.map Session.redacted

private theorem nextSession_hides :
    Hides (fun s t => s.redacted = t.redacted) nextSession nextSession := by
  refine coupled_get_bind (fun w v hsame => ?_)
  have hsessions : w.sessions.map Session.redacted = v.sessions.map Session.redacted :=
    (congrArg World.sessions hsame :)
  cases hw : w.sessions with
  | nil =>
    cases hv : v.sessions with
    | nil =>
      refine coupled_pure ?_
      rintro _ _ ⟨rfl, rfl⟩
      exact ⟨rfl, hsame⟩
    | cons session rest => rw [hw, hv] at hsessions; cases hsessions
  | cons session rest =>
    cases hv : v.sessions with
    | nil => rw [hw, hv] at hsessions; cases hsessions
    | cons session' rest' =>
      rw [hw, hv] at hsessions
      obtain ⟨hfirst, hrest⟩ := List.cons.inj hsessions
      refine coupled_set_bind (coupled_pure (fun _ _ hp => ⟨hfirst, hp⟩)) ?_
      change { w.redacted with sessions := rest.map Session.redacted } =
        { v.redacted with sessions := rest'.map Session.redacted }
      rw [hrest]
      exact congrArg (fun u : World => { u with sessions := rest'.map Session.redacted }) hsame

private theorem build_hides (endpoints : Endpoints) :
    HidesRun Client.Alike (Client.build endpoints) (Client.build endpoints) := by
  refine yieldToOthers_hides.lift_bind (fun _ _ _ => ?_)
  refine (note_hides rfl).lift_bind (fun _ _ _ => ?_)
  refine nextSession_hides.lift_bind (fun session session' h => ?_)
  have hconstruct : session.constructFailure = session'.constructFailure :=
    (congrArg Session.constructFailure h :)
  rw [hconstruct]
  split
  · exact pairedRun_throw _
  · refine (paired_modify (SameButValues.step
      (k := fun w => { w with openClients := w.openClients + 1 })
      (fun _ => rfl) (fun _ => rfl))).lift_bind (fun _ _ _ => ?_)
    exact (log_hides _ _ _).lift_bind (fun _ _ _ => pairedRun_pure (congrArg some h))

/-- Alike clients are both closed, or have alike sessions. -/
theorem Client.Alike.open? {c c' : Client} (h : c.Alike c') :
    (∃ e, c.open? = .error e ∧ c'.open? = .error e) ∨
      ∃ s s', c.open? = .ok s ∧ c'.open? = .ok s' ∧ s.redacted = s'.redacted := by
  obtain ⟨session⟩ := c
  obtain ⟨session'⟩ := c'
  cases session with
  | none =>
    cases session' with
    | none => exact Or.inl ⟨_, rfl, rfl⟩
    | some s' => cases h
  | some s =>
    cases session' with
    | none => cases h
    | some s' => exact Or.inr ⟨s, s', rfl, rfl, Option.some.inj h⟩

private theorem login_hides {c c' : Client} (h : c.Alike c') (token token' statePath : String) :
    HidesRun (· = ·) (c.login token statePath) (c'.login token' statePath) := by
  unfold Client.login
  obtain ⟨e, hc, hc'⟩ | ⟨s, s', hc, hc', hs⟩ := h.open?
  · rw [hc, hc']
    exact pairedRun_throw e
  · have hlogin : s.login = s'.login := (congrArg Session.login hs :)
    rw [hc, hc']
    dsimp only
    rw [hlogin]
    have hcall : (Call.login token statePath).redacted = (Call.login token' statePath).redacted :=
      rfl
    refine yieldToOthers_hides.lift_bind (fun _ _ _ => ?_)
    refine (note_hides hcall).lift_bind (fun _ _ _ => ?_)
    refine (advance_hides _).lift_bind (fun _ _ _ => ?_)
    split
    · exact pairedRun_throw _
    · split
      · exact pairedRun_throw _
      · exact pairedRun_pure rfl

/-- Answers that look alike are both empty, or both are not and tell changes that look alike. -/
theorem answer_cases {a a' : Option Json}
    (h : a.map redactedAnswer = a'.map redactedAnswer) :
    (a.getD .null = .null ∧ a'.getD .null = .null) ∨
      (a.getD .null ≠ .null ∧ a'.getD .null ≠ .null) ∧
        (Changes.ofAnswer (a.getD .null)).map Changes.redacted =
          (Changes.ofAnswer (a'.getD .null)).map Changes.redacted := by
  have hnull : ∀ value, redactedAnswer value = .null ↔ value = .null := by
    intro value
    cases value <;> simp [redactedAnswer, Json.mapMember]
  have hgetD : ∀ answer : Option Json, redactedAnswer (answer.getD .null) =
      (answer.map redactedAnswer).getD .null := by
    intro answer
    cases answer <;> rfl
  have hsame : redactedAnswer (a.getD .null) = redactedAnswer (a'.getD .null) := by
    rw [hgetD, h, hgetD]
  by_cases hempty : a.getD .null = .null
  · exact Or.inl ⟨hempty, (hnull _).mp (hsame ▸ (hnull _).mpr hempty)⟩
  · refine Or.inr ⟨⟨hempty, fun hempty' => ?_⟩, ?_⟩
    · exact hempty ((hnull _).mp (hsame ▸ (hnull _).mpr hempty'))
    · rw [← Changes.ofAnswer_redactedAnswer, hsame, Changes.ofAnswer_redactedAnswer]

/-- Read an answer, with the error that an empty one leads to. -/
def readAnswer (empty : FetchError) (answer : Json) : ExceptT FetchError Act Changes :=
  match answer with
  | .null => throw empty
  | data =>
    match Changes.ofAnswer data with
    | .error e => throw (.answer e)
    | .ok changes => return changes

private theorem readAnswer_hides (empty : FetchError) {a a' : Option Json}
    (h : a.map redactedAnswer = a'.map redactedAnswer) :
    HidesRun (fun r r' => r.redacted = r'.redacted) (readAnswer empty (a.getD .null))
      (readAnswer empty (a'.getD .null)) := by
  have hfull : ∀ {value : Json}, value ≠ .null → readAnswer empty value =
      match Changes.ofAnswer value with
      | .error e => throw (.answer e)
      | .ok changes => return changes := by
    intro value hvalue
    cases value with
    | null => exact absurd rfl hvalue
    | _ => rfl
  obtain ⟨ha, ha'⟩ | ⟨⟨ha, ha'⟩, hread⟩ := answer_cases h
  · rw [ha, ha']
    exact pairedRun_throw empty
  · rw [hfull ha, hfull ha']
    obtain ⟨e, hr, hr'⟩ | ⟨r, r', hr, hr', hrr⟩ := map_eq_map_cases hread
    · rw [hr, hr']
      exact pairedRun_throw _
    · rw [hr, hr']
      exact pairedRun_pure hrr

private theorem sync_hides {c c' : Client} (h : c.Alike c') (organization : String)
    (since : Option Time.Instant) :
    HidesRun (fun r r' => r.redacted = r'.redacted) (c.sync organization since)
      (c'.sync organization since) := by
  unfold Client.sync
  obtain ⟨e, hc, hc'⟩ | ⟨s, s', hc, hc', hs⟩ := h.open?
  · rw [hc, hc']
    exact pairedRun_throw _
  · have hdelay : s.sync.delay = s'.sync.delay := (congrArg (·.sync.delay) hs :)
    have hfailure : s.sync.failure = s'.sync.failure := (congrArg (·.sync.failure) hs :)
    have hmessage : s.sync.errorMessage = s'.sync.errorMessage :=
      (congrArg (·.sync.errorMessage) hs :)
    have hanswer : s.sync.data.map redactedAnswer = s'.sync.data.map redactedAnswer :=
      (congrArg (·.sync.data) hs :)
    rw [hc, hc']
    dsimp only
    rw [hdelay, hfailure, hmessage]
    refine yieldToOthers_hides.lift_bind (fun _ _ _ => ?_)
    refine (note_hides rfl).lift_bind (fun _ _ _ => ?_)
    refine (advance_hides _).lift_bind (fun _ _ _ => ?_)
    split
    · exact pairedRun_throw _
    · exact readAnswer_hides _ hanswer

private theorem close_hides {c c' : Client} (h : c.Alike c') :
    Hides Client.Alike c.close c'.close := by
  have hopen : c.session.isSome = c'.session.isSome := by
    rw [← Option.isSome_map, h, Option.isSome_map]
  unfold Client.close
  rw [hopen]
  split
  · exact (paired_modify (SameButValues.step
      (k := fun w => { w with openClients := w.openClients - 1 })
      (fun _ => rfl) (fun _ => rfl))).bind (fun _ _ _ => paired_pure rfl)
  · exact paired_pure rfl

/-- How many values there are is no secret, nor is whether they can be encoded. -/
theorem readValues_hides (organization : String) {changes changes' : Changes}
    (h : changes.redacted = changes'.redacted) :
    HidesRun (fun d d' => d.redacted = d'.redacted) (readValues organization changes)
      (readValues organization changes') := by
  have hvalues : (Delta.ofChanges changes).map Delta.redacted =
      (Delta.ofChanges changes').map Delta.redacted := by
    rw [← Delta.redacted_ofChanges, h, Delta.redacted_ofChanges]
  unfold readValues
  obtain ⟨e, hr, hr'⟩ | ⟨delta, delta', hr, hr', hdelta⟩ := map_eq_map_cases hvalues
  · rw [hr, hr']
    exact pairedRun_throw _
  · have hany : delta.hasChanges = delta'.hasChanges := (congrArg Delta.hasChanges hdelta :)
    have hsize : delta.values.size = delta'.values.size := by
      rw [← Dict.size_mapValues redactedValue delta.values,
        ← Dict.size_mapValues redactedValue delta'.values]
      exact congrArg (fun d : Delta => d.values.size) hdelta
    rw [hr, hr']
    dsimp only
    rw [hany, hsize]
    exact (log_hides _ _ _).lift_bind (fun _ _ _ => pairedRun_pure hdelta)

/-- A pull tells nothing but the values, and nothing about the token. -/
theorem pull_hides (endpoints : Endpoints) (organization token token' : String)
    (since : Option Time.Instant) (statePath : String) :
    HidesRun (fun d d' => d.redacted = d'.redacted)
      (pull endpoints organization token since statePath)
      (pull endpoints organization token' since statePath) := by
  refine ((build_hides endpoints).adapt _).bind (fun c c' h => ?_)
  have hfetch : HidesRun (fun r r' => r.redacted = r'.redacted)
      (fetch c organization token since statePath)
      (fetch c' organization token' since statePath) :=
    ((login_hides h _ _ _).adapt _).bind (fun _ _ _ => sync_hides h _ _)
  refine hfetch.lift_run_bind (fun r r' hr => ?_) (fun e => ?_)
  · exact (close_hides h).lift_bind (fun _ _ _ => readValues_hides organization hr)
  · refine (log_hides _ _ _).lift_bind (fun _ _ _ => ?_)
    exact (close_hides h).lift_bind (fun _ _ _ => pairedRun_throw _)

end Vault

/-! ### Attempts -/

namespace Sync

variable {settings : Settings} {key : ObjectKey} {d : Declaration}

/-- The values of two tokens may differ. -/
theorem readToken_hides (spec : Spec) :
    HidesRun (fun _ _ => () = ()) (readToken settings key spec) (readToken settings key spec) := by
  refine ((Cluster.Secrets.fetch_hides _ _).adapt _).bind (fun s t hst => ?_)
  have hvalue : (s.value? spec.authToken.secretKey).map redactedValue =
      (t.value? spec.authToken.secretKey).map redactedValue := by
    rw [← Secret.value?_redacted, hst, Secret.value?_redacted]
  cases hs : s.value? spec.authToken.secretKey with
  | none =>
    cases ht : t.value? spec.authToken.secretKey with
    | none => exact pairedRun_throw _
    | some b => rw [hs, ht] at hvalue; cases hvalue
  | some a =>
    cases ht : t.value? spec.authToken.secretKey with
    | none => rw [hs, ht] at hvalue; cases hvalue
    | some b =>
      rw [hs, ht] at hvalue
      exact pairedRun_mapError _ (map_eq_map_cases (decode_redactedValue (Option.some.inj hvalue)))

private theorem createTarget_hides :
    HidesRun (fun s t => s.redacted = t.redacted) (createTarget settings d)
      (createTarget settings d) := by
  refine (pairedRun_mapError (V := (· = ·)) _ (map_eq_map_cases (f := id) (g := id) rfl)).bind
    (fun s t hst => ?_)
  exact (Cluster.Secrets.create_hides (congrArg Secret.redacted hst)).adapt _

private theorem readTarget_hides :
    HidesRun (fun s t => s.redacted = t.redacted) (readTarget settings key d)
      (readTarget settings key d) := by
  refine (Cluster.Secrets.fetch_hides _ _).lift_run_bind (fun _ _ hst => pairedRun_pure hst)
    (fun e => ?_)
  dsimp only
  split
  · exact createTarget_hides
  · exact pairedRun_throw _

/-- A target is refilled alike, whatever the values. -/
theorem refill_redacted (mapFault : Option String) (values : Data) (now : Time.Instant)
    (s : Secret) :
    refill mapFault key d (values.mapValues redactedValue) now s.redacted =
      (refill mapFault key d values now s).map Secret.redacted := by
  unfold refill
  rw [Secret.addValues_redacted, Secret.applyMap_redacted, Secret.annotate_redacted]
  cases ((s.addValues values).applyMap d.spec.map).annotate mapFault d.spec.map now <;> rfl

private theorem restored_redacted (s : Secret) :
    restored s.redacted = (restored s).map Secret.redacted := by
  have hannotations : s.redacted.annotations = s.annotations := rfl
  unfold restored
  rw [hannotations]
  split
  · rfl
  · exact Secret.restoreIds_redacted s

private theorem fillTarget_hides {values values' : Data}
    (h : values.mapValues redactedValue = values'.mapValues redactedValue) :
    HidesRun (· = ·) (fillTarget settings key d values) (fillTarget settings key d values') := by
  refine readTarget_hides.bind (fun s t hst => ?_)
  have hrestored : (restored s).map Secret.redacted = (restored t).map Secret.redacted := by
    rw [← restored_redacted, hst, restored_redacted]
  refine (pairedRun_mapError _ (map_eq_map_cases hrestored)).bind (fun s' t' hst' => ?_)
  refine now_hides.lift_bind ?_
  rintro now _ rfl
  refine pairedRun_get_bind (fun w v hsame => ?_)
  have hfault : w.writeFault d.spec.map = v.writeFault d.spec.map :=
    hsame.same (World.writeFault · d.spec.map) (fun _ => rfl)
  have hfilled : (refill (w.writeFault d.spec.map) key d values now s').map Secret.redacted =
      (refill (v.writeFault d.spec.map) key d values' now t').map Secret.redacted := by
    rw [← refill_redacted, h, hst', hfault, refill_redacted]
  refine (pairedRun_mapError _ (map_eq_map_cases hfilled)).bind (fun _ _ hfill => ?_)
  exact ((Cluster.Secrets.update_hides hfill).adapt _).bind (fun _ _ _ => pairedRun_pure rfl)

/-- An attempt tells nothing but the values of its target. -/
theorem attempt_hides :
    HidesRun (· = ·) (attempt settings key d) (attempt settings key d) := by
  refine (readToken_hides _).bind (fun token token' _ => ?_)
  refine ((Vault.pull_hides _ _ _ _ _ _).adapt _).bind (fun delta delta' hdelta => ?_)
  have hchanges : delta.hasChanges = delta'.hasChanges :=
    (congrArg Vault.Delta.hasChanges hdelta :)
  have hvalues : delta.values.mapValues redactedValue = delta'.values.mapValues redactedValue :=
    (congrArg Vault.Delta.values hdelta :)
  rw [hchanges]
  split
  · exact (fillTarget_hides hvalues).bind (fun _ _ _ => pairedRun_pure rfl)
  · exact (log_hides _ _ _).lift_bind (fun _ _ _ => pairedRun_pure rfl)

/-! ### Reconciles -/

private theorem writeStatus_hides :
    Hides (· = ·) (writeStatus settings key d) (writeStatus settings key d) :=
  (Cluster.Declarations.updateStatus_hides d).run_bind (fun _ _ _ => paired_pure rfl)
    (fun _ => log_hides _ _ _)

private theorem recordFailure_hides (failure : Failure) :
    Hides (· = ·) (recordFailure settings key d failure)
      (recordFailure settings key d failure) := by
  refine (log_hides _ _ _).bind (fun _ _ _ => ?_)
  refine now_hides.bind ?_
  rintro now _ rfl
  exact writeStatus_hides.bind (fun _ _ _ => paired_pure rfl)

private theorem recordProgress_hides (progress : Progress) :
    Hides (· = ·) (recordProgress settings key d progress)
      (recordProgress settings key d progress) := by
  refine now_hides.bind ?_
  rintro now _ rfl
  refine (log_hides _ _ _).bind (fun _ _ _ => ?_)
  exact writeStatus_hides.bind (fun _ _ _ => paired_pure rfl)

private theorem attemptAndRecord_hides :
    HidesRun (· = ·) (attemptAndRecord settings key d) (attemptAndRecord settings key d) := by
  refine (log_hides _ _ _).lift_bind (fun _ _ _ => ?_)
  refine attempt_hides.lift_run_bind ?_ (fun e => ?_)
  · rintro progress _ rfl
    exact (recordProgress_hides progress).lift
  · cases e with
    | failed failure => exact (recordFailure_hides failure).lift
    | value e => exact pairedRun_throw _

private theorem reportUnread_hides (e : ClusterError) :
    Hides (· = ·) (reportUnread settings key e) (reportUnread settings key e) := by
  unfold reportUnread
  split <;> exact (log_hides _ _ _).bind (fun _ _ _ => paired_pure rfl)

/-- A reconcile tells nothing but the values of its target. -/
theorem reconcile_hides (settings : Settings) (key : ObjectKey) :
    HidesRun (· = ·) (reconcile settings key) (reconcile settings key) := by
  refine (Cluster.Declarations.fetch_hides key).lift_run_bind ?_
    (fun e => (reportUnread_hides e).lift)
  rintro d _ rfl
  refine now_hides.lift_bind ?_
  rintro now _ rfl
  cases isEcho? d.status.lastSync now settings.guardWindow with
  | none => exact pairedRun_throw _
  | some inside =>
    cases inside with
    | true => exact (log_hides _ _ _).lift_bind (fun _ _ _ => pairedRun_pure rfl)
    | false => exact attemptAndRecord_hides

/-- Make reconciles one after another, whatever each of them comes to. -/
def reconcileEach : List (Settings × ObjectKey) → Act (List (Except Escape Result))
  | [] => return []
  | (settings, key) :: rest => do
    let ending ← (reconcile settings key).run
    let endings ← reconcileEach rest
    return ending :: endings

private theorem reconcileEach_hides (rounds : List (Settings × ObjectKey)) :
    Hides (· = ·) (reconcileEach rounds) (reconcileEach rounds) := by
  induction rounds with
  | nil => exact paired_pure rfl
  | cons round rest ih =>
    obtain ⟨settings, key⟩ := round
    refine (reconcile_hides settings key).run_bind ?_ (fun e => ?_)
    · rintro result _ rfl
      refine ih.bind ?_
      rintro endings _ rfl
      exact paired_pure rfl
    · refine ih.bind ?_
      rintro endings _ rfl
      exact paired_pure rfl

/-- Secret material goes into the data of targets and nowhere else.  Reconciles that are made one
after another in two worlds that differ at most in secret material end alike, write the same log and
leave the same declarations; their calls are the same up to the token of a login and the values in
the bodies of writes, and so are the stored secrets up to their values. -/
theorem secrets_stay_in_target (rounds : List (Settings × ObjectKey)) {w v : World}
    (hsame : w.SameButValues v) :
    let x := StateT.run (reconcileEach rounds) w
    let y := StateT.run (reconcileEach rounds) v
    x.1 = y.1 ∧ x.2.logs = y.2.logs ∧ x.2.declarations = y.2.declarations ∧
      x.2.calls.map Call.redacted = y.2.calls.map Call.redacted ∧
      x.2.secrets.mapValues SecretObject.redacted = y.2.secrets.mapValues SecretObject.redacted ∧
      x.2.SameButValues y.2 := by
  intro x y
  obtain ⟨hendings, hsame'⟩ : x.1 = y.1 ∧ x.2.SameButValues y.2 :=
    reconcileEach_hides rounds hsame (ends_self _ w) (ends_self _ v)
  refine ⟨hendings, ?_, ?_, ?_, ?_, hsame'⟩
  · exact hsame'.same World.logs (fun _ => rfl)
  · exact hsame'.same World.declarations (fun _ => rfl)
  · exact (congrArg World.calls hsame' :)
  · exact (congrArg World.secrets hsame' :)

/-- The sample declaration with an access token and two sessions that tell a value. -/
def Sample.telling (token value : String) : World :=
  { Sample.world [] (Sample.session .zero [("a", value)]) with
    secrets := Dict.ofList [(⟨"default", "auth"⟩,
      { Sample.auth with data := some (Dict.ofList [("token", token)]) })]
    sessions := [Sample.session .zero [("a", value)], Sample.session .zero [("b", value)]] }

/-- Settings without a guard window. -/
def Sample.unguarded : Settings := { Sample.settings with guardWindow := .zero }

private theorem Sample.sameButValues_telling :
    (Sample.telling "dG9rZW4=" "1").SameButValues (Sample.telling "c2VzYW1l" "secret") := by
  have hsecrets : (Sample.telling "dG9rZW4=" "1").secrets.mapValues SecretObject.redacted =
      (Sample.telling "c2VzYW1l" "secret").secrets.mapValues SecretObject.redacted := by
    decide +kernel
  exact congrArg (fun secrets =>
    { (Sample.telling "dG9rZW4=" "1").redacted with secrets := secrets }) hsecrets

/-- Two reconciles of the sample declaration. -/
def Sample.twice : List (Settings × ObjectKey) :=
  [(Sample.unguarded, Sample.key), (Sample.unguarded, Sample.key)]

/-- Both rounds write the target, and the values tell the runs apart. -/
theorem Sample.twice_telling :
    let x := StateT.run (reconcileEach Sample.twice) (Sample.telling "dG9rZW4=" "1")
    let y := StateT.run (reconcileEach Sample.twice) (Sample.telling "c2VzYW1l" "secret")
    x.1.map outcome? = [some .synced, some .synced] ∧ x.2.secrets ≠ y.2.secrets := by
  decide +kernel

/-- The statement at two rounds, of which the second brings a new value. -/
theorem secrets_stay_in_target_of_two_rounds :
    let x := StateT.run (reconcileEach Sample.twice) (Sample.telling "dG9rZW4=" "1")
    let y := StateT.run (reconcileEach Sample.twice) (Sample.telling "c2VzYW1l" "secret")
    (Sample.telling "dG9rZW4=" "1").SameButValues (Sample.telling "c2VzYW1l" "secret") ∧
      x.1.map outcome? = [some .synced, some .synced] ∧ x.2.secrets ≠ y.2.secrets ∧
      x.1 = y.1 ∧ x.2.logs = y.2.logs ∧ x.2.declarations = y.2.declarations ∧
      x.2.calls.map Call.redacted = y.2.calls.map Call.redacted ∧
      x.2.secrets.mapValues SecretObject.redacted = y.2.secrets.mapValues SecretObject.redacted ∧
      x.2.SameButValues y.2 :=
  ⟨Sample.sameButValues_telling, Sample.twice_telling.1, Sample.twice_telling.2,
    secrets_stay_in_target Sample.twice Sample.sameButValues_telling⟩

end Sync
end SecretSync

import SecretSync.Proofs.Config.Draft
import SecretSync.Proofs.Declaration.Reading
import SecretSync.Proofs.World.Ends

/-!
# The settings of a section

A setting is that of its variable, if the variable is set; else that of the file, if it is there;
else its default.  The settings of a section are loaded exactly if each of them can be taken like
this and the file has no others.
-/

namespace SecretSync

namespace Schema.Checked

variable {α β γ : Type}

/-- The value, if there are no issues. -/
def value? : Checked α → Option α
  | ok a => some a
  | bad _ _ => none

/-- A check gives a value exactly if it passes with it. -/
theorem value?_eq_some_iff {c : Checked α} {a : α} : c.value? = some a ↔ c = .ok a := by
  cases c with
  | ok b => simp [value?]
  | bad i is => simp [value?]

/-- Where a check stands in the settings does not matter to its success. -/
theorem under_eq_ok_iff {c : Checked α} {part : Part} {a : α} :
    c.under part = .ok a ↔ c = .ok a := by
  cases c with
  | ok b => rfl
  | bad i is => simp [under]

/-- A further condition keeps the values that meet it. -/
theorem value?_andThen_accept {c : Checked α} {reason? : α → Option String} :
    (c.andThen (Config.accept reason?)).value? = c.value?.filter (fun a => (reason? a).isNone) := by
  cases c with
  | bad i is => rfl
  | ok a =>
    cases hreason : reason? a <;>
      simp [andThen, Config.accept, value?, fault, Option.filter, hreason]

/-- A mapped check passes exactly if the check does. -/
theorem map_seq_eq_ok_iff {f : α → β} {c : Checked α} {b : β} :
    f <$> c = .ok b ↔ ∃ a, c = .ok a ∧ f a = b := map_eq_ok_iff

/-- Two checks side by side pass exactly if both do. -/
theorem seq_op_eq_ok_iff {f : Checked (α → β)} {c : Checked α} {b : β} :
    f <*> c = .ok b ↔ ∃ g a, f = .ok g ∧ c = .ok a ∧ g a = b := seq_eq_ok_iff

end Schema.Checked

namespace Config

open Yaml (Value)
open Schema (Checked)

variable {α : Type} {env : Environment} {value : Value} {entries : List (Value × Value)}
  {overrides : List Override} {a : α}

/-- With all variables readable, the draft is the entries with the overrides put in. -/
theorem drafted_of_reads (hentries : entries? value = some entries)
    (hreads : ∀ o ∈ overrides, o.Reads env) :
    drafted env overrides value = .ok (.named (replaced env overrides entries)) := by
  unfold drafted
  rcases Draft.ofValue_cases value with ⟨entries', hentries', hdraft⟩ | ⟨hnone, -⟩ | ⟨hnone, -⟩
  · rw [hentries] at hentries'
    cases hentries'
    rw [hdraft]
    rcases foldlM_named env overrides entries with ⟨-, hfold⟩ | ⟨⟨o, ho, hbad⟩, -⟩
    · exact hfold
    · exact absurd (hreads o ho) hbad
  · rw [hentries] at hnone
    cases hnone
  · rw [hentries] at hnone
    cases hnone

/-- A draft with names is that of entries, with all variables read. -/
theorem drafted_eq_named_iff {named : List (Value × Value)} :
    drafted env overrides value = .ok (.named named) ↔ ∃ entries, entries? value = some entries ∧
      (∀ o ∈ overrides, o.Reads env) ∧ named = replaced env overrides entries := by
  constructor
  · intro h
    rcases drafted_cases env overrides value with ⟨entries, hentries, hreads, hdraft⟩ |
      ⟨-, -, hdraft⟩ | ⟨e, hdraft, -⟩
    · rw [hdraft] at h
      cases h
      exact ⟨entries, hentries, hreads, rfl⟩
    · rw [hdraft] at h
      cases h
    · rw [hdraft] at h
      cases h
  · rintro ⟨entries, hentries, hreads, rfl⟩
    exact drafted_of_reads hentries hreads

/-- What is made of a draft that has to have names. -/
theorem drafted_bind_eq_ok_iff {β : Type} {k : Draft → Except Error β} {b : β}
    (hnames : ∀ v, k (.nameless v) ≠ .ok b) :
    (drafted env overrides value >>= k) = .ok b ↔ ∃ entries, entries? value = some entries ∧
      (∀ o ∈ overrides, o.Reads env) ∧ k (.named (replaced env overrides entries)) = .ok b := by
  constructor
  · intro h
    rcases Declaration.bind_eq_ok h with ⟨d, hdraft, hk⟩
    cases d with
    | nameless v => exact absurd hk (hnames v)
    | named named =>
      rcases drafted_eq_named_iff.mp hdraft with ⟨entries, hentries, hreads, rfl⟩
      exact ⟨entries, hentries, hreads, hk⟩
  · rintro ⟨entries, hentries, hreads, h⟩
    rw [drafted_of_reads hentries hreads]
    exact h

/-! ### Settings -/

/-- A setting: the variable that replaces it, its default, and the form that its check puts a value
into, if it accepts the value. -/
structure Field (α : Type) where
  source : Override
  default : α
  validated : Value → Option α

namespace Field

variable {f : Field α}

/-- A setting is chosen: it is that of its variable, if the variable is set; else that of the
entries of its section, if they have it; else its default. -/
def Chosen (f : Field α) (env : Environment) (entries : List (Value × Value)) (a : α) : Prop :=
  match env.get? f.source.var with
  | some s => ∃ v, f.source.form.read s = .ok v ∧ f.validated v = some a
  | none =>
    match Value.find? f.source.name entries with
    | some v => f.validated v = some a
    | none => a = f.default

/-- A chosen value comes from a source that can be read. -/
theorem Chosen.reads (h : f.Chosen env entries a) : f.source.Reads env := by
  intro s hset
  rw [Chosen, hset] at h
  rcases h with ⟨v, hread, -⟩
  exact ⟨v, hread⟩

private theorem chosen_iff (hreads : f.source.Reads env) :
    f.Chosen env entries a ↔
      match f.source.sought env entries with
      | some v => f.validated v = some a
      | none => a = f.default := by
  unfold Chosen Override.sought
  cases hset : env.get? f.source.var with
  | none => rfl
  | some s =>
    rcases hreads s hset with ⟨v, hread⟩
    simp [hread, Except.toOption]

/-- What holds of the default and of all that the check accepts holds of what is chosen. -/
theorem Chosen.satisfies {p : α → Prop} (hdefault : p f.default)
    (hvalidated : ∀ v a, f.validated v = some a → p a) (h : f.Chosen env entries a) : p a := by
  rw [chosen_iff h.reads] at h
  split at h
  · exact hvalidated _ _ h
  · rw [h]
    exact hdefault

/-- Nothing but its variable and its own entry decides what is chosen for a setting. -/
theorem Chosen.eq_of_agree {env' : Environment} {entries' : List (Value × Value)} {b : α}
    (h : f.Chosen env entries a) (h' : f.Chosen env' entries' b)
    (hvar : env.get? f.source.var = env'.get? f.source.var)
    (hentry : Value.find? f.source.name entries = Value.find? f.source.name entries') : a = b := by
  unfold Chosen at h h'
  rw [hvar, hentry] at h
  split at h
  · next s hset =>
    rw [hset] at h'
    rcases h with ⟨v, hread, hvalidated⟩
    rcases h' with ⟨v', hread', hvalidated'⟩
    rw [hread] at hread'
    cases hread'
    exact Option.some.inj (hvalidated.symm.trans hvalidated')
  · next hset =>
    rw [hset] at h'
    dsimp only at h'
    split at h
    · next v hfind =>
      rw [hfind] at h'
      exact Option.some.inj (h.symm.trans h')
    · next hfind =>
      rw [hfind] at h'
      exact h.trans h'.symm

/-- Among settings with names of their own, a setting is chosen exactly if it is found behind the
variables. -/
theorem chosen_iff_setting (f : Field α) (env : Environment) (entries : List (Value × Value))
    (a : α) {check : Value → Checked α} (hnodup : (overrides.map Override.name).Nodup)
    (hmem : f.source ∈ overrides) (hcheck : ∀ v, f.validated v = (check v).value?) :
    f.Chosen env entries a ↔ f.source.Reads env ∧
      setting (replaced env overrides entries) f.source.name f.default check = .ok a := by
  have hfound (hreads : f.source.Reads env) : f.Chosen env entries a ↔
      setting (replaced env overrides entries) f.source.name f.default check = .ok a := by
    rw [chosen_iff hreads, setting, find?_replaced hnodup hmem hreads]
    cases f.source.sought env entries with
    | none => simp [eq_comm]
    | some v =>
      dsimp only
      rw [Checked.under_eq_ok_iff, hcheck, Checked.value?_eq_some_iff]
  constructor
  · intro h
    exact ⟨h.reads, (hfound h.reads).mp h⟩
  · rintro ⟨hreads, h⟩
    exact (hfound hreads).mpr h

end Field

/-! ### Sections -/

/-- A record is made of entries with known keys. -/
theorem run_entriesOf_eq_ok_iff {names : List String} {title : String}
    {check : List (Value × Value) → Checked α}
    (hwhole : ∀ name ∈ names, Text.hasHalf name = false)
    (hknown : check entries = .ok a → Known names entries) :
    ((entriesOf (.named entries) check).run title).mapError Error.rejected = .ok a ↔
      check entries = .ok a := by
  have hbroken : entriesOf (.named entries) check = unlessBroken entries (check entries) := rfl
  rw [hbroken, mapError_eq_ok_iff, unlessBroken]
  constructor
  · intro h
    split at h
    · cases h
    · cases hcheck : check entries with
      | ok b =>
        rw [hcheck] at h
        cases h
        rfl
      | bad i is =>
        rw [hcheck] at h
        cases h
  · intro h
    rw [hasBrokenKey_of_known hwhole (hknown h), h]
    rfl

/-! ### The section of the vault -/

namespace VaultSettings

/-- The address of the vault. -/
def apiUrlField : Field String :=
  ⟨⟨"api_url", "BW_API_URL", .text⟩, default.apiUrl, fun v => (checkUrl v).value?⟩

/-- The address at which tokens are taken. -/
def identityUrlField : Field String :=
  ⟨⟨"identity_api_url", "BW_IDENTITY_API_URL", .text⟩, default.identityUrl,
    fun v => (checkUrl v).value?⟩

/-- Where the client of the vault keeps its state. -/
def statePathField : Field String :=
  ⟨⟨"state_path", "BW_SECRETS_MANAGER_STATE_PATH", .text⟩, default.statePath,
    fun v => (checkStatePath v).value?⟩

/-- The variables of the section. -/
def sources : List Override :=
  [apiUrlField.source, identityUrlField.source, statePathField.source]

/-- The names of the section. -/
def names : List String := ["api_url", "identity_api_url", "state_path"]

/-- What is made of a draft of the section. -/
def ofDraft (d : Draft) : Except Error VaultSettings :=
  ((entriesOf d check).run "BitwardenConfig").mapError .rejected

/-- Settings are loaded by drafting the entries and checking the draft. -/
theorem load_eq (env : Environment) (value : Value) :
    load env value = drafted env sources value >>= ofDraft := by
  unfold load drafted
  rw [bind_assoc]
  apply bind_congr
  intro d
  simp only [sources, apiUrlField, identityUrlField, statePathField, List.foldlM_cons,
    List.foldlM_nil, bind_assoc, pure_bind, Override.apply_text]
  rfl

/-- The settings of the section are taken from its entries. -/
structure Taken (env : Environment) (entries : List (Value × Value)) (s : VaultSettings) :
    Prop where
  known : Known names entries
  apiUrl : apiUrlField.Chosen env entries s.apiUrl
  identityUrl : identityUrlField.Chosen env entries s.identityUrl
  statePath : statePathField.Chosen env entries s.statePath

private theorem check_eq_ok_iff {s : VaultSettings} :
    check entries = .ok s ↔ setting entries "api_url" default.apiUrl checkUrl = .ok s.apiUrl ∧
      setting entries "identity_api_url" default.identityUrl checkUrl = .ok s.identityUrl ∧
      setting entries "state_path" default.statePath checkStatePath = .ok s.statePath ∧
      checkKeys names entries = .ok () := by
  unfold check
  simp only [Checked.seq_op_eq_ok_iff, Checked.map_seq_eq_ok_iff]
  constructor
  · rintro ⟨_, _, ⟨_, _, ⟨_, _, ⟨a, ha, rfl⟩, hb, rfl⟩, hc, rfl⟩, hd, rfl⟩
    exact ⟨ha, hb, hc, hd⟩
  · rintro ⟨ha, hb, hc, hd⟩
    exact ⟨_, _, ⟨_, _, ⟨_, _, ⟨_, ha, rfl⟩, hb, rfl⟩, hc, rfl⟩, hd, rfl⟩

/-- The settings of the section are loaded exactly if they are taken from entries. -/
theorem load_eq_ok_iff {s : VaultSettings} :
    load env value = .ok s ↔ ∃ entries, entries? value = some entries ∧ Taken env entries s := by
  have hnameless (v : Value) : ofDraft (.nameless v) ≠ .ok s := nofun
  rw [load_eq, drafted_bind_eq_ok_iff hnameless]
  apply exists_congr
  intro entries
  apply and_congr_right
  rintro -
  have hchecked {es : List (Value × Value)} : ofDraft (.named es) = .ok s ↔ check es = .ok s := by
    apply run_entriesOf_eq_ok_iff (by decide : ∀ name ∈ names, Text.hasHalf name = false)
    intro h
    exact checkKeys_eq_ok_iff.mp (check_eq_ok_iff.mp h).2.2.2
  have hnames : ∀ o ∈ sources, o.name ∈ names := by decide
  rw [hchecked, check_eq_ok_iff, checkKeys_eq_ok_iff, known_replaced hnames]
  have hnodup : (sources.map Override.name).Nodup := by decide
  have hapi := apiUrlField.chosen_iff_setting env entries s.apiUrl hnodup (by decide)
    (fun _ => rfl)
  have hidentity := identityUrlField.chosen_iff_setting env entries s.identityUrl hnodup
    (by decide) (fun _ => rfl)
  have hpath := statePathField.chosen_iff_setting env entries s.statePath hnodup (by decide)
    (fun _ => rfl)
  constructor
  · rintro ⟨hreads, ha, hb, hc, hknown⟩
    exact ⟨hknown, hapi.mpr ⟨hreads _ (by decide), ha⟩,
      hidentity.mpr ⟨hreads _ (by decide), hb⟩, hpath.mpr ⟨hreads _ (by decide), hc⟩⟩
  · rintro ⟨hknown, ha, hb, hc⟩
    refine ⟨?_, (hapi.mp ha).2, (hidentity.mp hb).2, (hpath.mp hc).2, hknown⟩
    simp [sources, ha.reads, hb.reads, hc.reads]

end VaultSettings

/-! ### The section of the cluster -/

namespace ClusterSettings

/-- A whole number that is at least some number. -/
def atLeast (least : Int) (v : Value) : Option Int := (integer v).value?.filter (least ≤ ·)

/-- The path depends on where the home directories are. -/
def kubeconfigField (env : Environment) : Field (Option String) :=
  ⟨⟨"kubeconfig", "BW_K8S_KUBECONFIG", .text⟩, default.kubeconfig,
    fun v => (checkKubeconfig env v).toOption.bind Checked.value?⟩

/-- The context in the credentials. -/
def contextField : Field (Option String) :=
  ⟨⟨"context", "BW_K8S_CONTEXT", .text⟩, default.context, fun v => (textOrNull v).value?⟩

/-- The namespace that is watched. -/
def nsField : Field (Option String) :=
  ⟨⟨"namespace", "WATCH_NAMESPACE", .text⟩, default.ns, fun v => (textOrNull v).value?⟩

/-- The seconds after which a request is given up. -/
def timeoutField : Field Int :=
  ⟨⟨"timeout", "BW_K8S_TIMEOUT", .integer⟩, default.timeout, atLeast 1⟩

/-- How often a call is tried. -/
def retryAttemptsField : Field Int :=
  ⟨⟨"retry_attempts", "BW_K8S_RETRY_ATTEMPTS", .integer⟩, default.retryAttempts, atLeast 1⟩

/-- The variables of the section. -/
def sources : List Override := [⟨"kubeconfig", "BW_K8S_KUBECONFIG", .text⟩, contextField.source,
  nsField.source, timeoutField.source, retryAttemptsField.source]

/-- The names of the section. -/
def names : List String := ["kubeconfig", "context", "namespace", "timeout", "retry_attempts"]

/-- What is made of a draft of the section. -/
def ofDraft (env : Environment) (d : Draft) : Except Error ClusterSettings := do
  let kubeconfig ← kubeconfigOf env d
  ((entriesOf d (check kubeconfig)).run "KubernetesConfig").mapError .rejected

/-- Settings are loaded by drafting the entries and checking the draft beside the environment. -/
theorem load_eq (env : Environment) (value : Value) :
    load env value = drafted env sources value >>= ofDraft env := by
  unfold load drafted
  rw [bind_assoc]
  apply bind_congr
  intro d
  simp only [sources, contextField, nsField, timeoutField, retryAttemptsField, List.foldlM_cons,
    List.foldlM_nil, bind_assoc, pure_bind, Override.apply_text, Override.apply_integer]
  rfl

/-- The settings of the section are taken from its entries. -/
structure Taken (env : Environment) (entries : List (Value × Value)) (s : ClusterSettings) :
    Prop where
  known : Known names entries
  kubeconfig : (kubeconfigField env).Chosen env entries s.kubeconfig
  context : contextField.Chosen env entries s.context
  ns : nsField.Chosen env entries s.ns
  timeout : timeoutField.Chosen env entries s.timeout
  retryAttempts : retryAttemptsField.Chosen env entries s.retryAttempts

/-- The check of the timeout, as part of that of the section. -/
def checkTimeout (v : Value) : Checked Int :=
  (integer v).andThen (accept (fun n => if n ≤ 0 then some "timeout must be positive" else none))

/-- The check of the number of attempts, as part of that of the section. -/
def checkAttempts (v : Value) : Checked Int :=
  (integer v).andThen (accept (fun n =>
    if n < 1 then some "retry_attempts must be at least 1" else none))

private theorem value?_checkTimeout (v : Value) : atLeast 1 v = (checkTimeout v).value? := by
  rw [checkTimeout, Checked.value?_andThen_accept, atLeast]
  congr 1
  funext n
  by_cases hlow : n ≤ 0
  · simp [hlow]
    omega
  · simp [hlow]
    omega

private theorem value?_checkAttempts (v : Value) : atLeast 1 v = (checkAttempts v).value? := by
  rw [checkAttempts, Checked.value?_andThen_accept, atLeast]
  congr 1
  funext n
  by_cases hlow : n < 1
  · simp [hlow]
  · simp [hlow, Int.not_lt.mp hlow]

private theorem check_eq_ok_iff {kubeconfig : Checked (Option String)} {s : ClusterSettings} :
    check kubeconfig entries = .ok s ↔ kubeconfig = .ok s.kubeconfig ∧
      setting entries "context" none textOrNull = .ok s.context ∧
      setting entries "namespace" none textOrNull = .ok s.ns ∧
      setting entries "timeout" default.timeout checkTimeout = .ok s.timeout ∧
      setting entries "retry_attempts" default.retryAttempts checkAttempts = .ok s.retryAttempts ∧
      checkKeys names entries = .ok () := by
  unfold check
  simp only [Checked.seq_op_eq_ok_iff, Checked.map_seq_eq_ok_iff, Checked.under_eq_ok_iff]
  constructor
  · rintro ⟨_, _, ⟨_, _, ⟨_, _, ⟨_, _, ⟨_, _, ⟨a, ha, rfl⟩, hb, rfl⟩, hc, rfl⟩, hd, rfl⟩, he, rfl⟩,
      hf, rfl⟩
    exact ⟨ha, hb, hc, hd, he, hf⟩
  · rintro ⟨ha, hb, hc, hd, he, hf⟩
    exact ⟨_, _, ⟨_, _, ⟨_, _, ⟨_, _, ⟨_, _, ⟨_, ha, rfl⟩, hb, rfl⟩, hc, rfl⟩, hd, rfl⟩, he, rfl⟩,
      hf, rfl⟩

/-- Behind the variables stands the path that is sought: a text can always be read. -/
theorem find?_kubeconfig (env : Environment) (entries : List (Value × Value)) :
    Value.find? "kubeconfig" (replaced env sources entries) =
      (kubeconfigField env).source.sought env entries :=
  find?_replaced (o := (kubeconfigField env).source) (by decide) List.mem_cons_self
    (fun _ _ => ⟨_, rfl⟩)

/-- The path behind the variables is the one that is chosen. -/
theorem kubeconfigOf_eq_ok_iff {path : Option String} :
    (kubeconfigField env).Chosen env entries path ↔
      kubeconfigOf env (.named (replaced env sources entries)) = .ok (.ok path) := by
  have hreads : (kubeconfigField env).source.Reads env := fun s _ => ⟨_, rfl⟩
  rw [Field.chosen_iff hreads, kubeconfigOf, find?_kubeconfig]
  cases (kubeconfigField env).source.sought env entries with
  | none =>
    show path = none ↔ Except.ok (Checked.ok none) = Except.ok (Checked.ok path)
    simp [eq_comm]
  | some v =>
    show (checkKubeconfig env v).toOption.bind Checked.value? = some path ↔
      checkKubeconfig env v = .ok (.ok path)
    cases checkKubeconfig env v with
    | error e => simp [Except.toOption]
    | ok checked => simp [Except.toOption, Checked.value?_eq_some_iff]

/-- The settings of the section are loaded exactly if they are taken from entries. -/
theorem load_eq_ok_iff {s : ClusterSettings} :
    load env value = .ok s ↔ ∃ entries, entries? value = some entries ∧ Taken env entries s := by
  have hnameless (v : Value) : ofDraft env (.nameless v) ≠ .ok s := nofun
  rw [load_eq, drafted_bind_eq_ok_iff hnameless]
  apply exists_congr
  intro entries
  apply and_congr_right
  rintro -
  have hchecked {es : List (Value × Value)} : ofDraft env (.named es) = .ok s ↔
      ∃ k, kubeconfigOf env (.named es) = .ok k ∧ check k es = .ok s := by
    unfold ofDraft
    cases kubeconfigOf env (.named es) with
    | error e => simp [Bind.bind, Except.bind]
    | ok k =>
      have hrun := @run_entriesOf_eq_ok_iff _ es s names "KubernetesConfig" (check k) (by decide)
        (fun h => checkKeys_eq_ok_iff.mp (check_eq_ok_iff.mp h).2.2.2.2.2)
      simpa [Bind.bind, Except.bind] using hrun
  have hnames : ∀ o ∈ sources, o.name ∈ names := by decide
  have hnodup : (sources.map Override.name).Nodup := by decide
  rw [hchecked]
  simp only [check_eq_ok_iff, checkKeys_eq_ok_iff, known_replaced hnames]
  have hpath := @kubeconfigOf_eq_ok_iff env entries s.kubeconfig
  have hcontext := contextField.chosen_iff_setting env entries s.context hnodup (by decide)
    (fun _ => rfl)
  have hns := nsField.chosen_iff_setting env entries s.ns hnodup (by decide) (fun _ => rfl)
  have htimeout := timeoutField.chosen_iff_setting env entries s.timeout hnodup (by decide)
    value?_checkTimeout
  have hattempts := retryAttemptsField.chosen_iff_setting env entries s.retryAttempts hnodup
    (by decide) value?_checkAttempts
  constructor
  · rintro ⟨hreads, k, hk, rfl, hc, hn, ht, ha, hknown⟩
    exact ⟨hknown, hpath.mpr hk, hcontext.mpr ⟨hreads _ (by decide), hc⟩,
      hns.mpr ⟨hreads _ (by decide), hn⟩, htimeout.mpr ⟨hreads _ (by decide), ht⟩,
      hattempts.mpr ⟨hreads _ (by decide), ha⟩⟩
  · rintro ⟨hknown, hk, hc, hn, ht, ha⟩
    refine ⟨?_, _, hpath.mp hk, rfl, (hcontext.mp hc).2, (hns.mp hn).2, (htimeout.mp ht).2,
      (hattempts.mp ha).2, hknown⟩
    have hpathReads := hk.reads
    unfold kubeconfigField at hpathReads
    simp [sources, hpathReads, hc.reads, hn.reads, ht.reads, ha.reads]

end ClusterSettings

end Config
end SecretSync

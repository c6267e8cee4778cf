import SecretSync.Proofs.Config.Loading

/-!
# Errors that are not expected

A value that a setting must not have is reported.  Errors of other kinds come from the shape of a
section, before any setting is checked, and from a home directory that is not known.
-/

namespace SecretSync.Config

open Yaml (Value)

variable {env : Environment} {value : Value} {entries : List (Value × Value)} {e : Error}
  {overrides : List Override}

/-- An error that is not one of values. -/
def Error.IsUnexpected (e : Error) : Prop := (LoadError.settings e).isReported = false

private theorem Error.not_isUnexpected_malformedVariable (fault : Text.Integer.SettingFault) :
    ¬ (malformedVariable fault).IsUnexpected := nofun

private theorem Error.not_isUnexpected_rejected (rejection : Schema.Rejection) :
    ¬ (rejected rejection).IsUnexpected := nofun

private theorem eq_rejected_of_mapError {α : Type} {r : Except Schema.Rejection α}
    (h : r.mapError .rejected = .error e) : ∃ rejection, e = .rejected rejection := by
  cases r with
  | ok a => cases h
  | error rejection =>
    cases h
    exact ⟨rejection, rfl⟩

private theorem bind_eq_error_iff {α β : Type} {x : Except Error α} {f : α → Except Error β} :
    x >>= f = .error e ↔ x = .error e ∨ ∃ a, x = .ok a ∧ f a = .error e := by
  cases x with
  | error e' => simp [Bind.bind, Except.bind]
  | ok a => simp [Bind.bind, Except.bind]

private theorem Undraftable.isUnexpected (h : Undraftable env overrides value e) :
    e.IsUnexpected := by
  cases h with
  | settingless => rfl
  | fixed => rfl

/-- What is made of a draft fails unexpectedly if there is no draft, or for reasons of its own. -/
theorem drafted_bind_unexpected_iff {α : Type} {k : Draft → Except Error α} :
    (drafted env overrides value >>= k = .error e ∧ e.IsUnexpected) ↔
      Undraftable env overrides value e ∨
        ∃ d, drafted env overrides value = .ok d ∧ k d = .error e ∧ e.IsUnexpected := by
  rw [bind_eq_error_iff]
  constructor
  · rintro ⟨hdraft | ⟨d, hdraft, hk⟩, hunexpected⟩
    · rcases drafted_cases env overrides value with ⟨entries, -, -, hdrafted⟩ | ⟨-, -, hdrafted⟩ |
        ⟨e', hdrafted, hkind⟩
      · rw [hdraft] at hdrafted
        cases hdrafted
      · rw [hdraft] at hdrafted
        cases hdrafted
      · rw [hdraft] at hdrafted
        cases hdrafted
        rcases hkind with ⟨fault, rfl⟩ | hundraftable
        · exact absurd hunexpected (Error.not_isUnexpected_malformedVariable fault)
        · exact Or.inl hundraftable
    · exact Or.inr ⟨d, hdraft, hk, hunexpected⟩
  · rintro (h | ⟨d, hdraft, hk, hunexpected⟩)
    · exact ⟨Or.inl h.drafted, h.isUnexpected⟩
    · exact ⟨Or.inr ⟨d, hdraft, hk⟩, hunexpected⟩

/-! ### The sections -/

/-- Loading the section of the vault fails unexpectedly exactly if no draft can be made of it. -/
theorem VaultSettings.load_unexpected_iff :
    (load env value = .error e ∧ e.IsUnexpected) ↔
      Undraftable env VaultSettings.sources value e := by
  rw [load_eq, drafted_bind_unexpected_iff]
  constructor
  · rintro (h | ⟨d, -, hmake, hunexpected⟩)
    · exact h
    · rcases eq_rejected_of_mapError hmake with ⟨rejection, rfl⟩
      exact absurd hunexpected (Error.not_isUnexpected_rejected rejection)
  · exact Or.inl

/-- The path of the credentials starts at a home directory that is not known. -/
def Homeless (env : Environment) (entries : List (Value × Value)) : Prop :=
  ∃ v path, (ClusterSettings.kubeconfigField env).source.sought env entries = some v ∧
    textOrNull v = .ok (some path) ∧ FilePath.expand env path = .error .unknownHome

private theorem ClusterSettings.checkKubeconfig_eq_error_iff :
    checkKubeconfig env value = .error e ↔ e = .unknownHome ∧
      ∃ path, textOrNull value = .ok (some path) ∧
        FilePath.expand env path = .error .unknownHome := by
  unfold checkKubeconfig
  cases textOrNull value with
  | bad i is => simp
  | ok path =>
    cases path with
    | none => simp
    | some path =>
      have hexpand : ((expandPath env path >>= fun checked => pure (checked.map some)) =
          Except.error e) ↔ e = .unknownHome ∧ FilePath.expand env path = .error .unknownHome := by
        unfold expandPath
        cases FilePath.expand env path with
        | ok expanded => simp [Bind.bind, Except.bind, Pure.pure, Except.pure]
        | error fault =>
          cases fault <;> simp [Bind.bind, Except.bind, Pure.pure, Except.pure, eq_comm]
      simpa using hexpand

private theorem ClusterSettings.kubeconfigOf_eq_error_iff {d : Draft} :
    kubeconfigOf env d = .error e ↔ e = .unknownHome ∧ ∃ entries path, d = .named entries ∧
      textOrNull ((Value.find? "kubeconfig" entries).getD .null) = .ok (some path) ∧
      FilePath.expand env path = .error .unknownHome := by
  cases d with
  | nameless v => simp [kubeconfigOf]
  | named entries => simp [kubeconfigOf, checkKubeconfig_eq_error_iff]

/-- What is made of a draft of the section fails unexpectedly exactly if its path does. -/
theorem ClusterSettings.ofDraft_unexpected_iff {d : Draft} :
    (ofDraft env d = .error e ∧ e.IsUnexpected) ↔ kubeconfigOf env d = .error e := by
  unfold ofDraft
  rw [bind_eq_error_iff]
  constructor
  · rintro ⟨hpath | ⟨path, -, hmake⟩, hunexpected⟩
    · exact hpath
    · rcases eq_rejected_of_mapError hmake with ⟨rejection, rfl⟩
      exact absurd hunexpected (Error.not_isUnexpected_rejected rejection)
  · intro hpath
    rcases kubeconfigOf_eq_error_iff.mp hpath with ⟨rfl, -⟩
    exact ⟨Or.inl hpath, rfl⟩

/-- Loading the section of the cluster fails unexpectedly exactly if no draft can be made of it, or
if its path starts at a home directory that is not known. -/
theorem ClusterSettings.load_unexpected_iff :
    (load env value = .error e ∧ e.IsUnexpected) ↔
      Undraftable env ClusterSettings.sources value e ∨ (e = .unknownHome ∧
        ∃ entries, entries? value = some entries ∧
          (∀ o ∈ ClusterSettings.sources, o.Reads env) ∧ Homeless env entries) := by
  rw [load_eq, drafted_bind_unexpected_iff]
  simp only [ofDraft_unexpected_iff, kubeconfigOf_eq_error_iff]
  apply or_congr_right
  constructor
  · rintro ⟨d, hdraft, rfl, es, path, rfl, htext, hexpand⟩
    refine ⟨rfl, ?_⟩
    rcases drafted_eq_named_iff.mp hdraft with ⟨entries, hentries, hreads, rfl⟩
    rw [find?_kubeconfig] at htext
    cases hsought : (kubeconfigField env).source.sought env entries with
    | none =>
      rw [hsought] at htext
      cases htext
    | some v =>
      rw [hsought] at htext
      exact ⟨entries, hentries, hreads, v, path, hsought, htext, hexpand⟩
  · rintro ⟨rfl, entries, hentries, hreads, v, path, hsought, htext, hexpand⟩
    refine ⟨_, drafted_of_reads hentries hreads, rfl, _, path, rfl, ?_, hexpand⟩
    rw [find?_kubeconfig, hsought]
    exact htext

/-! ### All settings -/

/-- What a file has for the sections makes loading fail in a way that is not expected. -/
inductive Unexpected (env : Environment) (vault cluster : Value) : Error → Prop
  | vault {e : Error} (undraftable : Undraftable env VaultSettings.sources vault e) :
    Unexpected env vault cluster e
  | cluster {e : Error} {entries : List (Value × Value)} {settings : VaultSettings}
    (found : entries? vault = some entries) (taken : settings.Taken env entries)
    (undraftable : Undraftable env ClusterSettings.sources cluster e) :
    Unexpected env vault cluster e
  | home {entries next : List (Value × Value)} {settings : VaultSettings}
    (found : entries? vault = some entries) (taken : settings.Taken env entries)
    (named : entries? cluster = some next) (reads : ∀ o ∈ ClusterSettings.sources, o.Reads env)
    (homeless : Homeless env next) : Unexpected env vault cluster .unknownHome

/-- The sections are loaded one after the other, so the first error that is not expected counts. -/
theorem OperatorSettings.ofDraft_unexpected_iff :
    (ofDraft env (.named entries) = .error e ∧ e.IsUnexpected) ↔
      Unexpected env ((Value.find? "bitwarden" entries).getD .null)
        ((Value.find? "kubernetes" entries).getD .null) e := by
  have hofDraft : ofDraft env (.named entries) = (do
      let vault ← VaultSettings.load env ((Value.find? "bitwarden" entries).getD .null)
      let cluster ← ClusterSettings.load env ((Value.find? "kubernetes" entries).getD .null)
      conclude entries vault cluster) := rfl
  rw [hofDraft]
  simp only [bind_eq_error_iff]
  constructor
  · rintro ⟨hvault | ⟨vault, hvault, hcluster | ⟨cluster, hcluster, hconclude⟩⟩, hunexpected⟩
    · exact .vault (VaultSettings.load_unexpected_iff.mp ⟨hvault, hunexpected⟩)
    · rcases VaultSettings.load_eq_ok_iff.mp hvault with ⟨found, hfound, htaken⟩
      rcases ClusterSettings.load_unexpected_iff.mp ⟨hcluster, hunexpected⟩ with
        hundraftable | ⟨rfl, next, hnext, hreads, hhomeless⟩
      · exact .cluster hfound htaken hundraftable
      · exact .home hfound htaken hnext hreads hhomeless
    · rcases eq_rejected_of_mapError hconclude with ⟨rejection, rfl⟩
      exact absurd hunexpected (Error.not_isUnexpected_rejected rejection)
  · intro h
    cases h with
    | vault hundraftable =>
      rcases VaultSettings.load_unexpected_iff.mpr hundraftable with ⟨hvault, hunexpected⟩
      exact ⟨Or.inl hvault, hunexpected⟩
    | @cluster e found vault hfound htaken hundraftable =>
      rcases ClusterSettings.load_unexpected_iff.mpr (Or.inl hundraftable) with
        ⟨hcluster, hunexpected⟩
      have hvault := VaultSettings.load_eq_ok_iff.mpr ⟨found, hfound, htaken⟩
      exact ⟨Or.inr ⟨vault, hvault, Or.inl hcluster⟩, hunexpected⟩
    | @home found next vault hfound htaken hnext hreads hhomeless =>
      rcases ClusterSettings.load_unexpected_iff.mpr
        (Or.inr ⟨rfl, next, hnext, hreads, hhomeless⟩) with ⟨hcluster, hunexpected⟩
      have hvault := VaultSettings.load_eq_ok_iff.mpr ⟨found, hfound, htaken⟩
      exact ⟨Or.inr ⟨vault, hvault, Or.inl hcluster⟩, hunexpected⟩

private theorem OperatorSettings.loaded_unexpected_iff :
    (loaded env (.map entries) = .error e ∧ e.IsUnexpected) ↔ refreshField.source.Reads env ∧
      Unexpected env ((Value.find? "bitwarden" entries).getD .null)
        ((Value.find? "kubernetes" entries).getD .null) e := by
  have hdraftable : ¬ Undraftable env [refreshField.source] (.map entries) e := by
    intro h
    cases h with
    | settingless unnamed =>
      rw [entries?_map] at unnamed
      cases unnamed
    | fixed collection => exact collection
  have hvault : Value.find? "bitwarden" (replaced env [refreshField.source] entries) =
    Value.find? "bitwarden" entries := find?_replaced_of_not_mem (by decide)
  have hcluster : Value.find? "kubernetes" (replaced env [refreshField.source] entries) =
    Value.find? "kubernetes" entries := find?_replaced_of_not_mem (by decide)
  rw [loaded, drafted_bind_unexpected_iff, or_iff_right hdraftable, ← hvault, ← hcluster,
    ← ofDraft_unexpected_iff]
  constructor
  · rintro ⟨d, hdraft, hmake⟩
    rcases drafted_cases env [refreshField.source] (.map entries) with
      ⟨es, hentries, hreads, hdrafted⟩ | ⟨hnameless, -, -⟩ | ⟨e', hdrafted, -⟩
    · rw [entries?_map] at hentries
      cases hentries
      rw [hdraft] at hdrafted
      cases hdrafted
      exact ⟨hreads _ List.mem_cons_self, hmake⟩
    · cases hnameless
    · rw [hdraft] at hdrafted
      cases hdrafted
  · rintro ⟨hreads, hmake⟩
    exact ⟨_, drafted_of_reads entries?_map (List.forall_mem_singleton.mpr hreads), hmake⟩

/-! ### Files -/

/-- Loading the settings of a file fails in a way that is not expected: the file holds no mapping
for a reason that is none of values, or the sections in it make loading fail. -/
inductive FailsUnexpectedly (env : Environment) (folder : Files.Folder) (path : Option String) :
    LoadError → Prop
  | document {e : LoadError} (refused : document folder path = .error e)
    (kind : e.isReported = false) : FailsUnexpectedly env folder path e
  | sections {entries : List (Value × Value)} {e : Error}
    (read : document folder path = .ok (.map entries))
    (reads : OperatorSettings.refreshField.source.Reads env)
    (unexpected : Unexpected env ((Value.find? "bitwarden" entries).getD .null)
      ((Value.find? "kubernetes" entries).getD .null) e) :
    FailsUnexpectedly env folder path (.settings e)

/-- Loading fails in an unreported way exactly in the ways that are named. -/
theorem loadedFrom_unexpected_iff {folder : Files.Folder} {path : Option String} {e : LoadError} :
    (loadedFrom env folder path = .error e ∧ e.isReported = false) ↔
      FailsUnexpectedly env folder path e := by
  unfold loadedFrom
  constructor
  · rintro ⟨h, hkind⟩
    cases hdocument : document folder path with
    | error e' =>
      rw [hdocument] at h
      cases h
      exact .document hdocument hkind
    | ok value =>
      rcases document_eq_ok hdocument with ⟨entries, rfl⟩
      rw [hdocument] at h
      replace h : (OperatorSettings.loaded env (.map entries)).mapError LoadError.settings =
        .error e := h
      cases hloaded : OperatorSettings.loaded env (.map entries) with
      | ok settings =>
        rw [hloaded] at h
        cases h
      | error e' =>
        rw [hloaded] at h
        cases h
        rcases OperatorSettings.loaded_unexpected_iff.mp ⟨hloaded, hkind⟩ with ⟨hreads, hsections⟩
        exact .sections hdocument hreads hsections
  · intro h
    cases h with
    | document hdocument hkind =>
      rw [hdocument]
      exact ⟨rfl, hkind⟩
    | @sections entries e hdocument hreads hsections =>
      rcases OperatorSettings.loaded_unexpected_iff.mpr ⟨hreads, hsections⟩ with
        ⟨hloaded, hunexpected⟩
      rw [hdocument]
      show (OperatorSettings.loaded env (.map entries)).mapError LoadError.settings = _ ∧ _
      rw [hloaded]
      exact ⟨rfl, hunexpected⟩

end SecretSync.Config

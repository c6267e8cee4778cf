import SecretSync.Config.File
import SecretSync.Proofs.Config.Fields
import SecretSync.Proofs.Net.Url

/-!
# Loading all settings

The settings of the operator are loaded exactly if its own and those of both sections can be taken
from their sources.  What is taken has passed its check, so the loaded settings are sound.
-/

namespace SecretSync.Config

open Act
open Yaml (Value)
open Schema (Checked)

variable {env : Environment} {value : Value} {entries : List (Value × Value)}
  {settings : OperatorSettings} {w w' : World}

/-- The entries that a file has for a section by its name. -/
def sectionOf? (name : String) (entries : List (Value × Value)) : Option (List (Value × Value)) :=
  entries? ((Value.find? name entries).getD .null)

namespace OperatorSettings

/-- The seconds between two syncs, raised to the minimum. -/
def refreshField : Field Int :=
  ⟨⟨"refresh_interval", "BW_SECRETS_MANAGER_REFRESH_INTERVAL", .integer⟩, defaultRefresh,
    fun v => ((integer v).map (max minimumRefresh)).value?⟩

/-- The names around the sections. -/
def names : List String := ["refresh_interval", "bitwarden", "kubernetes"]

/-- The check of the entries around the sections. -/
def check (vault : VaultSettings) (cluster : ClusterSettings) (entries : List (Value × Value)) :
    Checked OperatorSettings :=
  (fun requested _ => (⟨raised requested, vault, cluster⟩ : OperatorSettings))
    <$> checkRefresh entries <*> checkKeys names entries

/-- What the settings of both sections and the entries around them make up. -/
def conclude (entries : List (Value × Value)) (vault : VaultSettings) (cluster : ClusterSettings) :
    Except Error OperatorSettings :=
  ((entriesOf (.named entries) (check vault cluster)).run "OperatorConfig").mapError .rejected

/-- What is made of a draft of all settings. -/
def ofDraft (env : Environment) (d : Draft) : Except Error OperatorSettings := do
  let vault ← VaultSettings.load env (← d.section? "bitwarden")
  let cluster ← ClusterSettings.load env (← d.section? "kubernetes")
  match d with
  | .named entries => conclude entries vault cluster
  | .nameless _ => throw .notSearchable

/-- The settings that are loaded, whatever is noted in the log. -/
def loaded (env : Environment) (value : Value) : Except Error OperatorSettings :=
  drafted env [refreshField.source] value >>= ofDraft env

private theorem sections_eq (env : Environment) (value : Value) :
    (sections env value >>= fun parts => conclude parts.1 parts.2.1 parts.2.2) =
      loaded env value := by
  unfold sections loaded drafted ofDraft
  simp only [List.foldlM_cons, List.foldlM_nil, bind_assoc, pure_bind, refreshField,
    Override.apply_integer]
  apply bind_congr
  intro d
  apply bind_congr
  intro d
  apply bind_congr
  intro vaultValue
  apply bind_congr
  intro vault
  apply bind_congr
  intro clusterValue
  apply bind_congr
  intro cluster
  cases d with
  | named entries => rfl
  | nameless value => rfl

/-- Loading ends with the settings that are loaded, or with the error. -/
theorem ends_load {r : Except Error OperatorSettings} (h : Ends (load env value).run w r w') :
    r = loaded env value := by
  rw [← sections_eq]
  unfold load at h
  cases hsections : sections env value with
  | error e =>
    rw [hsections] at h
    exact (ends_run_throw.mp h).1
  | ok parts =>
    rcases parts with ⟨entries, vault, cluster⟩
    rw [hsections] at h
    dsimp only at h
    have hconclude : conclude entries vault cluster =
      ((entriesOf (.named entries) (check vault cluster)).run "OperatorConfig").mapError
        .rejected := rfl
    -- Whether something is noted in the log makes no difference to the check that follows.
    cases hrun : (entriesOf (.named entries) (check vault cluster)).run "OperatorConfig" with
    | ok settings =>
      rw [hrun] at hconclude
      replace hrun : (unlessBroken entries (_ <$> checkRefresh entries <*>
        checkKeys [_, _, _] entries)).run "OperatorConfig" = .ok settings := hrun
      rw [hrun] at h
      split at h
      · rcases ends_run_lift_bind.mp h with ⟨-, u, -, hrest⟩
        exact (ends_run_pure.mp hrest).1.trans hconclude.symm
      · exact (ends_run_pure.mp h).1.trans hconclude.symm
    | error rejection =>
      rw [hrun] at hconclude
      replace hrun : (unlessBroken entries (_ <$> checkRefresh entries <*>
        checkKeys [_, _, _] entries)).run "OperatorConfig" = .error rejection := hrun
      rw [hrun] at h
      split at h
      · rcases ends_run_lift_bind.mp h with ⟨-, u, -, hrest⟩
        exact (ends_run_throw.mp hrest).1.trans hconclude.symm
      · exact (ends_run_throw.mp h).1.trans hconclude.symm

/-- Loading from a value always ends, and with what the value says. -/
theorem exists_ends_load (env : Environment) (value : Value) (w : World) :
    ∃ w', Ends (load env value).run w (loaded env value) w' := by
  have hends := ends_self (load env value).run w
  rw [← ends_load hends]
  exact ⟨_, hends⟩

/-- A refresh interval that is too short is raised, in the course of its check. -/
theorem raised_checkRefresh {seconds : Int} :
    (∃ requested, checkRefresh entries = .ok requested ∧ raised requested = seconds) ↔
      setting entries "refresh_interval" defaultRefresh
        (fun v => (integer v).map (max minimumRefresh)) = .ok seconds := by
  have hraised (n : Int) : raised (some n) = max minimumRefresh n := by
    unfold raised
    dsimp only
    split
    · omega
    · omega
  unfold checkRefresh setting
  cases Value.find? "refresh_interval" entries with
  | none => simp [raised]
  | some v =>
    simp only [Checked.under_eq_ok_iff, Checked.map_eq_ok_iff]
    constructor
    · rintro ⟨_, ⟨n, hn, rfl⟩, rfl⟩
      exact ⟨n, hn, (hraised n).symm⟩
    · rintro ⟨n, hn, rfl⟩
      exact ⟨_, ⟨n, hn, rfl⟩, hraised n⟩

private theorem conclude_eq_ok_iff {vault : VaultSettings} {cluster : ClusterSettings} :
    conclude entries vault cluster = .ok settings ↔ Known names entries ∧
      setting entries "refresh_interval" defaultRefresh
        (fun v => (integer v).map (max minimumRefresh)) = .ok settings.refreshInterval ∧
      vault = settings.vault ∧ cluster = settings.cluster := by
  have hcheck : check vault cluster entries = .ok settings ↔ Known names entries ∧
      (∃ requested, checkRefresh entries = .ok requested ∧
        raised requested = settings.refreshInterval) ∧
      vault = settings.vault ∧ cluster = settings.cluster := by
    unfold check
    simp only [Checked.seq_op_eq_ok_iff, Checked.map_seq_eq_ok_iff, ← checkKeys_eq_ok_iff]
    constructor
    · rintro ⟨_, _, ⟨requested, hrefresh, rfl⟩, hkeys, rfl⟩
      exact ⟨hkeys, ⟨requested, hrefresh, rfl⟩, rfl, rfl⟩
    · rintro ⟨hkeys, ⟨requested, hrefresh, hraised⟩, rfl, rfl⟩
      refine ⟨_, _, ⟨requested, hrefresh, rfl⟩, hkeys, ?_⟩
      rw [hraised]
  have hwhole : ∀ name ∈ names, Text.hasHalf name = false := by decide
  rw [conclude, run_entriesOf_eq_ok_iff hwhole (fun h => (hcheck.mp h).1), hcheck,
    raised_checkRefresh]

/-- What is put in the place of a section is not looked at again. -/
theorem conclude_put {name : String} {v : Value} {vault : VaultSettings} {cluster : ClusterSettings}
    (hname : name ∈ names) (hne : "refresh_interval" ≠ name) (hwhole : Text.hasHalf name = false) :
    conclude (Value.put (.text name) v entries) vault cluster = conclude entries vault cluster := by
  have hrefresh : checkRefresh (Value.put (.text name) v entries) = checkRefresh entries := by
    unfold checkRefresh setting
    rw [Value.find?_put_of_ne hne]
  have hcheck : check vault cluster (Value.put (.text name) v entries) =
      check vault cluster entries := by
    unfold check
    rw [hrefresh, checkKeys_put hname]
  have hentries : entriesOf (.named (Value.put (.text name) v entries)) (check vault cluster) =
      entriesOf (.named entries) (check vault cluster) := by
    show unlessBroken _ _ = unlessBroken _ _
    unfold unlessBroken
    rw [hasBrokenKey_put hwhole, hcheck]
  rw [conclude, conclude, hentries]

/-- All settings are taken from the entries of a file and from variables. -/
structure Taken (env : Environment) (entries vault cluster : List (Value × Value))
    (s : OperatorSettings) : Prop where
  known : Known names entries
  refreshInterval : refreshField.Chosen env entries s.refreshInterval
  vault : s.vault.Taken env vault
  cluster : s.cluster.Taken env cluster

private theorem ofDraft_named_eq_ok_iff :
    ofDraft env (.named entries) = .ok settings ↔
      VaultSettings.load env ((Value.find? "bitwarden" entries).getD .null) = .ok settings.vault ∧
      ClusterSettings.load env ((Value.find? "kubernetes" entries).getD .null) =
        .ok settings.cluster ∧
      conclude entries settings.vault settings.cluster = .ok settings := by
  have hdraft : ofDraft env (.named entries) = (do
      let vault ← VaultSettings.load env ((Value.find? "bitwarden" entries).getD .null)
      let cluster ← ClusterSettings.load env ((Value.find? "kubernetes" entries).getD .null)
      conclude entries vault cluster) := rfl
  rw [hdraft]
  cases VaultSettings.load env ((Value.find? "bitwarden" entries).getD .null) with
  | error e => simp [Bind.bind, Except.bind]
  | ok vault =>
    cases ClusterSettings.load env ((Value.find? "kubernetes" entries).getD .null) with
    | error e => simp [Bind.bind, Except.bind]
    | ok cluster =>
      show conclude entries vault cluster = .ok settings ↔ _
      constructor
      · intro h
        have hparts := (conclude_eq_ok_iff.mp h).2.2
        rw [← hparts.1, ← hparts.2]
        exact ⟨rfl, rfl, h⟩
      · rintro ⟨hvault, hcluster, h⟩
        cases hvault
        cases hcluster
        exact h

/-- The settings are loaded exactly if they are taken from entries. -/
theorem loaded_eq_ok_iff :
    loaded env value = .ok settings ↔ ∃ entries, entries? value = some entries ∧
      ∃ vault cluster, sectionOf? "bitwarden" entries = some vault ∧
        sectionOf? "kubernetes" entries = some cluster ∧
        settings.Taken env entries vault cluster := by
  have hnameless (v : Value) : ofDraft env (.nameless v) ≠ .ok settings := nofun
  rw [loaded, drafted_bind_eq_ok_iff hnameless]
  apply exists_congr
  intro entries
  apply and_congr_right
  rintro -
  have hnodup : ([refreshField.source].map Override.name).Nodup := by decide
  have hrefresh := refreshField.chosen_iff_setting env entries settings.refreshInterval hnodup
    List.mem_cons_self (fun _ => rfl)
  have hnames : ∀ o ∈ [refreshField.source], o.name ∈ names := by decide
  have hvault : Value.find? "bitwarden" (replaced env [refreshField.source] entries) =
    Value.find? "bitwarden" entries := find?_replaced_of_not_mem (by decide)
  have hcluster : Value.find? "kubernetes" (replaced env [refreshField.source] entries) =
    Value.find? "kubernetes" entries := find?_replaced_of_not_mem (by decide)
  rw [ofDraft_named_eq_ok_iff, conclude_eq_ok_iff, known_replaced hnames, hvault, hcluster,
    VaultSettings.load_eq_ok_iff, ClusterSettings.load_eq_ok_iff]
  constructor
  · rintro ⟨hreads, ⟨vault, hvaultEntries, htakenVault⟩, ⟨cluster, hclusterEntries, htakenCluster⟩,
      hknown, hseconds, -, -⟩
    exact ⟨vault, cluster, hvaultEntries, hclusterEntries, hknown,
      hrefresh.mpr ⟨hreads _ List.mem_cons_self, hseconds⟩, htakenVault, htakenCluster⟩
  · rintro ⟨vault, cluster, hvaultEntries, hclusterEntries, htaken⟩
    have hseconds := hrefresh.mp htaken.refreshInterval
    exact ⟨List.forall_mem_singleton.mpr hseconds.1, ⟨vault, hvaultEntries, htaken.vault⟩,
      ⟨cluster, hclusterEntries, htaken.cluster⟩, htaken.known, hseconds.2, rfl, rfl⟩

end OperatorSettings

/-! ### Files -/

open Files (Folder)

variable {folder : Folder} {path : Option String}

/-- The mapping in a file, which is empty if there is no file. -/
def document (folder : Folder) : Option String → Except LoadError Value
  | none => .ok (.map [])
  | some path => readDocument folder path.toList

/-- A document is a mapping. -/
theorem document_eq_ok (h : document folder path = .ok value) :
    ∃ entries, value = .map entries := by
  cases path with
  | none =>
    cases h
    exact ⟨[], rfl⟩
  | some path =>
    replace h : readDocument folder path.toList = .ok value := h
    unfold readDocument at h
    dsimp only at h
    split at h
    · cases h
    · rcases Declaration.bind_eq_ok h with ⟨content, -, h⟩
      rcases Declaration.bind_eq_ok h with ⟨parsed, -, h⟩
      split at h
      · cases h
        exact ⟨[], rfl⟩
      · split at h
        · cases h
          exact ⟨_, rfl⟩
        · cases h

/-- The settings that are loaded from a file, whatever is noted in the log. -/
def loadedFrom (env : Environment) (folder : Folder) (path : Option String) :
    Except LoadError OperatorSettings := do
  let value ← document folder path
  (OperatorSettings.loaded env value).mapError .settings

/-- Settings are loaded from the mapping in the file, behind a note of the file in the log. -/
theorem ends_load_of_document {r : Except LoadError OperatorSettings}
    (hdocument : document folder path = .ok value)
    (h : Ends (load env folder path).run w r w') :
    ∃ v, Ends (ExceptT.adapt LoadError.settings (OperatorSettings.load env value)).run v r w' := by
  cases path with
  | none =>
    cases hdocument
    exact ⟨w, h⟩
  | some path =>
    replace hdocument : readDocument folder path.toList = .ok value := hdocument
    unfold load at h
    dsimp only at h
    rw [hdocument] at h
    obtain ⟨_, v, -, h⟩ := ends_run_lift_bind.mp h
    exact ⟨v, h⟩

private theorem load_of_no_document {e : LoadError} (h : document folder path = .error e) :
    load env folder path = throw e := by
  cases path with
  | none => cases h
  | some path =>
    replace h : readDocument folder path.toList = .error e := h
    unfold load
    dsimp only
    rw [h]
    rfl

/-- Loading can only end with what the folder says. -/
theorem ends_load {r : Except LoadError OperatorSettings}
    (h : Ends (load env folder path).run w r w') : r = loadedFrom env folder path := by
  unfold loadedFrom
  cases hdocument : document folder path with
  | error e =>
    rw [load_of_no_document hdocument] at h
    exact (ends_run_throw.mp h).1
  | ok value =>
    obtain ⟨v, h⟩ := ends_load_of_document hdocument h
    obtain ⟨r', hends, rfl⟩ := ends_run_adapt.mp h
    rw [OperatorSettings.ends_load hends]
    rfl

/-- Loading always ends, and with what the folder says. -/
theorem exists_ends_load (env : Environment) (folder : Folder) (path : Option String) (w : World) :
    ∃ w', Ends (load env folder path).run w (loadedFrom env folder path) w' := by
  have hends := ends_self (load env folder path).run w
  rw [← ends_load hends]
  exact ⟨_, hends⟩

/-! ### Sound settings -/

/-- A text is the base of addresses: it addresses a service, and has no slash at its end. -/
def IsBase (s : String) : Prop := Net.Url.Addresses s.toList ∧ s.toList.getLast? ≠ some '/'

/-- Settings that can be worked with. -/
structure OperatorSettings.Sound (s : OperatorSettings) : Prop where
  refreshInterval : 180 ≤ s.refreshInterval
  timeout : 0 < s.cluster.timeout
  retryAttempts : 1 ≤ s.cluster.retryAttempts
  apiUrl : IsBase s.vault.apiUrl
  identityUrl : IsBase s.vault.identityUrl
  statePath : Text.isBlankText s.vault.statePath = false

private theorem VaultSettings.exists_dropSlashes (s : String) :
    ∃ slashes, (∀ c ∈ slashes, c = '/') ∧ s.toList = (dropSlashes s).toList ++ slashes ∧
      (dropSlashes s).toList.getLast? ≠ some '/' := by
  have hkept : (dropSlashes s).toList = (s.toList.reverse.dropWhile (· == '/')).reverse :=
    String.toList_ofList
  refine ⟨(s.toList.reverse.takeWhile (· == '/')).reverse, ?_, ?_, ?_⟩
  · intro c hc
    exact eq_of_beq (List.all_eq_true.mp List.all_takeWhile c (List.mem_reverse.mp hc))
  · rw [hkept, ← List.reverse_append, List.takeWhile_append_dropWhile, List.reverse_reverse]
  · have hhead := List.head?_dropWhile_not (· == '/') s.toList.reverse
    rw [hkept, List.getLast?_reverse]
    intro hslash
    rw [hslash] at hhead
    cases hhead

/-- An address of a service is the base of addresses when it has lost the slashes at its end. -/
theorem VaultSettings.isBase_of_checkUrl {v : Value} {url : String}
    (h : (checkUrl v).value? = some url) : IsBase url := by
  rw [Checked.value?_eq_some_iff, checkUrl] at h
  cases htext : text v with
  | bad i is =>
    rw [htext] at h
    cases h
  | ok s =>
    rw [htext, Checked.andThen] at h
    split at h
    · next hservice =>
      cases h
      rcases exists_dropSlashes s with ⟨slashes, hslashes, hparts, hlast⟩
      have haddress := Net.Url.addresses_of_isService hservice
      rw [hparts] at haddress
      exact ⟨haddress.of_append hslashes, hlast⟩
    · cases h
    · cases h

private theorem VaultSettings.not_blank_of_checkStatePath {v : Value} {path : String}
    (h : (checkStatePath v).value? = some path) : Text.isBlankText path = false := by
  rw [checkStatePath, Checked.value?_andThen_accept] at h
  have hkept := (Option.filter_eq_some_iff.mp h).2
  split at hkept
  · cases hkept
  · next hblank => exact Bool.eq_false_iff.mpr hblank

private theorem ClusterSettings.le_of_atLeast {least n : Int} {v : Value}
    (h : atLeast least v = some n) :
    least ≤ n := of_decide_eq_true (Option.filter_eq_some_iff.mp h).2

/-- Settings that are taken from their sources are sound. -/
theorem OperatorSettings.Taken.sound {vault cluster : List (Value × Value)}
    (h : settings.Taken env entries vault cluster) : settings.Sound where
  refreshInterval := by
    apply h.refreshInterval.satisfies (p := (180 ≤ ·)) (by decide)
    intro v n hn
    rcases Checked.map_eq_ok_iff.mp (Checked.value?_eq_some_iff.mp hn) with ⟨asked, -, rfl⟩
    exact Int.le_max_left minimumRefresh asked
  timeout := by
    apply h.cluster.timeout.satisfies (p := (0 < ·)) (by decide)
    intro v n hn
    exact ClusterSettings.le_of_atLeast hn
  retryAttempts := by
    apply h.cluster.retryAttempts.satisfies (p := (1 ≤ ·)) (by decide)
    intro v n hn
    exact ClusterSettings.le_of_atLeast hn
  apiUrl := by
    apply h.vault.apiUrl.satisfies (p := IsBase)
    · unfold IsBase Net.Url.Addresses
      decide
    · intro v url hurl
      exact VaultSettings.isBase_of_checkUrl hurl
  identityUrl := by
    apply h.vault.identityUrl.satisfies (p := IsBase)
    · unfold IsBase Net.Url.Addresses
      decide
    · intro v url hurl
      exact VaultSettings.isBase_of_checkUrl hurl
  statePath := by
    apply h.vault.statePath.satisfies (p := fun s => Text.isBlankText s = false) (by decide)
    intro v path hpath
    exact VaultSettings.not_blank_of_checkStatePath hpath

end SecretSync.Config

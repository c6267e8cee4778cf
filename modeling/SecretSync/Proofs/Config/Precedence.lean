import SecretSync.Proofs.Config.Sharing

/-!
# Where settings come from

A setting is that of its variable, else that of the file, else its default, whatever the others
are.  What is loaded is sound, a key that is not known is refused, and the mappings of the file are
left as they are.
-/

namespace SecretSync.Config

open Act
open Yaml (Value)

/-- A key around the sections, or in one of them, is not known. -/
def HasUnknownKey (entries : List (Value × Value)) : Prop :=
  ¬ Known OperatorSettings.names entries ∨
    (∃ vault, sectionOf? "bitwarden" entries = some vault ∧ ¬ Known VaultSettings.names vault) ∨
      ∃ cluster, sectionOf? "kubernetes" entries = some cluster ∧
        ¬ Known ClusterSettings.names cluster

variable {env : Environment} {entries : List (Value × Value)} {settings : OperatorSettings}
  {w : World}

/-- The settings are taken from the entries around the sections and from those of both sections. -/
def OperatorSettings.ComesFrom (settings : OperatorSettings) (env : Environment)
    (entries : List (Value × Value)) : Prop :=
  ∃ vault cluster, sectionOf? "bitwarden" entries = some vault ∧
    sectionOf? "kubernetes" entries = some cluster ∧ settings.Taken env entries vault cluster

namespace OperatorSettings

private theorem loaded_map_eq_ok_iff :
    loaded env (.map entries) = .ok settings ↔ settings.ComesFrom env entries := by
  rw [loaded_eq_ok_iff]
  simp only [entries?_map, Option.some.injEq, exists_eq_left']
  rfl

private theorem exists_ends_load_ok_iff :
    (∃ w', Ends (load env (.map entries)).run w (.ok settings) w') ↔
      settings.ComesFrom env entries := by
  rw [← loaded_map_eq_ok_iff]
  constructor
  · rintro ⟨w', hends⟩
    exact (ends_load hends).symm
  · intro hloaded
    rw [← hloaded]
    exact exists_ends_load env (.map entries) w

private theorem ComesFrom.not_hasUnknownKey (h : settings.ComesFrom env entries) :
    ¬ HasUnknownKey entries := by
  rcases h with ⟨vault, cluster, hvault, hcluster, htaken⟩
  rintro (hroot | ⟨vault', hvault', hkeys⟩ | ⟨cluster', hcluster', hkeys⟩)
  · exact hroot htaken.known
  · rw [hvault] at hvault'
    cases hvault'
    exact hkeys htaken.vault.known
  · rw [hcluster] at hcluster'
    cases hcluster'
    exact hkeys htaken.cluster.known

private theorem exists_ends_load_error (w : World) (hunknown : HasUnknownKey entries) :
    ∃ e w', Ends (load env (.map entries)).run w (.error e) w' := by
  rcases exists_ends_load env (.map entries) w with ⟨w', hends⟩
  cases hloaded : loaded env (.map entries) with
  | error e =>
    rw [hloaded] at hends
    exact ⟨e, w', hends⟩
  | ok settings =>
    exact absurd hunknown (loaded_map_eq_ok_iff.mp hloaded).not_hasUnknownKey

end OperatorSettings

/-- The settings of a file come from the mapping in it. -/
theorem exists_ends_load_ok_iff {folder : Files.Folder} {path : Option String} :
    (∃ w', Ends (load env folder path).run w (.ok settings) w') ↔
      ∃ entries, document folder path = .ok (.map entries) ∧ settings.ComesFrom env entries := by
  have hloaded : loadedFrom env folder path = .ok settings ↔
      ∃ entries, document folder path = .ok (.map entries) ∧ settings.ComesFrom env entries := by
    unfold loadedFrom
    constructor
    · intro h
      rcases Declaration.bind_eq_ok h with ⟨value, hdocument, h⟩
      rcases document_eq_ok hdocument with ⟨entries, rfl⟩
      refine ⟨entries, hdocument, OperatorSettings.loaded_map_eq_ok_iff.mp ?_⟩
      cases hresult : OperatorSettings.loaded env (.map entries) with
      | error e =>
        rw [hresult] at h
        cases h
      | ok s =>
        rw [hresult] at h
        cases h
        rfl
    · rintro ⟨entries, hdocument, hfrom⟩
      rw [hdocument]
      show (OperatorSettings.loaded env (.map entries)).mapError LoadError.settings = .ok settings
      rw [OperatorSettings.loaded_map_eq_ok_iff.mpr hfrom]
      rfl
  rw [← hloaded]
  constructor
  · rintro ⟨w', hends⟩
    exact (ends_load hends).symm
  · intro h
    rw [← h]
    exact exists_ends_load env folder path w

/-- Loading succeeds exactly if each setting can be taken from its variable, else from the file,
else from its default, which other settings have no part in; the result is sound, keys that are not
known are refused, and the mappings that the file was read into are not changed. -/
theorem settings_come_from_their_sources (env : Environment) :
    (∀ entries settings w,
      (∃ w', Ends (OperatorSettings.load env (.map entries)).run w (.ok settings) w') ↔
        settings.ComesFrom env entries) ∧
    (∀ folder path settings w, (∃ w', Ends (load env folder path).run w (.ok settings) w') ↔
      ∃ entries, document folder path = .ok (.map entries) ∧ settings.ComesFrom env entries) ∧
    (∀ {α : Type} (f : Field α) env' entries entries' a b,
      f.Chosen env entries a → f.Chosen env' entries' b →
        env.get? f.source.var = env'.get? f.source.var →
          Value.find? f.source.name entries = Value.find? f.source.name entries' → a = b) ∧
    (∀ entries settings, OperatorSettings.ComesFrom settings env entries → settings.Sound) ∧
    (∀ entries w, HasUnknownKey entries →
      ∃ e w', Ends (OperatorSettings.load env (.map entries)).run w (.error e) w') ∧
    ∀ (given : Memory) (item : Item) (depth : Nat), given.Parsed →
      item.Given given.cells.length → ∃ r m, InPlace.Runs (InPlace.load depth env item) given r m ∧
        given.cells <+: m.cells ∧
        ∀ w, ∃ w', Ends (OperatorSettings.load env (given.value (depth + 2) item)).run w r w' := by
  refine ⟨?_, ?_, ?_, ?_, ?_, ?_⟩
  · intro entries settings w
    exact OperatorSettings.exists_ends_load_ok_iff
  · intro folder path settings w
    exact exists_ends_load_ok_iff
  · intro α f env' entries entries' a b ha hb hvar hentry
    exact ha.eq_of_agree hb hvar hentry
  · rintro entries settings ⟨vault, cluster, -, -, htaken⟩
    exact htaken.sound
  · intro entries w hunknown
    exact OperatorSettings.exists_ends_load_error w hunknown
  · intro given item depth hgiven hitem
    rcases InPlace.load_runs env hgiven hitem depth with ⟨m, hruns, hkept⟩
    exact ⟨_, m, hruns, hkept, OperatorSettings.exists_ends_load env _⟩

namespace Sample

/-- An environment with one variable of the vault. -/
def environment : Environment := ⟨[("BW_API_URL", "https://vault.example/")], "/root", []⟩

/-- A file with a section, as it lies in memory. -/
def memory : Memory :=
  ⟨[[(.text "bitwarden", .mapping 1), (.text "refresh_interval", .value (.int 60))],
    [(.text "api_url", .value (.text "https://file.example"))]]⟩

/-- What lies in the memory. -/
def mapping : List (Value × Value) :=
  [(.text "bitwarden", .map [(.text "api_url", .text "https://file.example")]),
    (.text "refresh_interval", .int 60)]

/-- The settings from both, the address without its slash and the interval raised. -/
def mixture : OperatorSettings :=
  ⟨180, ⟨"https://vault.example", VaultSettings.default.identityUrl,
    VaultSettings.default.statePath⟩, ClusterSettings.default⟩

end Sample

open Sample (environment memory mapping mixture) in
/-- The variable beats the file, which stays as it is. -/
theorem variable_beats_file :
    (∃ m, InPlace.Runs (InPlace.load 0 environment (.mapping 0)) memory (.ok mixture) m ∧
      memory.cells <+: m.cells) ∧
    mixture.ComesFrom environment mapping ∧ mixture.Sound ∧
    ∃ e w', Ends (OperatorSettings.load environment
      (.map ((.text "api_url", .null) :: mapping))).run (World.atTime default) (.error e) w' := by
  obtain ⟨hmapping, -, -, hsound, hunknown, hmemory⟩ := settings_come_from_their_sources environment
  have hloaded : OperatorSettings.loaded environment (.map mapping) = .ok mixture := by rfl
  have hparsed : memory.Parsed := by
    intro cell hcell
    simp only [memory, List.mem_cons, List.not_mem_nil, or_false] at hcell
    rcases hcell with rfl | rfl <;> simp [Item.Given, memory]
  have hitem : (Item.mapping 0).Given memory.cells.length := Nat.zero_lt_two
  rcases hmemory memory (.mapping 0) 0 hparsed hitem with ⟨r, m, hruns, hkept, hload⟩
  rcases hload (World.atTime default) with ⟨w', hends⟩
  have hr : r = .ok mixture := (OperatorSettings.ends_load hends).trans hloaded
  rw [hr] at hruns hends
  have hfrom := (hmapping mapping mixture _).mp ⟨w', hends⟩
  have hkey : HasUnknownKey ((.text "api_url", .null) :: mapping) := by
    refine Or.inl (fun hknown => ?_)
    have hnames : checkKeys OperatorSettings.names ((.text "api_url", .null) :: mapping) ≠ .ok () :=
      nofun
    exact hnames (checkKeys_eq_ok_iff.mpr hknown)
  exact ⟨⟨m, hruns, hkept⟩, hfrom, hsound mapping mixture hfrom, hunknown _ _ hkey⟩

end SecretSync.Config

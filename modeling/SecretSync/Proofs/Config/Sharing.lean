import SecretSync.Proofs.Config.Loading

/-!
# Mappings that are shared

Mappings lie in memory, and the entries of one may point to others, so that what a file holds can be
reached in several ways.  Settings are put in place into the mappings that drafts are.  Loading in
place writes into copies only: it yields what loading does, and whatever was in memory before is
there unchanged, also when the settings are refused.
-/

namespace SecretSync

namespace Yaml.Value

variable {α β : Type} {f : α → β} {name : String} {a : α} {entries : List (Value × α)}

/-- What is found among mapped values is the mapped value. -/
theorem find?_map :
    find? name (entries.map (fun e => (e.1, f e.2))) = (find? name entries).map f := by
  induction entries with
  | nil => rfl
  | cons entry rest ih =>
    have hentry : find? name (entry :: rest) =
      if entry.1.sameKey (text name) then some entry.2 else find? name rest := find?_cons
    rw [List.map_cons, find?_cons, hentry, ih]
    split <;> rfl

/-- Mapping the values follows a put. -/
theorem map_put :
    (put (text name) a entries).map (fun e => (e.1, f e.2)) =
      put (text name) (f a) (entries.map (fun e => (e.1, f e.2))) := by
  induction entries with
  | nil => rfl
  | cons entry rest ih =>
    rcases entry with ⟨key, b⟩
    rw [List.map_cons, put, put]
    split
    · rfl
    · rw [List.map_cons, ih]

/-- What is found is the value of an entry. -/
theorem mem_of_find? (h : find? name entries = some a) : ∃ key, (key, a) ∈ entries := by
  rcases Option.map_eq_some_iff.mp h with ⟨entry, hentry, rfl⟩
  exact ⟨entry.1, List.mem_of_find?_eq_some hentry⟩

/-- What is put is the only new value. -/
theorem forall_mem_put {p : α → Prop} (ha : p a) (hentries : ∀ e ∈ entries, p e.2) :
    ∀ e ∈ put (text name) a entries, p e.2 := by
  induction entries with
  | nil => exact List.forall_mem_singleton.mpr ha
  | cons entry rest ih =>
    rw [List.forall_mem_cons] at hentries
    unfold put
    split
    · exact List.forall_mem_cons.mpr ⟨ha, hentries.2⟩
    · exact List.forall_mem_cons.mpr ⟨hentries.1, ih hentries.2⟩

end Yaml.Value

namespace Config

open Yaml (Value)

/-- What an entry of a mapping in memory holds. -/
inductive Item where
  | value (v : Value)
  /-- The mapping at an address. -/
  | mapping (address : Nat)
  /-- Settings that have been made of a section. -/
  | settings

/-- The mappings in memory, by their addresses. -/
structure Memory where
  cells : List (List (Value × Item))

namespace Memory

/-- The entries of the mapping at an address. -/
def cell (m : Memory) (address : Nat) : List (Value × Item) := m.cells.getD address []

/-- What an item stands for, with mappings followed to a depth. -/
def value (m : Memory) : Nat → Item → Value
  | _, .value v => v
  | 0, .mapping _ => .map []
  | depth + 1, .mapping address => .map ((m.cell address).map (fun e => (e.1, m.value depth e.2)))
  | _, .settings => .null

/-- What the entries of a mapping stand for. -/
def entries (m : Memory) (depth : Nat) (cell : List (Value × Item)) : List (Value × Value) :=
  cell.map (fun e => (e.1, m.value depth e.2))

end Memory

/-- A computation that changes mappings in place. -/
abbrev InPlace := ExceptT Error (StateM Memory)

/-- What a draft lies in. -/
inductive Place where
  | mapping (address : Nat)
  | nameless (v : Value)

namespace InPlace

variable {α β : Type}

/-- A result that does not depend on what is in memory. -/
def ofResult (r : Except Error α) : InPlace α := ExceptT.mk (pure r)

/-- Put a new mapping into memory. -/
def allocate (cell : List (Value × Item)) : InPlace Place := do
  let m ← getThe Memory
  set (Memory.mk (m.cells ++ [cell]))
  return .mapping m.cells.length

/-- Copy what a file has for a section. -/
def copy : Item → InPlace Place
  | .mapping address => do allocate ((← getThe Memory).cell address)
  | .settings => throw .notCopyable
  | .value v =>
    match Draft.ofValue v with
    | .ok (.named entries) => allocate (entries.map (fun e => (e.1, .value e.2)))
    | .ok (.nameless v) => return .nameless v
    | .error e => throw e

/-- Replace a setting in its place. -/
def assign (name : String) (item : Item) : Place → InPlace Unit
  | .mapping address => modify (fun m => ⟨m.cells.modify address (Value.put (.text name) item)⟩)
  | .nameless _ => throw .notAssignable

/-- Replace a setting in its place by the value of its variable, if that is set. -/
def override (env : Environment) (place : Place) (o : Override) : InPlace Unit :=
  match env.get? o.var with
  | none => return ()
  | some s => do assign o.name (.value (← ofResult (o.form.read s))) place

/-- A draft in its place. -/
def draft (env : Environment) (overrides : List Override) (item : Item) : InPlace Place := do
  let place ← copy item
  overrides.forM (override env place)
  return place

/-- What lies in a place. -/
def read (depth : Nat) : Place → InPlace Draft
  | .mapping address => do
    let m ← getThe Memory
    return .named (m.entries depth (m.cell address))
  | .nameless v => return .nameless v

/-- A section in a place, null if there is none. -/
def section? (name : String) : Place → InPlace Item
  | .mapping address => do
    return (Value.find? name ((← getThe Memory).cell address)).getD (.value .null)
  | .nameless _ => throw .notSearchable

/-- The settings of the vault, with the section drafted in place. -/
def loadVault (depth : Nat) (env : Environment) (item : Item) : InPlace VaultSettings := do
  let place ← draft env VaultSettings.sources item
  ofResult (VaultSettings.ofDraft (← read depth place))

/-- The settings of the cluster, with the section drafted in place. -/
def loadCluster (depth : Nat) (env : Environment) (item : Item) : InPlace ClusterSettings := do
  let place ← draft env ClusterSettings.sources item
  ofResult (ClusterSettings.ofDraft env (← read depth place))

/-- The settings that are made of a section take its place. -/
def settle (name : String) (make : Item → InPlace α) (place : Place) : InPlace α := do
  let settings ← make (← section? name place)
  assign name .settings place
  return settings

/-- All settings, drafted in place. -/
def load (depth : Nat) (env : Environment) (item : Item) : InPlace OperatorSettings := do
  let place ← draft env [OperatorSettings.refreshField.source] item
  let vault ← settle "bitwarden" (loadVault depth env) place
  let cluster ← settle "kubernetes" (loadCluster depth env) place
  match ← read (depth + 1) place with
  | .named entries => ofResult (OperatorSettings.conclude entries vault cluster)
  | .nameless _ => throw .notSearchable

/-! ### How computations run -/

/-- A computation that starts with a memory yields a result and leaves a memory. -/
def Runs (x : InPlace α) (m : Memory) (r : Except Error α) (m' : Memory) : Prop :=
  x.run.run m = (r, m')

variable {m m' m'' : Memory} {x : InPlace α} {f : α → InPlace β} {a : α} {e : Error}
  {r : Except Error β}

/-- Two runs one behind the other are a run of the bind. -/
theorem Runs.bind (hx : Runs x m (.ok a) m') (hf : Runs (f a) m' r m'') :
    Runs (x >>= f) m r m'' := by
  unfold Runs at hx hf ⊢
  rw [ExceptT.run_bind, StateT.run_bind, hx]
  exact hf

private theorem Runs.bind_error (hx : Runs x m (.error e) m') : Runs (x >>= f) m (.error e) m' := by
  unfold Runs at hx ⊢
  rw [ExceptT.run_bind, StateT.run_bind, hx]
  rfl

private theorem runs_ofResult {c : Except Error α} : Runs (ofResult c) m c m := rfl

end InPlace

/-! ### What lies in memory -/

/-- An item that a parser yields: a value, or a mapping that is in memory. -/
def Item.Given (size : Nat) : Item → Prop
  | .value _ => True
  | .mapping address => address < size
  | .settings => False

/-- A memory that a parser leaves: all mappings that entries point to are there. -/
def Memory.Parsed (m : Memory) : Prop :=
  ∀ cell ∈ m.cells, ∀ e ∈ cell, e.2.Given m.cells.length

variable {given base m m' : Memory} {item : Item} {depth address : Nat}
  {cell : List (Value × Item)}

private theorem Memory.value_value (v : Value) : m.value depth (.value v) = v := by
  cases depth <;> rfl

private theorem Memory.value_settings : m.value depth .settings = .null := by
  cases depth <;> rfl

private theorem Memory.entries_put {name : String} :
    m.entries depth (Value.put (.text name) item cell) =
      Value.put (.text name) (m.value depth item) (m.entries depth cell) := Value.map_put

/-- All that lies in a parsed cell was given with the memory. -/
theorem Memory.Parsed.items (h : given.Parsed) (haddress : address < given.cells.length) :
    ∀ e ∈ given.cell address, e.2.Given given.cells.length := by
  apply h
  rw [Memory.cell, List.getD_eq_getElem?_getD, List.getElem?_eq_getElem haddress]
  exact List.getElem_mem haddress

private theorem Memory.cell_eq (hkept : given.cells <+: m.cells)
    (haddress : address < given.cells.length) :
    m.cell address = given.cell address := by
  rcases hkept with ⟨more, hcells⟩
  rw [Memory.cell, Memory.cell, List.getD_eq_getElem?_getD, List.getD_eq_getElem?_getD, ← hcells,
    List.getElem?_append_left haddress]

/-- Further mappings in memory do not change what items stand for. -/
theorem Memory.Parsed.value_eq (h : given.Parsed) (hkept : given.cells <+: m.cells)
    (hitem : item.Given given.cells.length) : m.value depth item = given.value depth item := by
  induction depth generalizing item with
  | zero =>
    cases item with
    | value v => rfl
    | mapping address => rfl
    | settings => cases hitem
  | succ depth ih =>
    cases item with
    | value v => rfl
    | mapping address =>
      rw [Memory.value, Memory.value, Memory.cell_eq hkept hitem]
      congr 1
      apply List.map_congr_left
      intro e he
      rw [ih (h.items hitem e he)]
    | settings => cases hitem

private theorem Memory.Parsed.entries_eq (h : given.Parsed) (hkept : given.cells <+: m.cells)
    (hcell : ∀ e ∈ cell, e.2.Given given.cells.length) :
    m.entries depth cell = given.entries depth cell := by
  apply List.map_congr_left
  intro e he
  rw [h.value_eq hkept (hcell e he)]

/-! ### Drafts in place -/

/-- A place behind all that was in memory holds a draft. -/
inductive Holds (given base : Memory) (depth : Nat) (m : Memory) : Place → Draft → Prop
  | mapping {cell : List (Value × Item)} {later : List (List (Value × Item))}
    (cells : m.cells = base.cells ++ cell :: later)
    (items : ∀ e ∈ cell, e.2.Given given.cells.length) :
    Holds given base depth m (.mapping base.cells.length) (.named (given.entries depth cell))
  | nameless {v : Value} (kept : base.cells <+: m.cells) :
    Holds given base depth m (.nameless v) (.nameless v)

/-- A draft held in memory keeps the cells it was built over. -/
theorem Holds.kept {place : Place} {d : Draft} (h : Holds given base depth m place d) :
    base.cells <+: m.cells := by
  cases h with
  | mapping cells items => exact ⟨_, cells.symm⟩
  | nameless kept => exact kept

private theorem Memory.cell_append {later : List (List (Value × Item))}
    (hcells : m.cells = base.cells ++ cell :: later) : m.cell base.cells.length = cell := by
  rw [Memory.cell, hcells, List.getD_eq_getElem?_getD, List.getElem?_append_right (Nat.le_refl _),
    Nat.sub_self]
  rfl

/-- In memory, a mapping is changed in its place. -/
theorem InPlace.runs_assign {later : List (List (Value × Item))} {name : String}
    (hcells : m.cells = base.cells ++ cell :: later) :
    Runs (assign name item (.mapping base.cells.length)) m (.ok ())
      ⟨base.cells ++ Value.put (.text name) item cell :: later⟩ := by
  have hmodify : m.cells.modify base.cells.length (Value.put (.text name) item) =
      base.cells ++ Value.put (.text name) item cell :: later := by
    rw [hcells]
    simp [List.modify_eq_take_cons_drop]
  show (Except.ok (), Memory.mk (m.cells.modify _ _)) = _
  rw [hmodify]

private theorem Draft.ofValue_map (entries : List (Value × Value)) :
    Draft.ofValue (.map entries) = .ok (.named entries) := by
  cases entries with
  | nil => rfl
  | cons entry rest => rfl

/-- What a file has for a section is copied behind all that is in memory. -/
theorem InPlace.copy_runs (hgiven : given.Parsed) (hkept : given.cells <+: base.cells)
    (hitem : item.Given given.cells.length) (depth : Nat) :
    (∃ e, Runs (copy item) base (.error e) base ∧
        Draft.ofValue (given.value (depth + 1) item) = .error e) ∨
      ∃ place m d, Runs (copy item) base (.ok place) m ∧
        Draft.ofValue (given.value (depth + 1) item) = .ok d ∧
        Holds given base depth m place d := by
  cases item with
  | settings => cases hitem
  | mapping address =>
    refine Or.inr ⟨_, _, .named (given.entries depth (given.cell address)), rfl, ?_, ?_⟩
    · exact Draft.ofValue_map _
    · rw [Memory.cell_eq hkept hitem]
      exact .mapping rfl (hgiven.items hitem)
  | value v =>
    have hcopy : copy (.value v) = (match Draft.ofValue v with
      | .ok (.named entries) => allocate (entries.map (fun e => (e.1, .value e.2)))
      | .ok (.nameless v) => return .nameless v
      | .error e => throw e) := rfl
    have hvalue : given.value (depth + 1) (.value v) = v := rfl
    rw [hcopy, hvalue]
    cases hdraft : Draft.ofValue v with
    | error e => exact Or.inl ⟨e, rfl, rfl⟩
    | ok d =>
      cases d with
      | nameless v => exact Or.inr ⟨_, base, _, rfl, rfl, .nameless (List.prefix_refl _)⟩
      | named entries =>
        refine Or.inr ⟨_, _, _, rfl, rfl, ?_⟩
        have hentries :
            given.entries depth (entries.map (fun e => (e.1, .value e.2))) = entries := by
          unfold Memory.entries
          rw [List.map_map]
          apply List.map_id''
          intro e
          show (e.1, given.value depth (.value e.2)) = e
          rw [Memory.value_value]
        have hholds : Holds given base depth
            ⟨base.cells ++ [entries.map (fun e => (e.1, Item.value e.2))]⟩
            (.mapping base.cells.length)
            (.named (given.entries depth (entries.map (fun e => (e.1, .value e.2))))) := by
          apply Holds.mapping rfl
          intro e he
          rcases List.mem_map.mp he with ⟨entry, -, rfl⟩
          trivial
        rw [hentries] at hholds
        exact hholds

/-- A setting is replaced in its place as it is in a draft. -/
theorem InPlace.override_runs {place : Place} {d : Draft} (env : Environment) (o : Override)
    (h : Holds given base depth m place d) :
    (∃ e, Runs (override env place o) m (.error e) m ∧ o.apply env d = .error e) ∨
      ∃ m' d', Runs (override env place o) m (.ok ()) m' ∧ o.apply env d = .ok d' ∧
        Holds given base depth m' place d' := by
  unfold override Override.apply
  cases env.get? o.var with
  | none => exact Or.inr ⟨m, d, rfl, rfl, h⟩
  | some s =>
    dsimp only
    cases o.form.read s with
    | error e => exact Or.inl ⟨e, rfl, rfl⟩
    | ok v =>
      cases h with
      | nameless kept => exact Or.inl ⟨_, rfl, rfl⟩
      | @mapping cell later cells items =>
        refine Or.inr ⟨_, _, runs_ofResult.bind (runs_assign cells), rfl, ?_⟩
        have hput := @Memory.entries_put given (.value v) depth cell o.name
        rw [Memory.value_value] at hput
        rw [← hput]
        exact .mapping rfl (Value.forall_mem_put trivial items)

private theorem InPlace.overrides_run {place : Place} {d : Draft} (env : Environment)
    (overrides : List Override) (h : Holds given base depth m place d) :
    (∃ e m', Runs (overrides.forM (override env place)) m (.error e) m' ∧
        base.cells <+: m'.cells ∧ overrides.foldlM (fun d o => o.apply env d) d = .error e) ∨
      ∃ m' d', Runs (overrides.forM (override env place)) m (.ok ()) m' ∧
        overrides.foldlM (fun d o => o.apply env d) d = .ok d' ∧
        Holds given base depth m' place d' := by
  induction overrides generalizing m d with
  | nil => exact Or.inr ⟨m, d, rfl, rfl, h⟩
  | cons o rest ih =>
    have hfirst : (o :: rest).forM (override env place) = (do
      override env place o
      rest.forM (override env place)) := rfl
    rw [hfirst, List.foldlM_cons]
    rcases override_runs env o h with ⟨e, hruns, happly⟩ | ⟨m', d', hruns, happly, hholds⟩
    · rw [happly]
      exact Or.inl ⟨e, m, hruns.bind_error, h.kept, rfl⟩
    · rw [happly]
      rcases ih hholds with ⟨e, m'', hrest, hkept, hfold⟩ | ⟨m'', d'', hrest, hfold, hheld⟩
      · exact Or.inl ⟨e, m'', hruns.bind hrest, hkept, hfold⟩
      · exact Or.inr ⟨m'', d'', hruns.bind hrest, hfold, hheld⟩

/-- A draft in place is the draft of what is in memory, behind all that is there. -/
theorem InPlace.draft_runs (env : Environment) (overrides : List Override) (hgiven : given.Parsed)
    (hkept : given.cells <+: base.cells) (hitem : item.Given given.cells.length) (depth : Nat) :
    (∃ e m, Runs (draft env overrides item) base (.error e) m ∧ base.cells <+: m.cells ∧
        drafted env overrides (given.value (depth + 1) item) = .error e) ∨
      ∃ place m d, Runs (draft env overrides item) base (.ok place) m ∧
        drafted env overrides (given.value (depth + 1) item) = .ok d ∧
        Holds given base depth m place d := by
  unfold draft drafted
  rcases copy_runs hgiven hkept hitem depth with ⟨e, hcopy, hdraft⟩ |
    ⟨place, m, d, hcopy, hdraft, hholds⟩
  · rw [hdraft]
    exact Or.inl ⟨e, base, hcopy.bind_error, List.prefix_refl _, rfl⟩
  · rw [hdraft]
    rcases overrides_run env overrides hholds with ⟨e, m', hruns, hkept', hfold⟩ |
      ⟨m', d', hruns, hfold, hheld⟩
    · exact Or.inl ⟨e, m', hcopy.bind hruns.bind_error, hkept', hfold⟩
    · exact Or.inr ⟨place, m', d', hcopy.bind (hruns.bind rfl), hfold, hheld⟩

/-- A held draft is read back as it is. -/
theorem Holds.read {place : Place} {d : Draft} (h : Holds given base depth m place d)
    (hgiven : given.Parsed) (hkept : given.cells <+: base.cells) :
    InPlace.Runs (InPlace.read depth place) m (.ok d) m := by
  cases h with
  | nameless kept => rfl
  | @mapping cell later cells items =>
    have hentries : m.entries depth cell = given.entries depth cell :=
      hgiven.entries_eq (hkept.trans ⟨_, cells.symm⟩) items
    show (Except.ok (Draft.named (m.entries depth (m.cell base.cells.length))), m) = _
    rw [Memory.cell_append cells, hentries]

/-- What is made of a draft in place is made of the draft of what is in memory, and all that was
there stays. -/
theorem InPlace.draft_read_runs {α : Type} (env : Environment) (overrides : List Override)
    (k : Draft → Except Error α) (hgiven : given.Parsed) (hkept : given.cells <+: base.cells)
    (hitem : item.Given given.cells.length) (depth : Nat) :
    ∃ m, Runs (do
        let place ← draft env overrides item
        ofResult (k (← read depth place))) base
      (drafted env overrides (given.value (depth + 1) item) >>= k) m ∧ base.cells <+: m.cells := by
  rcases draft_runs env overrides hgiven hkept hitem depth with ⟨e, m, hruns, hstays, hdraft⟩ |
    ⟨place, m, d, hruns, hdraft, hholds⟩
  · rw [hdraft]
    exact ⟨m, hruns.bind_error, hstays⟩
  · rw [hdraft]
    have hread := hholds.read hgiven hkept
    exact ⟨m, hruns.bind (hread.bind runs_ofResult), hholds.kept⟩

/-! ### Loading in place -/

private theorem InPlace.loadVault_runs (env : Environment) (hgiven : given.Parsed)
    (hkept : given.cells <+: base.cells) (hitem : item.Given given.cells.length) (depth : Nat) :
    ∃ m, Runs (loadVault depth env item) base
        (VaultSettings.load env (given.value (depth + 1) item)) m ∧ base.cells <+: m.cells := by
  rw [VaultSettings.load_eq]
  exact draft_read_runs env _ VaultSettings.ofDraft hgiven hkept hitem depth

private theorem InPlace.loadCluster_runs (env : Environment) (hgiven : given.Parsed)
    (hkept : given.cells <+: base.cells) (hitem : item.Given given.cells.length) (depth : Nat) :
    ∃ m, Runs (loadCluster depth env item) base
        (ClusterSettings.load env (given.value (depth + 1) item)) m ∧ base.cells <+: m.cells := by
  rw [ClusterSettings.load_eq]
  exact draft_read_runs env _ (ClusterSettings.ofDraft env) hgiven hkept hitem depth

/-- What is found for a section is something that was there, or null. -/
theorem Item.given_find? {size : Nat} (hcell : ∀ e ∈ cell, e.2.Given size) (name : String) :
    ((Value.find? name cell).getD (.value .null)).Given size := by
  cases hfind : Value.find? name cell with
  | none => trivial
  | some item =>
    rcases Value.mem_of_find? hfind with ⟨key, hmem⟩
    exact hcell _ hmem

private theorem Memory.value_find? {name : String} :
    m.value depth ((Value.find? name cell).getD (.value .null)) =
      (Value.find? name (m.entries depth cell)).getD .null := by
  rw [Memory.entries, Value.find?_map]
  cases Value.find? name cell with
  | none => exact Memory.value_value _
  | some item => rfl

/-- The settings of a section are made of what was found for it, and only then take its place. -/
theorem InPlace.settle_runs {α : Type} {name : String} {make : Item → InPlace α}
    {r : Except Error α} {later : List (List (Value × Item))}
    (hcells : m.cells = base.cells ++ cell :: later)
    (hmake : ∃ m', Runs (make ((Value.find? name cell).getD (.value .null))) m r m' ∧
      m.cells <+: m'.cells) :
    (∃ e m', Runs (settle name make (.mapping base.cells.length)) m (.error e) m' ∧
        base.cells <+: m'.cells ∧ r = .error e) ∨
      ∃ a m' later, Runs (settle name make (.mapping base.cells.length)) m (.ok a) m' ∧
        r = .ok a ∧ m'.cells = base.cells ++ Value.put (.text name) .settings cell :: later := by
  have hfind : Runs (section? name (.mapping base.cells.length)) m
      (.ok ((Value.find? name cell).getD (.value .null))) m := by
    show (Except.ok ((Value.find? name (m.cell base.cells.length)).getD (.value .null)), m) = _
    rw [Memory.cell_append hcells]
  rcases hmake with ⟨m', hmake, more, hmore⟩
  have hcells' : m'.cells = base.cells ++ cell :: (later ++ more) := by
    rw [← hmore, hcells, List.append_assoc, List.cons_append]
  unfold settle
  cases r with
  | error e => exact Or.inl ⟨e, m', hfind.bind hmake.bind_error, ⟨_, hcells'.symm⟩, rfl⟩
  | ok a =>
    have hassign : Runs (assign name .settings (.mapping base.cells.length)) m' (.ok ())
      ⟨base.cells ++ Value.put (.text name) .settings cell :: (later ++ more)⟩ :=
        runs_assign hcells'
    exact Or.inr ⟨a, _, _, hfind.bind (hmake.bind (hassign.bind rfl)), rfl, rfl⟩

/-- Once the settings of both sections are in their places, the rest is checked. -/
theorem InPlace.conclude_runs {later : List (List (Value × Item))} {vault : VaultSettings}
    {cluster : ClusterSettings} (hgiven : given.Parsed)
    (hcell : ∀ e ∈ cell, e.2.Given given.cells.length)
    (hcells : m.cells = given.cells ++
      Value.put (.text "kubernetes") .settings (Value.put (.text "bitwarden") .settings cell) ::
        later) :
    Runs (do
        match ← read depth (.mapping given.cells.length) with
        | .named entries => ofResult (OperatorSettings.conclude entries vault cluster)
        | .nameless _ => throw .notSearchable) m
      (OperatorSettings.conclude (given.entries depth cell) vault cluster) m := by
  have hentries : m.entries depth (m.cell given.cells.length) =
      Value.put (.text "kubernetes") .null (Value.put (.text "bitwarden") .null
        (given.entries depth cell)) := by
    rw [Memory.cell_append hcells, Memory.entries_put, Memory.entries_put, Memory.value_settings,
      hgiven.entries_eq ⟨_, hcells.symm⟩ hcell]
  have hread : Runs (read depth (.mapping given.cells.length)) m
      (.ok (.named (m.entries depth (m.cell given.cells.length)))) m := rfl
  rw [hentries] at hread
  have hconclude : OperatorSettings.conclude (Value.put (.text "kubernetes") .null
      (Value.put (.text "bitwarden") .null (given.entries depth cell))) vault cluster =
      OperatorSettings.conclude (given.entries depth cell) vault cluster := by
    rw [OperatorSettings.conclude_put (by decide) (by decide) (by decide),
      OperatorSettings.conclude_put (by decide) (by decide) (by decide)]
  rw [← hconclude]
  exact hread.bind runs_ofResult

/-- Loading in place yields what loading yields, and leaves what was in memory as it was. -/
theorem InPlace.load_runs (env : Environment) (hgiven : given.Parsed)
    (hitem : item.Given given.cells.length) (depth : Nat) :
    ∃ m, Runs (load depth env item) given
        (OperatorSettings.loaded env (given.value (depth + 2) item)) m ∧
      given.cells <+: m.cells := by
  unfold load OperatorSettings.loaded
  rcases draft_runs env [OperatorSettings.refreshField.source] hgiven (List.prefix_refl _) hitem
    (depth + 1) with ⟨e, m, hdraft, hkept, hdrafted⟩ | ⟨place, m, d, hdraft, hdrafted, hholds⟩
  · rw [hdrafted]
    exact ⟨m, hdraft.bind_error, hkept⟩
  rw [hdrafted]
  cases hholds with
  | nameless hkept => exact ⟨m, hdraft.bind (Runs.bind_error rfl), hkept⟩
  | @mapping cell later hcells hcell =>
    -- The draft stays behind what was given, and the copies of the sections come behind it.
    have hofDraft : (Except.ok (Draft.named (given.entries (depth + 1) cell)) >>=
        OperatorSettings.ofDraft env) = (do
      let vault ← VaultSettings.load env
        ((Value.find? "bitwarden" (given.entries (depth + 1) cell)).getD .null)
      let cluster ← ClusterSettings.load env
        ((Value.find? "kubernetes" (given.entries (depth + 1) cell)).getD .null)
      OperatorSettings.conclude (given.entries (depth + 1) cell) vault cluster) := rfl
    rw [hofDraft, ← Memory.value_find?, ← Memory.value_find?]
    have hvaultLoads := loadVault_runs env hgiven ⟨_, hcells.symm⟩
      (Item.given_find? hcell "bitwarden") depth
    rcases settle_runs hcells hvaultLoads with
      ⟨e, m₁, hvault, hkept, hload⟩ | ⟨vault, m₁, later₁, hvault, hload, hcells₁⟩
    · rw [hload]
      exact ⟨m₁, hdraft.bind hvault.bind_error, hkept⟩
    rw [hload]
    have hclusterLoads := loadCluster_runs env hgiven ⟨_, hcells₁.symm⟩
      (Item.given_find? hcell "kubernetes") depth
    have hother : Value.find? "kubernetes" (Value.put (.text "bitwarden") .settings cell) =
      Value.find? "kubernetes" cell := Value.find?_put_of_ne (by decide)
    rw [← hother] at hclusterLoads ⊢
    rcases settle_runs hcells₁ hclusterLoads with
      ⟨e, m₂, hcluster, hkept, hload⟩ | ⟨cluster, m₂, later₂, hcluster, hload, hcells₂⟩
    · rw [hload]
      exact ⟨m₂, hdraft.bind (hvault.bind hcluster.bind_error), hkept⟩
    rw [hload]
    exact ⟨m₂, hdraft.bind (hvault.bind (hcluster.bind (conclude_runs hgiven hcell hcells₂))),
      ⟨_, hcells₂.symm⟩⟩

end Config
end SecretSync

import SecretSync.KeyMap.Basic

/-!
# What filled data tell of vault data

A key of filled data has the value of the last of its lines whose id has one, and an id gets back
the value of the first of its lines whose key has one.  An id comes back with its own value when no
other id is stored under one of its keys; `Tells` is this condition.
-/

namespace SecretSync.KeyMap

/-- The value that lines give a key: that of the last of them whose id has one. -/
def valueUnder (data : Data) (key : String) : KeyMap → Option (List UInt8)
  | [] => none
  | l :: m =>
    (valueUnder data key m).or (if l.keyName = key then data.get? l.secretId else none)

/-- The value that lines find for an id: that of the first of them whose key has one. -/
def valueFor (data : Data) (id : String) : KeyMap → Option (List UInt8)
  | [] => none
  | l :: m => (if l.secretId = id then data.get? l.keyName else none).or (valueFor data id m)

/-- A key map stores an id, and nothing else under the keys of that id. -/
def Tells (m : KeyMap) (id : String) : Prop :=
  (∃ l ∈ m, l.secretId = id) ∧
    ∀ l ∈ m, ∀ l' ∈ m, l.secretId = id → l'.keyName = l.keyName → l'.secretId = id

/-- No key is used for two different ids. -/
def Unambiguous (m : KeyMap) : Prop :=
  ∀ l ∈ m, ∀ l' ∈ m, l.keyName = l'.keyName → l.secretId = l'.secretId

/-- The vault data found in stored data; without a key map all of them. -/
def restoreOptional (m : Option KeyMap) (data : Data) : Data :=
  match m with
  | none => data
  | some m => m.restore data

variable {m pre post : KeyMap} {data other : Data} {id key : String} {v : List UInt8}

/-! ### Filling -/

private theorem get?_foldl_applyLine (m : KeyMap) (data acc : Data) (key : String) :
    (m.foldl (applyLine data) acc).get? key = (valueUnder data key m).or (acc.get? key) := by
  induction m generalizing acc with
  | nil => rfl
  | cons l m ih =>
    have hline : (applyLine data acc l).get? key =
        (if l.keyName = key then data.get? l.secretId else none).or (acc.get? key) := by
      unfold applyLine
      by_cases hk : l.keyName = key <;> cases data.get? l.secretId <;> simp [hk]
    rw [List.foldl_cons, ih, hline, valueUnder, Option.or_assoc]

/-- A key holds what its last mapping with a value brings. -/
theorem get?_apply (m : KeyMap) (data : Data) (key : String) :
    (m.apply data).get? key = valueUnder data key m := by
  rw [apply, get?_foldl_applyLine, Dict.get?_empty, Option.or_none]

/-- Of two maps in a row the later decides, where it brings a value. -/
theorem valueUnder_append (data : Data) (key : String) (pre post : KeyMap) :
    valueUnder data key (pre ++ post) =
      (valueUnder data key post).or (valueUnder data key pre) := by
  induction pre with
  | nil => rw [List.nil_append, valueUnder, Option.or_none]
  | cons l pre ih => rw [List.cons_append, valueUnder, ih, valueUnder, Option.or_assoc]

/-- A key is left out exactly when no id of its lines has a value. -/
theorem valueUnder_eq_none_iff :
    valueUnder data key m = none ↔ ∀ l ∈ m, l.keyName = key → data.get? l.secretId = none := by
  induction m with
  | nil => simp [valueUnder]
  | cons l m ih =>
    rw [valueUnder, Option.or_eq_none_iff, ih, List.forall_mem_cons, ite_eq_right_iff]
    exact and_comm

/-- A value under a key is that of an id of one of its lines. -/
theorem exists_of_valueUnder (h : valueUnder data key m = some v) :
    ∃ l ∈ m, l.keyName = key ∧ data.get? l.secretId = some v := by
  induction m with
  | nil => cases h
  | cons l m ih =>
    rw [valueUnder, Option.or_eq_some_iff] at h
    rcases h with h | ⟨-, h⟩
    · obtain ⟨l', hl', hk⟩ := ih h
      exact ⟨l', List.mem_cons_of_mem l hl', hk⟩
    · split at h
      · next hk => exact ⟨l, List.mem_cons_self, hk, h⟩
      · cases h

/-- Only the values of listed ids count. -/
theorem apply_congr (h : ∀ l ∈ m, data.get? l.secretId = other.get? l.secretId) :
    m.apply data = m.apply other := by
  have hfold : ∀ acc, m.foldl (applyLine data) acc = m.foldl (applyLine other) acc := by
    induction m with
    | nil => exact fun _ => rfl
    | cons l m ih =>
      rw [List.forall_mem_cons] at h
      intro acc
      rw [List.foldl_cons, List.foldl_cons, applyLine, h.1, ih h.2, ← applyLine]
  exact hfold Dict.empty

/-! ### Bringing back -/

private theorem get?_foldl_restoreLine (m : KeyMap) (data acc : Data) (id : String) :
    (m.foldl (restoreLine data) acc).get? id = (acc.get? id).or (valueFor data id m) := by
  induction m generalizing acc with
  | nil => rw [valueFor, Option.or_none]; rfl
  | cons l m ih =>
    have hline : (restoreLine data acc l).get? id =
        (acc.get? id).or (if l.secretId = id then data.get? l.keyName else none) := by
      unfold restoreLine
      by_cases hid : l.secretId = id <;> cases data.get? l.keyName <;> cases ha : acc.get? id <;>
        simp [hid, ha, Dict.get?_insertNew]
    rw [List.foldl_cons, ih, hline, valueFor, Option.or_assoc]

/-- An identifier gets back what the first key that holds it brings. -/
theorem get?_restore (m : KeyMap) (data : Data) (id : String) :
    (m.restore data).get? id = valueFor data id m := by
  rw [restore, get?_foldl_restoreLine, Dict.get?_empty, Option.none_or]

/-- Nothing comes back for an id exactly when no key of its lines has a value. -/
theorem valueFor_eq_none_iff :
    valueFor data id m = none ↔ ∀ l ∈ m, l.secretId = id → data.get? l.keyName = none := by
  induction m with
  | nil => simp [valueFor]
  | cons l m ih =>
    rw [valueFor, Option.or_eq_none_iff, ih, List.forall_mem_cons, ite_eq_right_iff]

/-- A value that comes back stands under a key of the id. -/
theorem exists_of_valueFor (h : valueFor data id m = some v) :
    ∃ l ∈ m, l.secretId = id ∧ data.get? l.keyName = some v := by
  induction m with
  | nil => cases h
  | cons l m ih =>
    rw [valueFor, Option.or_eq_some_iff] at h
    rcases h with h | ⟨-, h⟩
    · split at h
      · next hid => exact ⟨l, List.mem_cons_self, hid, h⟩
      · cases h
    · obtain ⟨l', hl', hid⟩ := ih h
      exact ⟨l', List.mem_cons_of_mem l hl', hid⟩

/-- An id with keys of its own comes back with its own value. -/
theorem Tells.get?_restore_apply (h : m.Tells id) (data : Data) :
    (m.restore (m.apply data)).get? id = data.get? id := by
  obtain ⟨⟨line, hline, hid⟩, hown⟩ := h
  rw [get?_restore]
  cases hv : data.get? id with
  | none =>
    rw [valueFor_eq_none_iff]
    intro l hl hlid
    rw [get?_apply, valueUnder_eq_none_iff]
    intro l' hl' hk
    rw [hown l hl l' hl' hlid hk, hv]
  | some v =>
    cases hfound : valueFor (m.apply data) id m with
    | none =>
      have hkey := valueFor_eq_none_iff.mp hfound line hline hid
      rw [get?_apply] at hkey
      have hnone := valueUnder_eq_none_iff.mp hkey line hline rfl
      rw [hid, hv] at hnone
      exact hnone.symm
    | some v' =>
      obtain ⟨l, hl, hlid, hkey⟩ := exists_of_valueFor hfound
      rw [get?_apply] at hkey
      obtain ⟨l', hl', hk, hv'⟩ := exists_of_valueUnder hkey
      rw [hown l hl l' hl' hlid hk, hv] at hv'
      exact hv'.symm

/-- In an unambiguous map every mapping tells its identifier. -/
theorem Unambiguous.tells (hm : m.Unambiguous) {l : Mapping} (hl : l ∈ m) : m.Tells l.secretId := by
  refine ⟨⟨l, hl, rfl⟩, ?_⟩
  intro a ha b hb hid hk
  exact (hm b hb a ha hk).trans hid

/-! ### Filling again -/

/-- Filling with what has come back, with changes added, is filling with the vault data with these
changes added. -/
theorem apply_restore_apply_merge {earlier : KeyMap}
    (h : ∀ l ∈ m, earlier.Tells l.secretId) (data changes : Data) :
    m.apply ((earlier.restore (earlier.apply data)).merge changes) =
      m.apply (data.merge changes) := by
  apply apply_congr
  intro l hl
  rw [Dict.get?_merge, Dict.get?_merge, (h l hl).get?_restore_apply]

/-- Under one unambiguous key map, or under none, nothing is lost from one filling to the next. -/
theorem applyOptional_restoreOptional_merge {m : Option KeyMap}
    (hm : ∀ lines, m = some lines → lines.Unambiguous) (data changes : Data) :
    applyOptional m ((restoreOptional m (applyOptional m data)).merge changes) =
      applyOptional m (data.merge changes) := by
  cases m with
  | none => rfl
  | some m => exact apply_restore_apply_merge (fun _ hl => (hm m rfl).tells hl) data changes

end SecretSync.KeyMap

import SecretSync.Config.Basic

/-!
# Drafts of a section

A section is drafted from the entries that a file has for it and from the variables that are set.
Drafting is the same for all sections but for the variables: they are taken one after the other,
and each replaces a setting.
-/

namespace SecretSync

namespace Yaml.Value

variable {α : Type} {name other : String} {key : Value} {a b : α} {entries : List (Value × α)}

/-- Only a text is the same key as a text. -/
theorem sameKey_text_iff : key.sameKey (text name) = true ↔ key = text name := by
  cases key with
  | text s => simp [sameKey, wholeNumber?]
  | real x => cases hx : x.toInt? <;> simp [sameKey, wholeNumber?, hx]
  | _ => simp [sameKey, wholeNumber?]

/-- The first entry whose key is the name decides. -/
theorem find?_cons :
    find? name ((key, a) :: entries) =
      if key.sameKey (text name) then some a else find? name entries := by
  cases hsame : key.sameKey (text name) with
  | true => simp [find?, hsame]
  | false => simp [find?, hsame]

/-- What is put under a name is found there. -/
theorem find?_put_self : find? name (put (text name) a entries) = some a := by
  induction entries with
  | nil => rw [put, find?_cons, if_pos (sameKey_text_iff.mpr rfl)]
  | cons entry rest ih =>
    unfold put
    split
    · next hsame => rw [find?_cons, if_pos hsame]
    · next hsame => rw [find?_cons, if_neg hsame, ih]

/-- Putting an entry under a name leaves what is found under another name. -/
theorem find?_put_of_ne (hne : other ≠ name) :
    find? other (put (text name) a entries) = find? other entries := by
  have hdiffer : ¬ (text name).sameKey (text other) = true := by
    rw [sameKey_text_iff, text.injEq]
    exact fun heq => hne heq.symm
  induction entries with
  | nil => rw [put, find?_cons, if_neg hdiffer]
  | cons entry rest ih =>
    have hentry : find? other (entry :: rest) =
      if entry.1.sameKey (text other) then some entry.2 else find? other rest := find?_cons
    rw [hentry]
    unfold put
    split
    · next hsame => rw [find?_cons, sameKey_text_iff.mp hsame, if_neg hdiffer, if_neg hdiffer]
    · rw [find?_cons, ih]

/-- An entry that is put stands where its key does, or behind all others. -/
theorem keys_put :
    (put (text name) a entries).map Prod.fst = entries.map Prod.fst ∨
      (put (text name) a entries).map Prod.fst = entries.map Prod.fst ++ [text name] := by
  induction entries with
  | nil => exact Or.inr rfl
  | cons entry rest ih =>
    unfold put
    split
    · exact Or.inl rfl
    · rcases ih with hkept | hnew
      · exact Or.inl (congrArg (entry.1 :: ·) hkept)
      · exact Or.inr (congrArg (entry.1 :: ·) hnew)

end Yaml.Value

namespace Config

open Yaml (Value)

variable {env : Environment} {value : Value} {entries : List (Value × Value)}

/-! ### Variables -/

/-- What the text of a variable is taken for. -/
inductive Form where
  | text
  | integer
  deriving DecidableEq

/-- The value that a text is taken for. -/
def Form.read : Form → String → Except Error Value
  | text, s => .ok (.text s)
  | integer, s => ((Text.Integer.ofSetting s).mapError .malformedVariable).map .int

private theorem Form.read_cases (form : Form) (s : String) :
    (∃ v, form.read s = .ok v) ∨ ∃ fault, form.read s = .error (.malformedVariable fault) := by
  cases form with
  | text => exact Or.inl ⟨_, rfl⟩
  | integer =>
    unfold read
    dsimp only
    cases Text.Integer.ofSetting s with
    | ok n => exact Or.inl ⟨_, rfl⟩
    | error fault => exact Or.inr ⟨fault, rfl⟩

/-- A variable that replaces a setting. -/
structure Override where
  name : String
  var : String
  form : Form
  deriving DecidableEq

namespace Override

variable {o : Override} {d : Draft}

/-- Replace the setting, if the variable is set. -/
def apply (env : Environment) (o : Override) (d : Draft) : Except Error Draft :=
  match env.get? o.var with
  | none => .ok d
  | some s => do d.set o.name (← o.form.read s)

/-- A source that reads text overrides by the text of its variable. -/
theorem apply_text (name var : String) :
    apply env ⟨name, var, .text⟩ d = d.overrideText env name var := rfl

/-- A source that reads a number overrides by the number in its variable. -/
theorem apply_integer (name var : String) :
    apply env ⟨name, var, .integer⟩ d = d.overrideInteger env name var := by
  unfold apply Draft.overrideInteger
  dsimp only
  cases env.get? var with
  | none => rfl
  | some s =>
    unfold Form.read
    dsimp only
    cases Text.Integer.ofSetting s <;> rfl

/-- If the variable is set, its text can be taken for a value. -/
def Reads (env : Environment) (o : Override) : Prop :=
  ∀ s, env.get? o.var = some s → ∃ v, o.form.read s = .ok v

/-- The value of the variable if that is set, else what entries have. -/
def sought (env : Environment) (o : Override) (entries : List (Value × Value)) : Option Value :=
  match env.get? o.var with
  | none => Value.find? o.name entries
  | some s => (o.form.read s).toOption

/-- The entries with the setting replaced, if the variable is set and can be read. -/
def put (env : Environment) (o : Override) (entries : List (Value × Value)) :
    List (Value × Value) :=
  match env.get? o.var with
  | none => entries
  | some s =>
    match o.form.read s with
    | .ok v => Value.put (.text o.name) v entries
    | .error _ => entries

private theorem apply_named (env : Environment) (o : Override) (entries : List (Value × Value)) :
    (o.Reads env ∧ o.apply env (.named entries) = .ok (.named (o.put env entries))) ∨
      (¬ o.Reads env ∧
        ∃ fault, o.apply env (.named entries) = .error (.malformedVariable fault)) := by
  unfold apply put Reads
  cases env.get? o.var with
  | none => exact Or.inl ⟨nofun, rfl⟩
  | some s =>
    rcases o.form.read_cases s with ⟨v, hread⟩ | ⟨fault, hread⟩
    · refine Or.inl ⟨?_, ?_⟩
      · rintro _ ⟨⟩
        exact ⟨v, hread⟩
      · simp only [hread]
        rfl
    · refine Or.inr ⟨?_, fault, ?_⟩
      · intro hreads
        rcases hreads s rfl with ⟨v, hv⟩
        rw [hread] at hv
        cases hv
      · simp only [hread]
        rfl

private theorem find?_put_self (hreads : o.Reads env) :
    Value.find? o.name (o.put env entries) = o.sought env entries := by
  unfold put sought
  cases hset : env.get? o.var with
  | none => rfl
  | some s =>
    rcases hreads s hset with ⟨v, hread⟩
    simp only [hread]
    exact Value.find?_put_self

/-- An override leaves what is found under another name. -/
theorem find?_put_of_ne {name : String} (hne : name ≠ o.name) :
    Value.find? name (o.put env entries) = Value.find? name entries := by
  unfold put
  split
  · rfl
  · split
    · exact Value.find?_put_of_ne hne
    · rfl

end Override

/-! ### Keys -/

/-- All keys of entries are some names. -/
def Known (names : List String) (entries : List (Value × Value)) : Prop :=
  ∀ key ∈ entries.map Prod.fst, ∃ name ∈ names, key = .text name

private theorem known_put {names : List String} {name : String} {v : Value} (hname : name ∈ names) :
    Known names (Value.put (.text name) v entries) ↔ Known names entries := by
  unfold Known
  rcases @Value.keys_put Value name v entries with hkeys | hkeys
  · rw [hkeys]
  · rw [hkeys, List.forall_mem_append, List.forall_mem_singleton]
    exact ⟨And.left, fun hknown => ⟨hknown, name, hname, rfl⟩⟩

private theorem Override.known_put {names : List String} {o : Override} (hname : o.name ∈ names) :
    Known names (o.put env entries) ↔ Known names entries := by
  unfold put
  split
  · rfl
  · split
    · exact Config.known_put hname
    · rfl

private theorem checkKey_eq_ok_iff {names : List String} {entry : Value × Value} :
    checkKey names entry = .ok () ↔ ∃ name ∈ names, entry.1 = .text name := by
  unfold checkKey
  split
  · next name hkey =>
    rw [hkey]
    by_cases hname : name ∈ names
    · simp [hname]
    · simp [hname, Schema.Checked.fault, Schema.Checked.under]
  · next hkey =>
    constructor
    · intro h
      cases h
    · rintro ⟨name, -, hname⟩
      exact absurd hname (hkey name)

/-- The keys of several entries are checked one after the other. -/
theorem checkKeys_cons {names : List String} {entry : Value × Value} :
    checkKeys names (entry :: entries) =
      ((checkKey names entry).map (fun _ u => u)).seq (checkKeys names entries) := by
  unfold checkKeys
  rw [Schema.Checked.all]
  cases checkKey names entry with
  | ok u => cases Schema.Checked.all (checkKey names) entries <;> rfl
  | bad i is => cases Schema.Checked.all (checkKey names) entries <;> rfl

/-- The check passes over exactly the entries whose keys are known. -/
theorem checkKeys_eq_ok_iff {names : List String} :
    checkKeys names entries = .ok () ↔ Known names entries := by
  induction entries with
  | nil =>
    constructor
    · rintro -
      exact nofun
    · rintro -
      rfl
  | cons entry rest ih =>
    unfold Known at ih ⊢
    rw [checkKeys_cons, List.map_cons, List.forall_mem_cons, ← ih, ← checkKey_eq_ok_iff]
    cases checkKey names entry with
    | ok u => cases checkKeys names rest <;> simp [Schema.Checked.map, Schema.Checked.seq]
    | bad i is =>
      cases checkKeys names rest <;> simp [Schema.Checked.map, Schema.Checked.seq]

/-- Whether all keys are known does not depend on what is put under a known one. -/
theorem checkKeys_put {names : List String} {name : String} {v : Value} (hname : name ∈ names) :
    checkKeys names (Value.put (.text name) v entries) = checkKeys names entries := by
  induction entries with
  | nil =>
    have hkey : checkKey names (.text name, v) = .ok () := checkKey_eq_ok_iff.mpr ⟨name, hname, rfl⟩
    rw [Value.put, checkKeys_cons, hkey]
    rfl
  | cons entry rest ih =>
    unfold Value.put
    split
    · rw [checkKeys_cons, checkKeys_cons]
      rfl
    · rw [checkKeys_cons, checkKeys_cons, ih]

/-- An override with a whole name breaks no key. -/
theorem hasBrokenKey_put {name : String} {v : Value} (hwhole : Text.hasHalf name = false) :
    hasBrokenKey (Value.put (.text name) v entries) = hasBrokenKey entries := by
  unfold hasBrokenKey
  induction entries with
  | nil => simp [Value.put, hwhole]
  | cons entry rest ih =>
    unfold Value.put
    split
    · rfl
    · rw [List.any_cons, List.any_cons, ih]

/-- A key that is one of some names without halves of surrogate pairs is not broken. -/
theorem hasBrokenKey_of_known {names : List String}
    (hwhole : ∀ name ∈ names, Text.hasHalf name = false) (hknown : Known names entries) :
    hasBrokenKey entries = false := by
  apply List.any_eq_false.mpr
  intro entry hentry
  rcases hknown entry.1 (List.mem_map_of_mem hentry) with ⟨name, hname, hkey⟩
  rw [hkey]
  exact Bool.eq_false_iff.mp (hwhole name hname)

/-! ### Sections -/

/-- The entries that a file has for a section, unless what it has is no mapping. -/
def entries? (value : Value) : Option (List (Value × Value)) :=
  if !value.isTruthy then some []
  else
    match value with
    | .map entries => some entries
    | _ => none

/-- A mapping is its entries. -/
theorem entries?_map : entries? (.map entries) = some entries := by
  cases entries with
  | nil => rfl
  | cons entry rest => rfl

/-- A collection without names that is not empty. -/
def IsNameless : Value → Prop
  | .seq items => items ≠ []
  | .pairs items => items ≠ []
  | .set members => members ≠ []
  | _ => False

/-- What a file has for a section has names, or is a collection without them, or has no settings at
all. -/
theorem Draft.ofValue_cases (value : Value) :
    (∃ entries, entries? value = some entries ∧ ofValue value = .ok (named entries)) ∨
      (entries? value = none ∧ IsNameless value ∧ ofValue value = .ok (nameless value)) ∨
      (entries? value = none ∧ ¬ IsNameless value ∧ ofValue value = .error .notCopyable) := by
  unfold entries? ofValue
  by_cases htruthy : value.isTruthy = true
  · simp only [htruthy, Bool.not_true]
    cases value <;> simp_all [IsNameless, Value.isTruthy]
  · simp only [htruthy]
    exact Or.inl ⟨[], rfl, rfl⟩

/-- A draft of what a file has for a section and of the variables that are set. -/
def drafted (env : Environment) (overrides : List Override) (value : Value) :
    Except Error Draft := do
  overrides.foldlM (fun d o => o.apply env d) (← Draft.ofValue value)

/-- Entries with the settings replaced whose variables are set. -/
def replaced (env : Environment) (overrides : List Override) (entries : List (Value × Value)) :
    List (Value × Value) :=
  overrides.foldl (fun entries o => o.put env entries) entries

/-- The first of some variables that is set, with its text. -/
def firstSet? (env : Environment) (overrides : List Override) : Option (Form × String) :=
  overrides.findSome? (fun o => (env.get? o.var).map (o.form, ·))

variable {overrides : List Override} {o : Override}

/-- What no override names is found as before. -/
theorem find?_replaced_of_not_mem {name : String} (hother : name ∉ overrides.map Override.name) :
    Value.find? name (replaced env overrides entries) = Value.find? name entries := by
  induction overrides generalizing entries with
  | nil => rfl
  | cons first rest ih =>
    rw [List.map_cons, List.mem_cons, not_or] at hother
    rw [replaced, List.foldl_cons, ← replaced, ih hother.2, Override.find?_put_of_ne hother.1]

/-- With one variable for each setting, a setting is that of its variable or of the entries. -/
theorem find?_replaced (hnodup : (overrides.map Override.name).Nodup) (hmem : o ∈ overrides)
    (hreads : o.Reads env) :
    Value.find? o.name (replaced env overrides entries) = o.sought env entries := by
  induction overrides generalizing entries with
  | nil => cases hmem
  | cons first rest ih =>
    rw [List.map_cons, List.nodup_cons] at hnodup
    rw [replaced, List.foldl_cons, ← replaced]
    rcases List.mem_cons.mp hmem with rfl | hrest
    · rw [find?_replaced_of_not_mem hnodup.1, Override.find?_put_self hreads]
    · have hne : o.name ≠ first.name := by
        intro heq
        exact hnodup.1 (heq ▸ List.mem_map_of_mem hrest)
      rw [ih hnodup.2 hrest]
      unfold Override.sought
      rw [Override.find?_put_of_ne hne]

/-- Overrides with known names leave the keys as known as they were. -/
theorem known_replaced {names : List String} (hnames : ∀ o ∈ overrides, o.name ∈ names) :
    Known names (replaced env overrides entries) ↔ Known names entries := by
  induction overrides generalizing entries with
  | nil => rfl
  | cons first rest ih =>
    rw [List.forall_mem_cons] at hnames
    rw [replaced, List.foldl_cons, ← replaced, ih hnames.2, Override.known_put hnames.1]

/-- Overrides all apply, or one of them cannot be read and the whole fails on it. -/
theorem foldlM_named (env : Environment) (overrides : List Override)
    (entries : List (Value × Value)) :
    ((∀ o ∈ overrides, o.Reads env) ∧
        overrides.foldlM (fun d o => o.apply env d) (.named entries) =
          .ok (.named (replaced env overrides entries))) ∨
      ((∃ o ∈ overrides, ¬ o.Reads env) ∧ ∃ fault,
        overrides.foldlM (fun d o => o.apply env d) (.named entries) =
          .error (.malformedVariable fault)) := by
  induction overrides generalizing entries with
  | nil => exact Or.inl ⟨nofun, rfl⟩
  | cons first rest ih =>
    rw [List.foldlM_cons]
    rcases first.apply_named env entries with ⟨hreads, happly⟩ | ⟨hbad, fault, happly⟩
    · rw [happly]
      rcases ih (first.put env entries) with ⟨hrest, hfold⟩ | ⟨⟨o, ho, hbad⟩, hfold⟩
      · exact Or.inl ⟨List.forall_mem_cons.mpr ⟨hreads, hrest⟩, hfold⟩
      · exact Or.inr ⟨⟨o, List.mem_cons_of_mem _ ho, hbad⟩, hfold⟩
    · rw [happly]
      exact Or.inr ⟨⟨first, List.mem_cons_self, hbad⟩, fault, rfl⟩

/-- In a collection without names the first variable that is set decides. -/
theorem foldlM_nameless (env : Environment) (overrides : List Override) (value : Value) :
    overrides.foldlM (fun d o => o.apply env d) (.nameless value) =
      match firstSet? env overrides with
      | none => .ok (.nameless value)
      | some (form, s) => (form.read s).bind (fun _ => .error .notAssignable) := by
  induction overrides with
  | nil => rfl
  | cons first rest ih =>
    rw [List.foldlM_cons, firstSet?, List.findSome?_cons, Override.apply]
    cases env.get? first.var with
    | none => exact ih
    | some s =>
      dsimp only [Option.map_some]
      cases first.form.read s with
      | error e => rfl
      | ok v => rfl

/-- No draft can be made of what a file has for a section: it has no settings at all, or it is a
collection without names in which a variable is to replace a setting. -/
inductive Undraftable (env : Environment) (overrides : List Override) (value : Value) :
    Error → Prop
  | settingless (unnamed : entries? value = none) (single : ¬ IsNameless value) :
    Undraftable env overrides value .notCopyable
  | fixed {form : Form} {s : String} {v : Value} (collection : IsNameless value)
    (set : firstSet? env overrides = some (form, s)) (reads : form.read s = .ok v) :
    Undraftable env overrides value .notAssignable

private theorem entries?_of_isNameless {value : Value} (h : IsNameless value) :
    entries? value = none := by
  unfold entries?
  cases value <;> simp_all [IsNameless, Value.isTruthy]

/-- A value that cannot be drafted fails with just that error. -/
theorem Undraftable.drafted {value : Value} {e : Error} (h : Undraftable env overrides value e) :
    drafted env overrides value = .error e := by
  unfold Config.drafted
  cases h with
  | settingless unnamed single =>
    rcases Draft.ofValue_cases value with ⟨entries, hentries, -⟩ | ⟨-, hnameless, -⟩ |
      ⟨-, -, hdraft⟩
    · rw [unnamed] at hentries
      cases hentries
    · exact absurd hnameless single
    · rw [hdraft]
      rfl
  | fixed collection set reads =>
    have hunnamed := entries?_of_isNameless collection
    rcases Draft.ofValue_cases value with ⟨entries, hentries, -⟩ | ⟨-, -, hdraft⟩ |
      ⟨-, hsingle, -⟩
    · rw [hunnamed] at hentries
      cases hentries
    · have hfold := foldlM_nameless env overrides value
      simp only [set, reads] at hfold
      rw [hdraft]
      exact hfold
    · exact absurd collection hsingle

/-- How drafts are made. -/
theorem drafted_cases (env : Environment) (overrides : List Override) (value : Value) :
    (∃ entries, entries? value = some entries ∧ (∀ o ∈ overrides, o.Reads env) ∧
        drafted env overrides value = .ok (.named (replaced env overrides entries))) ∨
      (IsNameless value ∧ firstSet? env overrides = none ∧
        drafted env overrides value = .ok (.nameless value)) ∨
      ∃ e, drafted env overrides value = .error e ∧
        ((∃ fault, e = .malformedVariable fault) ∨ Undraftable env overrides value e) := by
  unfold drafted
  rcases Draft.ofValue_cases value with ⟨entries, hentries, hdraft⟩ |
    ⟨hentries, hnameless, hdraft⟩ | ⟨hentries, hsingle, hdraft⟩
  · rw [hdraft]
    rcases foldlM_named env overrides entries with ⟨hreads, hfold⟩ | ⟨-, fault, hfold⟩
    · exact Or.inl ⟨entries, hentries, hreads, hfold⟩
    · exact Or.inr (Or.inr ⟨_, hfold, Or.inl ⟨fault, rfl⟩⟩)
  · have hfold := foldlM_nameless env overrides value
    rw [hdraft]
    cases hset : firstSet? env overrides with
    | none =>
      rw [hset] at hfold
      exact Or.inr (Or.inl ⟨hnameless, rfl, hfold⟩)
    | some first =>
      rw [hset] at hfold
      refine Or.inr (Or.inr ?_)
      rcases first.1.read_cases first.2 with ⟨v, hread⟩ | ⟨fault, hread⟩
      · simp only [hread] at hfold
        exact ⟨_, hfold, Or.inr (.fixed hnameless hset hread)⟩
      · simp only [hread] at hfold
        exact ⟨_, hfold, Or.inl ⟨fault, rfl⟩⟩
  · rw [hdraft]
    exact Or.inr (Or.inr ⟨_, rfl, Or.inr (.settingless hentries hsingle)⟩)

end Config
end SecretSync

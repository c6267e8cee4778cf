/-!
# Insertion-ordered dictionaries

A dictionary is a list of bindings whose keys are pairwise distinct.  Overwriting a
binding keeps its place, a new key goes to the end, and erasing a key forgets its place.
The view is `get?`; `get?_insert`, `get?_insertNew`, `get?_erase` and `get?_merge` say
what each operation does to it.
-/

namespace SecretSync

universe u v w

/-- Bindings in the order of their first insertion, no key bound twice. -/
structure Dict (κ : Type u) (α : Type v) where
  /-- The bindings, oldest first. -/
  entries : List (κ × α)
  /-- No key is bound twice. -/
  nodup_keys : (entries.map Prod.fst).Nodup

namespace Dict

variable {κ : Type u} {α : Type v} {β : Type w}

/-- Dictionaries are equal when their bindings are, in order. -/
theorem ext {a b : Dict κ α} (h : a.entries = b.entries) : a = b := by
  cases a; cases b; cases h; rfl

/-- Equality of dictionaries can be decided by their bindings. -/
instance [DecidableEq κ] [DecidableEq α] : DecidableEq (Dict κ α) := fun a b =>
  decidable_of_iff (a.entries = b.entries) ⟨ext, fun h => h ▸ rfl⟩

/-- A dictionary is shown as the list of its bindings. -/
instance [Repr κ] [Repr α] : Repr (Dict κ α) := ⟨fun d p => reprPrec d.entries p⟩

/-- The dictionary without bindings. -/
def empty : Dict κ α := ⟨[], List.nodup_nil⟩

/-- The empty dictionary is there for any keys and values. -/
instance : Inhabited (Dict κ α) := ⟨empty⟩

/-- The keys, oldest first. -/
def keys (d : Dict κ α) : List κ := d.entries.map Prod.fst

/-- The bound values, oldest first. -/
def values (d : Dict κ α) : List α := d.entries.map Prod.snd

/-- Whether nothing is bound. -/
def isEmpty (d : Dict κ α) : Bool := d.entries.isEmpty

/-- Number of bindings. -/
def size (d : Dict κ α) : Nat := d.entries.length

/-- Apply a function to every value; keys and their order stay. -/
def mapValues (f : α → β) (d : Dict κ α) : Dict κ β :=
  ⟨d.entries.map (fun p => (p.1, f p.2)), by
    have h : (d.entries.map (fun p => (p.1, f p.2))).map Prod.fst = d.entries.map Prod.fst := by
      simp [List.map_map, Function.comp_def]
    rw [h]; exact d.nodup_keys⟩

variable [DecidableEq κ]

/-- Value of the first binding of `k` in a list of bindings. -/
def lookup (k : κ) : List (κ × α) → Option α
  | [] => none
  | (k', a) :: rest => if k' = k then some a else lookup k rest

/-- Value bound to a key. -/
def get? (d : Dict κ α) (k : κ) : Option α := lookup k d.entries

/-- Whether a key is bound. -/
def contains (d : Dict κ α) (k : κ) : Bool := (d.get? k).isSome

/-- Overwrite the binding of `k` in a list of bindings, or append one. -/
def put (k : κ) (a : α) : List (κ × α) → List (κ × α)
  | [] => [(k, a)]
  | (k', b) :: rest => if k' = k then (k, a) :: rest else (k', b) :: put k a rest

private theorem mem_keys_put {k x : κ} {a : α} {l : List (κ × α)} :
    x ∈ (put k a l).map Prod.fst ↔ x = k ∨ x ∈ l.map Prod.fst := by
  induction l with
  | nil => simp [put]
  | cons p l ih =>
    obtain ⟨k', b⟩ := p
    by_cases h : k' = k
    · subst h; simp [put]
    · simp only [put, if_neg h, List.map_cons, List.mem_cons, ih]
      constructor
      · rintro (h | h | h) <;> simp [h]
      · rintro (h | h | h) <;> simp [h]

private theorem nodup_put {k : κ} {a : α} {l : List (κ × α)} (hl : (l.map Prod.fst).Nodup) :
    ((put k a l).map Prod.fst).Nodup := by
  induction l with
  | nil => simp [put]
  | cons p l ih =>
    obtain ⟨k', b⟩ := p
    simp only [List.map_cons, List.nodup_cons] at hl
    by_cases h : k' = k
    · subst h; simpa [put] using hl
    · simp only [put, if_neg h, List.map_cons, List.nodup_cons, mem_keys_put]
      exact ⟨fun hc => hc.elim h hl.1, ih hl.2⟩

/-- Bind a key: an existing binding is overwritten in place, a new one goes to the end. -/
def insert (d : Dict κ α) (k : κ) (a : α) : Dict κ α := ⟨put k a d.entries, nodup_put d.nodup_keys⟩

/-- Bind a key only if it is not bound yet. -/
def insertNew (d : Dict κ α) (k : κ) (a : α) : Dict κ α :=
  if d.contains k then d else d.insert k a

/-- Remove a binding. -/
def erase (d : Dict κ α) (k : κ) : Dict κ α :=
  ⟨d.entries.filter (fun p => p.1 ≠ k), by
    have h := List.filter_sublist (p := fun p : κ × α => decide (p.1 ≠ k)) (l := d.entries)
    exact (h.map Prod.fst).nodup d.nodup_keys⟩

/-- Bind every pair of a list in order, later ones winning. -/
def insertAll (d : Dict κ α) (l : List (κ × α)) : Dict κ α :=
  l.foldl (fun acc p => acc.insert p.1 p.2) d

/-- The dictionary of a list of pairs; of pairs with one key the last wins. -/
def ofList (l : List (κ × α)) : Dict κ α := empty.insertAll l

/-- Add all bindings of `e` to `d`, those of `e` winning. -/
def merge (d e : Dict κ α) : Dict κ α := d.insertAll e.entries

/-- The empty dictionary holds no key. -/
@[simp] theorem get?_empty (k : κ) : (empty : Dict κ α).get? k = none := rfl

/-- A put entry is found under its key, and every other key finds what it found. -/
theorem lookup_put (k k' : κ) (a : α) (l : List (κ × α)) :
    lookup k' (put k a l) = if k = k' then some a else lookup k' l := by
  induction l with
  | nil => rfl
  | cons p l ih =>
    obtain ⟨x, b⟩ := p
    by_cases h : x = k
    · subst h; by_cases h' : x = k' <;> simp [put, lookup, h']
    · simp only [put, if_neg h, lookup, ih]
      by_cases h' : x = k'
      · subst h'; simp [Ne.symm h]
      · simp [h']

/-- A key finds the inserted value, and every other key what it found before. -/
@[simp] theorem get?_insert (d : Dict κ α) (k k' : κ) (a : α) :
    (d.insert k a).get? k' = if k = k' then some a else d.get? k' :=
  lookup_put k k' a d.entries

/-- A new key finds the inserted value, and a key that is held keeps its own. -/
theorem get?_insertNew (d : Dict κ α) (k k' : κ) (a : α) :
    (d.insertNew k a).get? k' = if k = k' then some ((d.get? k).getD a) else d.get? k' := by
  unfold insertNew contains
  by_cases hk : k = k'
  · subst hk; cases h : d.get? k <;> simp [h]
  · cases d.get? k <;> simp [hk]

private theorem lookup_filter_ne (k k' : κ) (l : List (κ × α)) :
    lookup k' (l.filter (fun p => p.1 ≠ k)) = if k = k' then none else lookup k' l := by
  induction l with
  | nil => simp [lookup]
  | cons p l ih =>
    obtain ⟨x, b⟩ := p
    by_cases h : x = k
    · subst h; by_cases h' : x = k' <;> simp_all [lookup]
    · by_cases h' : x = k'
      · subst h'; simp [lookup, h, Ne.symm h]
      · simp_all [lookup]

/-- An erased key is not found, and every other key finds what it found before. -/
@[simp] theorem get?_erase (d : Dict κ α) (k k' : κ) :
    (d.erase k).get? k' = if k = k' then none else d.get? k' :=
  lookup_filter_ne k k' d.entries

/-- The last entry of a key decides, and without one the dictionary does. -/
theorem get?_insertAll (l : List (κ × α)) (d : Dict κ α) (k : κ) :
    (d.insertAll l).get? k = ((lookup k l.reverse).or (d.get? k)) := by
  induction l generalizing d with
  | nil => simp [insertAll, lookup]
  | cons p l ih =>
    have h : ∀ m : List (κ × α), lookup k (m ++ [p]) = (lookup k m).or (lookup k [p]) := by
      intro m
      induction m with
      | nil => simp [lookup]
      | cons q m ihm => by_cases hq : q.1 = k <;> simp_all [lookup]
    have step : d.insertAll (p :: l) = (d.insert p.1 p.2).insertAll l := rfl
    rw [step, ih, List.reverse_cons, h, get?_insert]
    by_cases hp : p.1 = k <;> cases lookup k l.reverse <;> simp [lookup, hp]

private theorem lookup_eq_some_of_mem {l : List (κ × α)} (hl : (l.map Prod.fst).Nodup) {k : κ}
    {a : α}
    (h : (k, a) ∈ l) : lookup k l = some a := by
  induction l with
  | nil => simp at h
  | cons p l ih =>
    obtain ⟨x, b⟩ := p
    simp only [List.map_cons, List.nodup_cons] at hl
    rcases List.mem_cons.1 h with h | h
    · cases h; simp [lookup]
    · have hx : x ≠ k := by
        rintro rfl
        exact hl.1 (List.mem_map_of_mem h)
      simp [lookup, hx, ih hl.2 h]

private theorem mem_of_lookup_eq_some {l : List (κ × α)} {k : κ} {a : α} (h : lookup k l = some a) :
    (k, a) ∈ l := by
  induction l with
  | nil => simp [lookup] at h
  | cons p l ih =>
    obtain ⟨x, b⟩ := p
    by_cases hx : x = k
    · subst hx; simp [lookup] at h; simp [h]
    · simp only [lookup, if_neg hx] at h; simp [ih h]

/-- A binding is listed exactly when looking its key up gives its value. -/
theorem mem_entries_iff {d : Dict κ α} {k : κ} {a : α} : (k, a) ∈ d.entries ↔ d.get? k = some a :=
  ⟨lookup_eq_some_of_mem d.nodup_keys, mem_of_lookup_eq_some⟩

private theorem lookup_map (f : α → β) (k : κ) (l : List (κ × α)) :
    lookup k (l.map (fun p => (p.1, f p.2))) = (lookup k l).map f := by
  induction l with
  | nil => rfl
  | cons p l ih => by_cases h : p.1 = k <;> simp [lookup, h, ih]

/-- A key finds its value mapped. -/
@[simp] theorem get?_mapValues (f : α → β) (d : Dict κ α) (k : κ) :
    (d.mapValues f).get? k = (d.get? k).map f := lookup_map f k d.entries

private theorem put_of_not_mem {k : κ} {a : α} {l : List (κ × α)} (h : k ∉ l.map Prod.fst) :
    put k a l = l ++ [(k, a)] := by
  induction l with
  | nil => rfl
  | cons p l ih =>
    rw [List.map_cons, List.mem_cons, not_or] at h
    simp [put, Ne.symm h.1, ih h.2]

/-- A key that is put stays where it is, or comes behind all others. -/
theorem keys_put (k : κ) (a : α) (l : List (κ × α)) :
    (put k a l).map Prod.fst =
      if (lookup k l).isSome then l.map Prod.fst else l.map Prod.fst ++ [k] := by
  induction l with
  | nil => rfl
  | cons p l ih =>
    rcases p with ⟨k', b⟩
    rw [put, lookup]
    by_cases h : k' = k
    · simp [h]
    · rw [if_neg h, if_neg h, List.map_cons, ih]
      split
      · rfl
      · rfl

/-- An insertion puts a new key at the end and moves no other one. -/
theorem keys_insert (d : Dict κ α) (k : κ) (a : α) :
    (d.insert k a).keys = if (d.get? k).isSome then d.keys else d.keys ++ [k] :=
  keys_put k a d.entries

/-- Erasing keeps the order of the keys that stay. -/
theorem keys_erase_sublist (d : Dict κ α) (k : κ) : (d.erase k).keys.Sublist d.keys :=
  List.filter_sublist.map Prod.fst

/-- Binding new keys one after another appends the bindings. -/
theorem entries_insertAll (l : List (κ × α)) (d : Dict κ α)
    (h : ((d.entries ++ l).map Prod.fst).Nodup) : (d.insertAll l).entries = d.entries ++ l := by
  induction l generalizing d with
  | nil => simp [insertAll]
  | cons p l ih =>
    have hp : p.1 ∉ d.entries.map Prod.fst := by
      rw [List.map_append, List.nodup_append] at h
      intro hm
      exact h.2.2 p.1 hm p.1 (by simp) rfl
    have hd : (d.insert p.1 p.2).entries = d.entries ++ [p] := put_of_not_mem hp
    have step : d.insertAll (p :: l) = (d.insert p.1 p.2).insertAll l := rfl
    rw [step, ih _ (by rw [hd, List.append_assoc]; exact h), hd, List.append_assoc]
    rfl

/-- A dictionary is that of its own bindings. -/
theorem ofList_entries (d : Dict κ α) : ofList d.entries = d :=
  ext (entries_insertAll d.entries empty d.nodup_keys)

/-- The empty dictionary takes over what is merged into it. -/
theorem empty_merge (d : Dict κ α) : empty.merge d = d := ofList_entries d

/-- After a merge the newer dictionary decides, and the older one where that has no such key. -/
theorem get?_merge (d e : Dict κ α) (k : κ) : (d.merge e).get? k = (e.get? k).or (d.get? k) := by
  unfold merge
  rw [get?_insertAll]
  congr 1
  have hr : (e.entries.reverse.map Prod.fst).Nodup := by
    rw [List.map_reverse]; exact List.pairwise_reverse.2 (e.nodup_keys.imp Ne.symm)
  cases h : e.get? k with
  | some a => exact lookup_eq_some_of_mem hr (List.mem_reverse.2 (mem_entries_iff.2 h))
  | none =>
    cases h' : lookup k e.entries.reverse with
    | none => rfl
    | some a =>
      have := mem_entries_iff.1 (List.mem_reverse.1 (mem_of_lookup_eq_some h'))
      rw [h] at this; cases this

end Dict
end SecretSync

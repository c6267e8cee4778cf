import SecretSync.Data.Dict

/-!
# Changing the values of results and dictionaries

Results that are the same behind two functions fail alike or have values that are.  What a
dictionary does to its keys does not depend on its values: a function may be applied to the values
before or after.
-/

namespace SecretSync

/-- Results that look alike are the same error, or values that look alike. -/
theorem map_eq_map_cases {ε α β γ : Type} {x : Except ε α} {y : Except ε β} {f : α → γ} {g : β → γ}
    (h : x.map f = y.map g) :
    (∃ e, x = .error e ∧ y = .error e) ∨ ∃ a b, x = .ok a ∧ y = .ok b ∧ f a = g b := by
  cases x with
  | error e =>
    cases y with
    | error e' =>
      cases h
      exact Or.inl ⟨e, rfl, rfl⟩
    | ok b => cases h
  | ok a =>
    cases y with
    | error e => cases h
    | ok b => exact Or.inr ⟨a, b, rfl, rfl, Except.ok.inj h⟩

namespace Dict

universe u v w

variable {κ : Type u} {α : Type v} {β : Type w}

/-- Mapping the values keeps the number of entries. -/
theorem size_mapValues (f : α → β) (d : Dict κ α) : (d.mapValues f).size = d.size :=
  List.length_map _

variable [DecidableEq κ]

private theorem put_map (f : α → β) (k : κ) (a : α) (l : List (κ × α)) :
    (put k a l).map (fun p => (p.1, f p.2)) = put k (f a) (l.map (fun p => (p.1, f p.2))) := by
  induction l with
  | nil => rfl
  | cons p l ih =>
    by_cases h : p.1 = k
    · simp [put, h]
    · simp [put, h, ih]

/-- Mapping the values follows an insertion. -/
theorem mapValues_insert (f : α → β) (d : Dict κ α) (k : κ) (a : α) :
    (d.insert k a).mapValues f = (d.mapValues f).insert k (f a) := ext (put_map f k a d.entries)

/-- Mapping the values follows an erasure. -/
theorem mapValues_erase (f : α → β) (d : Dict κ α) (k : κ) :
    (d.erase k).mapValues f = (d.mapValues f).erase k := by
  apply ext
  change (d.entries.filter _).map _ = (d.entries.map _).filter _
  rw [List.filter_map]
  rfl

/-- Mapping the values keeps which keys are held. -/
theorem contains_mapValues (f : α → β) (d : Dict κ α) (k : κ) :
    (d.mapValues f).contains k = d.contains k := by
  rw [contains, contains, get?_mapValues, Option.isSome_map]

/-- Mapping the values follows the insertion of a new key. -/
theorem mapValues_insertNew (f : α → β) (d : Dict κ α) (k : κ) (a : α) :
    (d.insertNew k a).mapValues f = (d.mapValues f).insertNew k (f a) := by
  unfold insertNew
  rw [contains_mapValues]
  split
  · rfl
  · exact mapValues_insert f d k a

private theorem mapValues_insertAll (f : α → β) (d : Dict κ α) (l : List (κ × α)) :
    (d.insertAll l).mapValues f = (d.mapValues f).insertAll (l.map (fun p => (p.1, f p.2))) := by
  induction l generalizing d with
  | nil => rfl
  | cons p l ih =>
    change ((d.insert p.1 p.2).insertAll l).mapValues f = _
    rw [ih, mapValues_insert]
    rfl

/-- Mapping the values follows the building from a list. -/
theorem mapValues_ofList (f : α → β) (l : List (κ × α)) :
    (ofList l).mapValues f = ofList (l.map (fun p => (p.1, f p.2))) := mapValues_insertAll f empty l

/-- Mapping the values follows a merge. -/
theorem mapValues_merge (f : α → β) (d e : Dict κ α) :
    (d.merge e).mapValues f = (d.mapValues f).merge (e.mapValues f) :=
  mapValues_insertAll f d e.entries

end Dict
end SecretSync

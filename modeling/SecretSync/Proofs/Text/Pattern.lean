import SecretSync.Text.Pattern

/-!
# Which texts have a form

Matching goes on character by character and simplifies the pattern on its way.  Here it is told of
whole texts: a text has one form behind another exactly if it can be cut into a front that has the
first one and a rest that has the second.
-/

namespace SecretSync.Text.Pattern

variable {a b : Pattern} {p : Char → Bool} {cs : List Char} {c : Char}

private theorem accepts_done : done.accepts cs = true ↔ cs = [] := by
  cases cs with
  | nil => exact iff_of_true rfl rfl
  | cons c cs =>
    have hnever : done.accepts (c :: cs) = false := accepts_never cs
    simp [hnever]

/-- A set of characters accepts just one of them. -/
theorem accepts_char : (char p).accepts cs = true ↔ ∃ c, p c = true ∧ cs = [c] := by
  cases cs with
  | nil => simp [accepts, acceptsEmpty]
  | cons c cs =>
    have hafter : (char p).accepts (c :: cs) = (if p c then done else never).accepts cs := rfl
    rw [hafter]
    by_cases hp : p c = true
    · rw [if_pos hp, accepts_done]
      constructor
      · rintro rfl
        exact ⟨c, hp, rfl⟩
      · rintro ⟨d, -, heq⟩
        exact (List.cons.inj heq).2
    · rw [if_neg hp, accepts_never]
      refine iff_of_false Bool.false_ne_true ?_
      rintro ⟨d, hd, heq⟩
      rw [(List.cons.inj heq).1] at hp
      exact hp hd

private theorem accepts_choice (a b : Pattern) (cs : List Char) :
    (choice a b).accepts cs = (a.accepts cs || b.accepts cs) := by
  unfold choice
  split
  · rw [accepts_never, Bool.false_or]
  · rw [accepts_never, Bool.or_false]
  · exact accepts_either _ _ cs

/-- A text can be cut into a front that has a form and a rest that has another one. -/
def Cuts (a b : Pattern) (cs : List Char) : Prop :=
  ∃ front rest, cs = front ++ rest ∧ a.accepts front = true ∧ b.accepts rest = true

private theorem cuts_nil : Cuts a b [] ↔ a.acceptsEmpty = true ∧ b.acceptsEmpty = true := by
  constructor
  · rintro ⟨front, rest, hcut, hfront, hrest⟩
    obtain ⟨rfl, rfl⟩ := List.append_eq_nil_iff.mp hcut.symm
    exact ⟨hfront, hrest⟩
  · rintro ⟨hfront, hrest⟩
    exact ⟨[], [], rfl, hfront, hrest⟩

/-- The front of a text that begins with a character is empty or begins with it. -/
theorem cuts_cons : Cuts a b (c :: cs) ↔
    a.acceptsEmpty = true ∧ (b.after c).accepts cs = true ∨ Cuts (a.after c) b cs := by
  constructor
  · rintro ⟨front, rest, hcut, hfront, hrest⟩
    cases front with
    | nil =>
      rw [List.nil_append] at hcut
      subst hcut
      exact Or.inl ⟨hfront, hrest⟩
    | cons d front =>
      obtain ⟨rfl, rfl⟩ := List.cons.inj hcut
      exact Or.inr ⟨front, rest, rfl, hfront, hrest⟩
  · rintro (⟨hempty, hrest⟩ | ⟨front, rest, rfl, hfront, hrest⟩)
    · exact ⟨[], c :: cs, rfl, hempty, hrest⟩
    · exact ⟨c :: front, rest, rfl, hfront, hrest⟩

/-- What is left out where forms are joined could not have matched. -/
theorem accepts_join (hseq : (seq a b).accepts cs = true ↔ Cuts a b cs) :
    (join a b).accepts cs = true ↔ Cuts a b cs := by
  unfold join
  split
  · rw [accepts_never]
    refine iff_of_false Bool.false_ne_true ?_
    rintro ⟨front, rest, -, hfront, -⟩
    rw [accepts_never] at hfront
    cases hfront
  · constructor
    · intro h
      exact ⟨[], cs, rfl, rfl, h⟩
    · rintro ⟨front, rest, rfl, hfront, hrest⟩
      rw [accepts_done.mp hfront]
      exact hrest
  · exact hseq

/-- A text has one form behind another exactly if it can be cut between them. -/
theorem accepts_append : (a ++ b).accepts cs = true ↔ Cuts a b cs := by
  show (seq a b).accepts cs = true ↔ Cuts a b cs
  induction cs generalizing a with
  | nil =>
    rw [cuts_nil]
    exact Bool.and_eq_true_iff
  | cons c cs ih =>
    have hjoin := accepts_join (ih (a := a.after c))
    have hafter : (seq a b).accepts (c :: cs) =
        (if a.acceptsEmpty then choice (join (a.after c) b) (b.after c)
          else join (a.after c) b : Pattern).accepts cs := rfl
    rw [hafter, cuts_cons]
    by_cases hempty : a.acceptsEmpty = true
    · rw [if_pos hempty, accepts_choice, Bool.or_eq_true, hjoin, or_comm]
      simp [hempty]
    · rw [if_neg hempty, hjoin]
      simp [hempty]

/-- The pattern for anything accepts any text. -/
theorem accepts_anything (cs : List Char) : anything.accepts cs = true := by
  induction cs with
  | nil => rfl
  | cons c cs ih => exact ih

end SecretSync.Text.Pattern

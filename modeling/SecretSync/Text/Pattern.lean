/-!
# Patterns

A pattern describes which texts have a form.  Whether a text has it is decided character by
character: what a pattern asks of a text that begins with `c` is what `after c` asks of the rest.
-/

namespace SecretSync.Text

/-- A form of text. -/
inductive Pattern where
  /-- No text at all. -/
  | never
  /-- The empty text. -/
  | done
  /-- One character of a class. -/
  | char (p : Char → Bool)
  | seq (first second : Pattern)
  | either (one other : Pattern)
  /-- Any number of repetitions. -/
  | many (one : Pattern)

namespace Pattern

/-- One pattern behind another. -/
instance : Append Pattern := ⟨seq⟩

/-- One of several forms. -/
def oneOf : List Pattern → Pattern
  | [] => never
  | [p] => p
  | p :: ps => either p (oneOf ps)

/-- One of the characters of a text. -/
def among (s : String) : Pattern := char (s.toList.contains ·)

/-- Exactly this text. -/
def literal (s : String) : Pattern := s.toList.foldr (fun c p => seq (char (· == c)) p) done

/-- One of several texts. -/
def words (ws : List String) : Pattern := oneOf (ws.map literal)

/-- The form, or nothing. -/
def optional (p : Pattern) : Pattern := either done p

/-- One or more repetitions. -/
def some (p : Pattern) : Pattern := seq p (many p)

/-- Exactly so many repetitions. -/
def times (p : Pattern) : Nat → Pattern
  | 0 => done
  | n + 1 => seq p (times p n)

/-- A decimal digit. -/
def digit : Pattern := char (fun c => '0' ≤ c && c ≤ '9')

/-- Any text. -/
def anything : Pattern := many (char (fun _ => true))

/-- Whether the empty text has the form. -/
def acceptsEmpty : Pattern → Bool
  | never => false
  | done => true
  | char _ => false
  | seq a b => a.acceptsEmpty && b.acceptsEmpty
  | either a b => a.acceptsEmpty || b.acceptsEmpty
  | many _ => true

/-- One form behind another, with what cannot match left out. -/
def join : Pattern → Pattern → Pattern
  | never, _ => never
  | done, q => q
  | p, q => seq p q

/-- One of two forms, with what cannot match left out. -/
def choice : Pattern → Pattern → Pattern
  | never, q => q
  | p, never => p
  | p, q => either p q

/-- What is asked of the rest of a text that begins with `c`. -/
def after (c : Char) : Pattern → Pattern
  | never => never
  | done => never
  | char p => if p c then done else never
  | seq a b =>
    if a.acceptsEmpty then choice (join (a.after c) b) (b.after c) else join (a.after c) b
  | either a b => choice (a.after c) (b.after c)
  | many a => join (a.after c) (many a)

/-- Whether a text has the form. -/
def accepts : Pattern → List Char → Bool
  | p, [] => p.acceptsEmpty
  | p, c :: cs => (p.after c).accepts cs

/-- Nothing has the form of `never`. -/
theorem accepts_never (cs : List Char) : never.accepts cs = false := by
  induction cs with
  | nil => rfl
  | cons c cs ih => exact ih

/-- A choice between two forms takes the texts of both. -/
theorem accepts_either (a b : Pattern) (cs : List Char) :
    (either a b).accepts cs = (a.accepts cs || b.accepts cs) := by
  induction cs generalizing a b with
  | nil => rfl
  | cons c cs ih =>
    have choice_eq (p q : Pattern) : (choice p q).accepts cs = (p.accepts cs || q.accepts cs) := by
      unfold choice
      split
      · simp [accepts_never]
      · simp [accepts_never]
      · exact ih _ _
    exact choice_eq _ _

end Pattern
end SecretSync.Text

import SecretSync.Schema.Issue

/-!
# Checking all members of a record

A checked value is a value or the issues that speak against it.  Checks of several members are
combined so that the issues of all of them are kept, in the order of the members.
-/

namespace SecretSync.Schema

/-- A value, or at least one issue. -/
inductive Checked (α : Type) where
  | ok (value : α)
  | bad (first : Issue) (rest : List Issue)
  deriving Repr

namespace Checked

variable {α β : Type}

/-- A single fault at the place of the value itself. -/
def fault (f : Fault) : Checked α := bad ⟨[], f⟩ []

/-- Apply a function to the value. -/
def map (f : α → β) : Checked α → Checked β
  | ok a => ok (f a)
  | bad i is => bad i is

/-- Apply a checked function to a checked value, keeping the issues of both. -/
def seq (f : Checked (α → β)) (a : Checked α) : Checked β :=
  match f, a with
  | ok f, ok a => ok (f a)
  | ok _, bad i is => bad i is
  | bad i is, ok _ => bad i is
  | bad i is, bad j js => bad i (is ++ j :: js)

/-- The value of a check can be mapped. -/
instance : Functor Checked := ⟨fun f a => map f a, fun b a => map (fun _ => b) a⟩

/-- Two checks side by side tell the issues of both. -/
instance : Seq Checked := ⟨fun f a => seq f (a ())⟩

/-- A further check of a value that has passed. -/
def andThen (a : Checked α) (check : α → Checked β) : Checked β :=
  match a with
  | ok a => check a
  | bad i is => bad i is

/-- The check of a value that stands one part further in. -/
def under (part : Part) : Checked α → Checked α
  | ok a => ok a
  | bad i is => bad (i.under part) (is.map (Issue.under part))

/-- Check each value of a list. -/
def all (check : β → Checked α) : List β → Checked (List α)
  | [] => ok []
  | b :: rest => seq (map List.cons (check b)) (all check rest)

/-- Check each item of a list, under its index. -/
def items (check : β → Checked α) (values : List β) : Checked (List α) :=
  all (fun p => (check p.1).under (.item p.2)) (values.zipIdx.map (fun p => (p.1, (p.2 : Int))))

/-- The value, or the rejection of a record with a name. -/
def run (title : String) : Checked α → Except Rejection α
  | ok a => .ok a
  | bad i is => .error ⟨title, i, is⟩

/-- A check applied to a check passes exactly if both do. -/
@[simp] theorem seq_eq_ok_iff {f : Checked (α → β)} {a : Checked α} {b : β} :
    seq f a = ok b ↔ ∃ g x, f = ok g ∧ a = ok x ∧ g x = b := by
  cases f <;> cases a <;> simp [seq]

/-- A mapped check passes exactly if the check does. -/
@[simp] theorem map_eq_ok_iff {f : α → β} {a : Checked α} {b : β} :
    map f a = ok b ↔ ∃ x, a = ok x ∧ f x = b := by
  cases a <;> simp [map]

end Checked
end SecretSync.Schema

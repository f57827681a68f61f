import SignOn.Shape.Violation

/-!
Results of checking a value. Checks of several parts side by side keep all their violations, in the order of the parts.
-/

namespace SignOn

/-- A checked value, or what is wrong with it. -/
inductive Checked (α : Type) where
  | valid (a : α)
  | invalid (violations : List Violation)
  deriving DecidableEq

namespace Checked

variable {α β : Type}

/-- One violation at the place itself. -/
def refuse (kind : Violation.Kind) : Checked α :=
  .invalid [⟨[], kind⟩]

def map (f : α → β) : Checked α → Checked β
  | .valid a => .valid (f a)
  | .invalid vs => .invalid vs

/-- Both parts checked: violations of the first come first. -/
def both (f : Checked (α → β)) (a : Checked α) : Checked β :=
  match f, a with
  | .valid f, .valid a => .valid (f a)
  | .valid _, .invalid vs => .invalid vs
  | .invalid us, .valid _ => .invalid us
  | .invalid us, .invalid vs => .invalid (us ++ vs)

instance : Functor Checked := ⟨map, fun a => map (fun _ => a)⟩

instance : Applicative Checked where
  pure := .valid
  seq f a := both f (a ())

/-- The violations moved further out. -/
def within (name : String) : Checked α → Checked α
  | .valid a => .valid a
  | .invalid vs => .invalid (vs.map (Violation.within name))

@[simp] theorem map_valid (f : α → β) (a : α) : f <$> Checked.valid a = .valid (f a) := rfl

@[simp] theorem map_invalid (f : α → β) (vs : List Violation) :
    f <$> (Checked.invalid vs : Checked α) = .invalid vs := rfl

@[simp] theorem valid_seq_valid (f : α → β) (a : α) : Checked.valid f <*> Checked.valid a = .valid (f a) := rfl

@[simp] theorem valid_seq_invalid (f : α → β) (vs : List Violation) :
    Checked.valid f <*> (Checked.invalid vs : Checked α) = .invalid vs := rfl

@[simp] theorem invalid_seq_valid (us : List Violation) (a : α) :
    (Checked.invalid us : Checked (α → β)) <*> Checked.valid a = .invalid us := rfl

@[simp] theorem invalid_seq_invalid (us vs : List Violation) :
    (Checked.invalid us : Checked (α → β)) <*> (Checked.invalid vs : Checked α) = .invalid (us ++ vs) := rfl

theorem map_eq_valid_iff (f : α → β) (x : Checked α) (b : β) : f <$> x = .valid b ↔ ∃ a, x = .valid a ∧ f a = b := by
  cases x with
  | valid a => simp
  | invalid vs => simp

theorem seq_eq_valid_iff (f : Checked (α → β)) (x : Checked α) (b : β) :
    f <*> x = .valid b ↔ ∃ g a, f = .valid g ∧ x = .valid a ∧ g a = b := by
  cases f with
  | valid g => cases x <;> simp
  | invalid us => cases x <;> simp

@[simp] theorem within_eq_valid_iff (name : String) (x : Checked α) (a : α) : x.within name = .valid a ↔ x = .valid a := by
  cases x <;> simp [within]

end Checked

end SignOn

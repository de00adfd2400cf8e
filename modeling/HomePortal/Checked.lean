import HomePortal.Problem
import HomePortal.Value.Basic
/-!
Reading data into a type with all its problems: the fields of a record are read side by side, and
what is wrong with any of them is told in their order.
-/

namespace HomePortal

/-- A reading: a value, or at least one problem, or a number too large to be looked at, which ends
the reading whatever else is wrong. -/
inductive Checked (α : Type) where
  | valid (a : α)
  | refused (first : Problem) (more : List Problem)
  | overflow

namespace Checked

variable {α β : Type}

def refuse (cause : Cause) : Checked α :=
  refused ⟨[], cause⟩ []

def map (f : α → β) : Checked α → Checked β
  | valid a => valid (f a)
  | refused first more => refused first more
  | overflow => overflow

def ap : Checked (α → β) → Checked α → Checked β
  | valid f, valid a => valid (f a)
  | overflow, _ | _, overflow => overflow
  | valid _, refused first more => refused first more
  | refused first more, valid _ => refused first more
  | refused first more, refused second others => refused first (more ++ second :: others)

instance : Functor Checked where
  map := map

instance : Seq Checked where
  seq f a := ap f (a ())

def andThen (a : Checked α) (f : α → Checked β) : Checked β :=
  match a with
  | valid a => f a
  | refused first more => refused first more
  | overflow => overflow

def under (step : String) : Checked α → Checked α
  | valid a => valid a
  | refused first more =>
    let place := fun (p : Problem) => { p with path := step :: p.path }
    refused (place first) (more.map place)
  | overflow => overflow

def items (read : Value → Checked α) (number : Nat) : List Value → Checked (List α)
  | [] => valid []
  | item :: rest =>
    List.cons <$> (read item).under (toString number) <*> items read (number + 1) rest

end Checked

end HomePortal

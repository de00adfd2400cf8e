import HomePortal.Value.Basic
/-!
Data without infinities and without numbers that are none, which cannot be sent as JSON.
-/

namespace HomePortal

def Scalar.isFinite : Scalar → Bool
  | float x => x.isFinite
  | _ => true

mutual

def Value.isFinite : Value → Bool
  | .scalar s => s.isFinite
  | .list items => Value.allFinite items
  | .pair a b => a.isFinite && b.isFinite
  | .set members => members.all Scalar.isFinite
  | .mapping entries => Value.entriesFinite entries

def Value.allFinite : List Value → Bool
  | [] => true
  | item :: rest => item.isFinite && Value.allFinite rest

def Value.entriesFinite : List (Scalar × Value) → Bool
  | [] => true
  | (key, value) :: rest => key.isFinite && value.isFinite && Value.entriesFinite rest

end

end HomePortal

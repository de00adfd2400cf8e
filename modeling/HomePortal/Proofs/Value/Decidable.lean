import HomePortal.Value.Basic
/-!
Whether two pieces of foreign data are the same part by part, which can be decided.
-/

namespace HomePortal.Value

mutual

def beq : Value → Value → Bool
  | scalar a, scalar b => a == b
  | list xs, list ys => beqItems xs ys
  | pair a b, pair c d => beq a c && beq b d
  | set xs, set ys => xs == ys
  | mapping xs, mapping ys => beqEntries xs ys
  | _, _ => false

def beqItems : List Value → List Value → Bool
  | [], [] => true
  | x :: xs, y :: ys => beq x y && beqItems xs ys
  | _, _ => false

def beqEntries : List (Scalar × Value) → List (Scalar × Value) → Bool
  | [], [] => true
  | (key, x) :: xs, (other, y) :: ys => key == other && (beq x y && beqEntries xs ys)
  | _, _ => false

end

mutual

theorem beq_iff (v w : Value) : beq v w = true ↔ v = w := by
  cases v with
  | scalar a => cases w <;> simp [beq]
  | list xs => cases w <;> simp [beq, beqItems_iff xs]
  | pair a b => cases w <;> simp [beq, beq_iff a, beq_iff b]
  | set xs => cases w <;> simp [beq]
  | mapping xs => cases w <;> simp [beq, beqEntries_iff xs]

theorem beqItems_iff (xs ys : List Value) : beqItems xs ys = true ↔ xs = ys := by
  cases xs with
  | nil => cases ys <;> simp [beqItems]
  | cons x rest => cases ys <;> simp [beqItems, beq_iff x, beqItems_iff rest]

theorem beqEntries_iff (xs ys : List (Scalar × Value)) : beqEntries xs ys = true ↔ xs = ys := by
  cases xs with
  | nil => cases ys <;> simp [beqEntries]
  | cons entry rest =>
    obtain ⟨key, x⟩ := entry
    cases ys with
    | nil => simp [beqEntries]
    | cons other others =>
      simp [beqEntries, Prod.ext_iff, beq_iff x, beqEntries_iff rest, and_assoc]

end

instance : DecidableEq Value :=
  fun v w => decidable_of_iff _ (beq_iff v w)

end HomePortal.Value

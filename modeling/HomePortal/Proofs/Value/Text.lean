import HomePortal.Proofs.Value.Entries
import HomePortal.Value.Text
/-!
What is written out: integers of few digits are, and data is if all that stands in it is.
-/

namespace HomePortal

theorem Scalar.hasText_int_iff {n : Int} :
    (int n).hasText = true ↔ n.natAbs < Nat.pow 10 maxDigits := by
  rw [hasText, decide_eq_true_iff]

theorem Scalar.hasText_of_lt {n : Int} (h : n.natAbs < 100) : (int n).hasText = true := by
  have hbound : 100 ≤ Nat.pow 10 maxDigits := by decide +kernel
  exact hasText_int_iff.2 (Nat.lt_of_lt_of_le h hbound)

namespace Value

theorem hasText_scalar (s : Scalar) : (scalar s).hasText = s.hasText := by
  rw [hasText]

theorem itemsHaveText_iff {items : List Value} :
    itemsHaveText items = true ↔ ∀ v ∈ items, v.hasText = true := by
  induction items with
  | nil => simp [itemsHaveText]
  | cons item rest ih => rw [itemsHaveText, Bool.and_eq_true, ih, List.forall_mem_cons]

theorem entriesHaveText_iff {entries : Entries} : entriesHaveText entries = true ↔
    ∀ entry ∈ entries, entry.1.hasText = true ∧ entry.2.hasText = true := by
  induction entries with
  | nil => simp [entriesHaveText]
  | cons entry rest ih =>
    rw [entriesHaveText, Bool.and_eq_true, Bool.and_eq_true, ih, List.forall_mem_cons, and_assoc]

theorem entriesHaveText_set {entries : Entries} {v : Value} (h : entriesHaveText entries = true)
    (hv : v.hasText = true) (name : String) :
    entriesHaveText (Entries.set entries name v) = true := by
  rw [entriesHaveText_iff] at h ⊢
  intro entry hentry
  obtain hold | rfl := Entries.mem_set hentry
  · exact h entry hold
  · exact ⟨rfl, hv⟩

end Value

end HomePortal

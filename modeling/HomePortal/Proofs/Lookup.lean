/-!
Looking for a key in a list of entries: what is found after one more entry, and after the entries
under a key were changed.
-/

namespace HomePortal

variable {α β : Type} [BEq α] [LawfulBEq α] [DecidableEq α] {entries : List (α × β)} {id key : α}
  {a : β}

theorem lookup_cons_eq :
    ((id, a) :: entries).lookup key = if key = id then some a else entries.lookup key := by
  rw [List.lookup_cons]
  by_cases h : key = id
  · simp [h]
  · simp [h, beq_false_of_ne h]

/-- Changing what stands under one key leaves the other keys as they are. -/
theorem lookup_map_eq :
    (entries.map fun entry => if entry.1 == id then (id, a) else entry).lookup key =
      if key = id then (entries.lookup id).map fun _ => a else entries.lookup key := by
  induction entries with
  | nil => simp
  | cons entry rest ih =>
    obtain ⟨k, b⟩ := entry
    rw [List.map_cons, lookup_cons_eq, lookup_cons_eq]
    by_cases hk : k = id
    · rw [if_pos (beq_iff_eq.2 hk), lookup_cons_eq, if_pos hk.symm, ih, hk]
      split
      · rfl
      · rfl
    · rw [if_neg (mt beq_iff_eq.1 hk), lookup_cons_eq, if_neg (Ne.symm hk), ih]
      by_cases hkey : key = k
      · rw [if_pos hkey, if_pos hkey, if_neg (hkey ▸ hk)]
      · rw [if_neg hkey, if_neg hkey]

end HomePortal

import HomePortal.EntitySet
/-!
Sets of entities are told apart by their members.
-/

namespace HomePortal.EntitySet

theorem nodup_toList (xs : EntitySet) : xs.toList.Nodup := by
  refine List.Pairwise.imp ?_ xs.ordered
  intro s t hlt heq
  subst heq
  exact String.lt_irrefl s hlt

/-- Sets with the same members are equal, since both are in order. -/
theorem ext {xs ys : EntitySet} (h : ∀ s, s ∈ xs ↔ s ∈ ys) : xs = ys := by
  obtain ⟨xl, hx⟩ := xs
  obtain ⟨yl, hy⟩ := ys
  have hperm : xl.Perm yl := (List.perm_ext_iff_of_nodup (nodup_toList ⟨xl, hx⟩)
    (nodup_toList ⟨yl, hy⟩)).2 h
  have hlist : xl = yl := hperm.eq_of_pairwise
    (fun a b _ _ hab hba => absurd (String.lt_trans hab hba) (String.lt_irrefl a)) hx hy
  subst hlist
  rfl

theorem eq_empty {xs : EntitySet} (h : ∀ s, s ∉ xs) : xs = empty :=
  ext fun s => iff_of_false (h s) not_mem_empty

theorem isEmpty_iff {xs : EntitySet} : xs.isEmpty = true ↔ ∀ s, s ∉ xs := by
  rw [isEmpty, List.isEmpty_iff, List.eq_nil_iff_forall_not_mem]
  exact Iff.rfl

end HomePortal.EntitySet

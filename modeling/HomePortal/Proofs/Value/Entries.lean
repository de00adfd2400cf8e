import HomePortal.Field
/-!
What stands under the keys of a mapping after a value was put under one of them.
-/

namespace HomePortal.Entries

variable {α : Type} {fields : Entries} {name other : String} {others : List String} {v : Value}
  {default : α} {read : Value → Checked α}

theorem mem_set {entry : Scalar × Value} (h : entry ∈ fields.set name v) :
    entry ∈ fields ∨ entry = (.text name, v) := by
  unfold set at h
  split at h
  · obtain ⟨old, hold, rfl⟩ := List.mem_map.1 h
    by_cases hkey : (old.1 == .text name) = true
    · rw [if_pos hkey, beq_iff_eq.1 hkey]
      exact .inr rfl
    · rw [if_neg hkey]
      exact .inl hold
  · exact (List.mem_append.1 h).imp_right List.mem_singleton.1

/-- A value stands under the key that it was put under, and under the other keys what stood there. -/
theorem get?_set : (fields.set name v).get? other =
    if other = name then some v else fields.get? other := by
  unfold set
  by_cases hhas : fields.has name = true
  · rw [if_pos hhas, get?, List.find?_map, Option.map_map]
    -- The entry that is found is the same, for the keys are.
    have hkeys : ((fun entry : Scalar × Value => entry.1 == .text other) ∘ fun entry =>
        if entry.1 == .text name then (entry.1, v) else entry) =
          fun entry : Scalar × Value => entry.1 == .text other := by
      funext entry
      simp only [Function.comp]
      split <;> rfl
    rw [hkeys]
    cases hfound : fields.find? fun entry => entry.1 == .text other with
    | none =>
      have hne : other ≠ name := by
        rintro rfl
        obtain ⟨entry, hentry, hkey⟩ := List.any_eq_true.1 hhas
        exact List.find?_eq_none.1 hfound entry hentry hkey
      rw [if_neg hne, get?, hfound]
      rfl
    | some entry =>
      have hkey : entry.1 = .text other := beq_iff_eq.1 (List.find?_some hfound :)
      rw [get?, hfound]
      by_cases heq : other = name
      · simp [hkey, heq]
      · simp [hkey, heq]
  · have habsent : (fields.find? fun entry => entry.1 == .text name) = none :=
      List.find?_eq_none.2 fun entry hentry hkey => hhas (List.any_eq_true.2 ⟨entry, hentry, hkey⟩)
    rw [if_neg hhas, get?, List.find?_append]
    by_cases heq : other = name
    · rw [if_pos heq, heq, habsent]
      simp
    · simp [get?, heq, Ne.symm heq]

theorem get?_set_self : (fields.set name v).get? name = some v := by
  rw [get?_set, if_pos rfl]

theorem get?_set_of_ne (h : other ≠ name) : (fields.set name v).get? other = fields.get? other := by
  rw [get?_set, if_neg h]

/-- Names other than the one that a value was put under find what they found. -/
theorem first?_set_of_not_mem {names : List String} (h : name ∉ names) :
    (fields.set name v).first? names = fields.first? names := by
  unfold first?
  induction names with
  | nil => rfl
  | cons first rest ih =>
    rw [List.mem_cons, not_or] at h
    rw [List.findSome?_cons, List.findSome?_cons, get?_set_of_ne (Ne.symm h.1), ih h.2]

theorem first?_set_self : (fields.set name v).first? (name :: others) = some (name, v) := by
  rw [first?, List.findSome?_cons, get?_set_self]
  rfl

/-- A field that a value was put in is read from it. -/
theorem required_set_self :
    (fields.set name v).required name others read = (read v).under name := by
  rw [required, first?_set_self]

theorem optional_set_self :
    (fields.set name v).optional (name :: others) default read = (read v).under name := by
  rw [optional, first?_set_self]

/-- A field is read as before if the value was put under none of its names. -/
theorem required_set_of_not_mem (h : name ∉ other :: others) :
    (fields.set name v).required other others read = fields.required other others read := by
  rw [required, required, first?_set_of_not_mem h]

theorem optional_set_of_not_mem (h : name ∉ others) :
    (fields.set name v).optional others default read = fields.optional others default read := by
  rw [optional, optional, first?_set_of_not_mem h]

end HomePortal.Entries

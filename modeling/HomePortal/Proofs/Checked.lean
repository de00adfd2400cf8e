import HomePortal.Field
/-!
What the outcome of a reading comes from: each step of a valid one was valid, one step of one that
met too large a number met it, and each field was read from the value that stands under one of its
names.
-/

namespace HomePortal

namespace Checked

variable {α β : Type}

theorem map_eq_valid {f : α → β} {a : Checked α} {b : β} :
    f <$> a = valid b ↔ ∃ x, a = valid x ∧ f x = b := by
  cases a with
  | valid x => simp [Functor.map, map]
  | refused first more => simp [Functor.map, map]
  | overflow => simp [Functor.map, map]

theorem seq_eq_valid {f : Checked (α → β)} {a : Checked α} {b : β} :
    f <*> a = valid b ↔ ∃ g x, f = valid g ∧ a = valid x ∧ g x = b := by
  change ap f a = valid b ↔ _
  cases f <;> cases a <;> simp [ap]

theorem andThen_eq_valid {a : Checked α} {f : α → Checked β} {b : β} :
    a.andThen f = valid b ↔ ∃ x, a = valid x ∧ f x = valid b := by
  cases a <;> simp [andThen]

theorem under_eq_valid {step : String} {a : Checked α} {x : α} :
    a.under step = valid x ↔ a = valid x := by
  cases a <;> simp [under]

theorem map_eq_overflow {f : α → β} {a : Checked α} : f <$> a = overflow ↔ a = overflow := by
  cases a <;> simp [Functor.map, map]

theorem seq_eq_overflow {f : Checked (α → β)} {a : Checked α} :
    f <*> a = overflow ↔ f = overflow ∨ a = overflow := by
  change ap f a = overflow ↔ _
  cases f <;> cases a <;> simp [ap]

theorem andThen_eq_overflow {a : Checked α} {f : α → Checked β} :
    a.andThen f = overflow ↔ a = overflow ∨ ∃ x, a = valid x ∧ f x = overflow := by
  cases a <;> simp [andThen]

theorem under_eq_overflow {step : String} {a : Checked α} :
    a.under step = overflow ↔ a = overflow := by
  cases a <;> simp [under]

@[simp] theorem refuse_ne_overflow {cause : Cause} : (refuse cause : Checked α) ≠ overflow :=
  nofun

end Checked

namespace Entries

variable {α : Type} {fields : Entries} {read : Value → Checked α} {a : α}

/-- A field that must be there was read. -/
theorem required_eq_valid {name : String} {others : List String} :
    fields.required name others read = .valid a ↔
      ∃ used v, fields.first? (name :: others) = some (used, v) ∧ read v = .valid a := by
  unfold required
  cases fields.first? (name :: others) with
  | none => simp [Checked.under, Checked.refuse]
  | some found =>
    obtain ⟨used, v⟩ := found
    simp [Checked.under_eq_valid, and_assoc]

/-- What an optional field holds was read from a value. -/
theorem exists_of_optional {names : List String} {a : α}
    (h : fields.optional names none (Field.orNull read) = .valid (some a)) :
    ∃ v, read v = .valid a := by
  unfold optional at h
  split at h
  · rename_i used v _
    have hv := Checked.under_eq_valid.1 h
    unfold Field.orNull at hv
    split at hv
    · cases hv
    · obtain ⟨x, hx, heq⟩ := Checked.map_eq_valid.1 hv
      obtain rfl := Option.some.inj heq
      exact ⟨v, hx⟩
  · cases h

theorem required_eq_overflow {name : String} {others : List String} :
    fields.required name others read = .overflow ↔
      ∃ used v, fields.first? (name :: others) = some (used, v) ∧ read v = .overflow := by
  unfold required
  cases fields.first? (name :: others) with
  | none => simp [Checked.under_eq_overflow]
  | some found =>
    obtain ⟨used, v⟩ := found
    simp [Checked.under_eq_overflow, and_assoc]

theorem optional_eq_overflow {names : List String} {default : α} :
    fields.optional names default read = .overflow ↔
      ∃ used v, fields.first? names = some (used, v) ∧ read v = .overflow := by
  unfold optional
  cases fields.first? names with
  | none => simp
  | some found =>
    obtain ⟨used, v⟩ := found
    simp [Checked.under_eq_overflow, and_assoc]

end Entries

end HomePortal

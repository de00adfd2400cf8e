import HomePortal.Config.References
import HomePortal.Proofs.Value.Tree
/-!
What a walk finds, by membership: findings of lists and mappings are those of what they hold.
-/

namespace HomePortal

namespace Value

theorem mem_walkItems {role : Role} {items : List Value} {f : Finding} :
    f ∈ walkItems role items ↔ ∃ v ∈ items, f ∈ v.walk (.one role) := by
  induction items with
  | nil => simp [walkItems]
  | cons item rest ih =>
    simp only [walkItems, List.mem_append, ih, List.mem_cons, exists_eq_or_imp]

theorem mem_walkEntries {placeOf : Scalar → Place} {fields : Entries} {f : Finding} :
    f ∈ walkEntries placeOf fields ↔ ∃ key v, (key, v) ∈ fields ∧ f ∈ v.walk (placeOf key) := by
  induction fields with
  | nil => simp [walkEntries]
  | cons entry rest ih =>
    obtain ⟨k, w⟩ := entry
    simp only [walkEntries, List.mem_append, ih, List.mem_cons, Prod.mk.injEq]
    constructor
    · intro h
      obtain h | ⟨key, v, hmem, h⟩ := h
      · exact ⟨k, w, .inl ⟨rfl, rfl⟩, h⟩
      · exact ⟨key, v, .inr hmem, h⟩
    · intro h
      obtain ⟨key, v, ⟨rfl, rfl⟩ | hmem, h⟩ := h
      · exact .inl h
      · exact .inr ⟨key, v, hmem, h⟩

/-- The findings of a mapping are its own and those of its values, each in the place of its key. -/
theorem mem_walk_mapping {place : Place} {fields : Entries} {f : Finding} :
    f ∈ (mapping fields).walk place ↔ f ∈ place.role.ofFields fields ∨
      place.role.goesOn = true ∧ ∃ key v, (key, v) ∈ fields ∧
        f ∈ v.walk (Place.among (place.role.places fields) key) := by
  rw [walk, List.mem_append]
  split
  · simp_all [mem_walkEntries]
  · simp_all

/-- The same for a mapping with text keys. -/
theorem mem_walk_record_iff {place : Place} {fields : List (String × Value)} {f : Finding} :
    f ∈ (record fields).walk place ↔
      f ∈ place.role.ofFields (fields.map fun field => (.text field.1, field.2)) ∨
      place.role.goesOn = true ∧ ∃ name v, (name, v) ∈ fields ∧ f ∈ v.walk (Place.among
        (place.role.places (fields.map fun field => (.text field.1, field.2))) (.text name)) := by
  rw [record, mem_walk_mapping]
  refine or_congr_right (and_congr_right fun _ => ?_)
  constructor
  · intro h
    obtain ⟨key, v, hmem, hv⟩ := h
    obtain ⟨field, hfield, heq⟩ := List.mem_map.1 hmem
    obtain ⟨rfl, rfl⟩ := Prod.mk.inj heq
    exact ⟨field.1, field.2, hfield, hv⟩
  · intro h
    obtain ⟨name, v, hmem, hv⟩ := h
    exact ⟨.text name, v, List.mem_map.2 ⟨_, hmem, rfl⟩, hv⟩

theorem walk_subset_of_mem {place : Place} {fields : Entries} {key : Scalar} {v : Value}
    (hgo : place.role.goesOn = true) (h : (key, v) ∈ fields) :
    v.walk (Place.among (place.role.places fields) key) ⊆ (mapping fields).walk place :=
  fun _ hf => mem_walk_mapping.2 (.inr ⟨hgo, key, v, h, hf⟩)

theorem ofFields_subset_walk {place : Place} {fields : Entries} :
    place.role.ofFields fields ⊆ (mapping fields).walk place :=
  fun _ hf => mem_walk_mapping.2 (.inl hf)

/-- Each item of a list in a place for many is walked in the role of the place. -/
theorem walk_subset_of_mem_many {role : Role} {items : List Value} {v : Value} (h : v ∈ items) :
    v.walk (.one role) ⊆ (list items).walk (.each role) := by
  intro f hf
  simp only [walk, Place.each, if_true, mem_walkItems]
  exact ⟨v, h, hf⟩

/-- Each item of a list in a place for one value is walked as data. -/
theorem walk_subset_of_mem_one {role : Role} {items : List Value} {v : Value}
    (hgo : role.goesOn = true) (h : v ∈ items) :
    v.walk (.one .data) ⊆ (list items).walk (.one role) := by
  intro f hf
  simp only [walk, Place.one, hgo, if_true, Bool.false_eq_true, if_false, List.mem_append,
    mem_walkItems]
  exact .inr ⟨v, h, hf⟩

end Value

namespace Place

/-- A value stands in the place listed for its key, or in the one its key decides by itself. -/
theorem among_cases (places : List (String × Place)) (key : Scalar) :
    among places key = ofKey key ∨
      ∃ name, key = .text name ∧ (name, among places key) ∈ places := by
  unfold among
  split
  · rename_i s
    cases h : places.lookup s with
    | none => exact .inl rfl
    | some q =>
      obtain ⟨before, after, rfl, -⟩ := List.lookup_eq_some_iff.1 h
      exact .inr ⟨s, rfl, by simp⟩
  · exact .inl rfl

end Place

namespace Finding

theorem isKey_iff {names : List String} {key : Scalar} :
    isKey names key = true ↔ ∃ name ∈ names, key = .text name := by
  cases key <;> simp [isKey]

theorem entity_not_mem_ofTargets {fields : Entries} {e : String} :
    entity e ∉ ofTargets fields := by
  unfold ofTargets
  split <;> simp

theorem unseen_mem_ofTargets {fields : Entries} :
    unseen ∈ ofTargets fields ↔
      ∃ name ∈ targetKeys, ∃ v, (.text name, v) ∈ fields ∧ v.isTruthy = true := by
  unfold ofTargets
  split
  · rename_i h
    obtain ⟨⟨key, v⟩, hmem, hv⟩ := List.any_eq_true.1 h
    obtain ⟨hkey, htruthy⟩ := Bool.and_eq_true_iff.1 hv
    obtain ⟨name, hname, rfl⟩ := isKey_iff.1 hkey
    exact ⟨fun _ => ⟨name, hname, v, hmem, htruthy⟩, fun _ => List.mem_singleton_self _⟩
  · rename_i h
    refine ⟨fun hf => absurd hf List.not_mem_nil, ?_⟩
    intro h
    obtain ⟨name, hname, v, hmem, htruthy⟩ := h
    refine absurd (List.any_eq_true.2 ⟨_, hmem, ?_⟩) h
    exact Bool.and_eq_true_iff.2 ⟨isKey_iff.2 ⟨name, hname, rfl⟩, htruthy⟩

end Finding

namespace Role

/-- Mappings that are walked through tell of their targets. -/
theorem ofTargets_subset {role : Role} {fields : Entries} (hgo : role.goesOn = true) :
    Finding.ofTargets fields ⊆ role.ofFields fields := by
  intro f hf
  cases role <;> simp_all [ofFields, goesOn]

end Role

end HomePortal

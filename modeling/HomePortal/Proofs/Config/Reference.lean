import HomePortal.Proofs.Config.Walk
/-!
References to entities: what is found in a value under a key that names entities.
-/

namespace HomePortal

open Finding Place

namespace Value

def IsReference (v : Value) : Prop :=
  v = .null ∨ (∃ s, v = .text s) ∨ ∃ items, v = .list items ∧ ∀ item ∈ items, ∃ s, item = .text s

def HasPart (v : Value) (part : List Char) : Prop :=
  ∃ s, .text s ∈ v.asList ∧ part ∈ s.toList.splitOn ','

theorem walk_text {place : Place} {s : String} :
    (Value.text s).walk place = place.role.ofScalar (.text s) := by
  simp [walk]

end Value

namespace Finding

theorem unseen_mem_ofPart {part : List Char} : unseen ∈ ofPart part ↔ folded part = "all" := by
  simp only [ofPart, beq_iff_eq, Bool.or_eq_true]
  split
  · simp_all
  · split <;> simp_all

theorem entity_mem_ofPart {part : List Char} {e : String} : entity e ∈ ofPart part ↔
    e = folded part ∧ e ≠ "all" ∧ e ≠ "" ∧ e ≠ "none" := by
  simp only [ofPart, beq_iff_eq, Bool.or_eq_true]
  split
  · grind
  · split
    · grind
    · grind

theorem mem_ofReference {s : String} {f : Finding} (h : Template.isTemplate s = false) :
    f ∈ ofReference s ↔ ∃ part ∈ s.toList.splitOn ',', f ∈ ofPart part := by
  simp [ofReference, h]

def NamesItself (e : String) : Prop :=
  ofReference e = [entity e]

instance (e : String) : Decidable (NamesItself e) :=
  inferInstanceAs (Decidable (ofReference e = [entity e]))

theorem ofReference_template {s : String} (h : Template.isTemplate s = true) :
    ofReference s = [unseen] := by
  simp [ofReference, h]

/-- A value under a key that names entities is a reference, where nothing unseen is found. -/
theorem isReference_of_seen {w : Value} (h : unseen ∉ w.walk (each .reference)) :
    w.IsReference := by
  cases w with
  | scalar s =>
    cases s with
    | null => exact .inl rfl
    | text s => exact .inr (.inl ⟨s, rfl⟩)
    | _ => exact absurd (by simp [Value.walk, each, Role.ofScalar]) h
  | list items =>
    refine .inr (.inr ⟨items, rfl, fun item hitem => ?_⟩)
    have hitems : unseen ∉ item.walk (one .reference) := fun hf =>
      h (Value.walk_subset_of_mem_many hitem hf)
    cases item with
    | scalar s =>
      cases s with
      | text s => exact ⟨s, rfl⟩
      | _ => exact absurd (by simp [Value.walk, one, Role.ofScalar]) hitems
    | mapping fields => exact absurd (Value.ofFields_subset_walk (by simp [one, Role.ofFields])) hitems
    | _ => exact absurd (by simp [Value.walk, one, Role.ofOther]) hitems
  | mapping fields => exact absurd (Value.ofFields_subset_walk (by simp [each, Role.ofFields])) h
  | _ => exact absurd (by simp [Value.walk, each, Role.ofOther]) h

/-- What a reference says is said of each of its texts. -/
theorem mem_walk_reference {w : Value} {f : Finding} (hw : w.IsReference) :
    f ∈ w.walk (each .reference) ↔ ∃ s, .text s ∈ w.asList ∧ f ∈ ofReference s := by
  obtain rfl | ⟨s, rfl⟩ | ⟨items, rfl, hitems⟩ := hw
  · simp [Value.walk, each, Value.asList]
  · rw [Value.walk_text]
    simp [each, Role.ofScalar, Value.asList]
  · simp only [Value.walk, each, if_true, Value.mem_walkItems, Value.asList]
    constructor
    · intro h
      obtain ⟨v, hv, hf⟩ := h
      obtain ⟨s, rfl⟩ := hitems v hv
      exact ⟨s, hv, by rwa [Value.walk_text] at hf⟩
    · intro h
      obtain ⟨s, hs, hf⟩ := h
      exact ⟨_, hs, by rwa [Value.walk_text]⟩

/-- Where nothing unseen is found, each part of a reference is looked at by itself. -/
theorem ofPart_subset_walk {w : Value} {part : List Char}
    (h : unseen ∉ w.walk (each .reference)) (hpart : w.HasPart part) :
    ofPart part ⊆ w.walk (each .reference) := by
  obtain ⟨s, hs, hmem⟩ := hpart
  have hw := isReference_of_seen h
  have hplain : Template.isTemplate s = false := by
    refine Bool.eq_false_iff.2 fun ht => h ((mem_walk_reference hw).2 ⟨s, hs, ?_⟩)
    rw [ofReference_template ht]
    exact List.mem_singleton_self _
  exact fun f hf => (mem_walk_reference hw).2 ⟨s, hs, (mem_ofReference hplain).2 ⟨part, hmem, hf⟩⟩

end Finding

end HomePortal

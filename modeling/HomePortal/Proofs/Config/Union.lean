import HomePortal.Proofs.Config.Alike
import HomePortal.Proofs.Config.Position
import HomePortal.Proofs.EntitySet
/-!
What configs refer to, compared by what is found in their parts.
-/

namespace HomePortal

namespace References

def union (r s : References) : References where
  triggers := r.triggers.union s.triggers
  conditions := r.conditions.union s.conditions
  actions := r.actions.union s.actions
  hasTemplates := r.hasTemplates || s.hasTemplates

variable {r s : References}

theorem mem_ofPart_union {part : Config.Part} {e : String} :
    e ∈ (r.union s).ofPart part ↔ e ∈ r.ofPart part ∨ e ∈ s.ofPart part := by
  cases part <;> exact EntitySet.mem_union

theorem eq_of_ofPart (h : ∀ part e, e ∈ r.ofPart part ↔ e ∈ s.ofPart part)
    (htemplates : r.hasTemplates = s.hasTemplates) : r = s := by
  have htriggers : r.triggers = s.triggers := EntitySet.ext (h .triggers)
  have hconditions : r.conditions = s.conditions := EntitySet.ext (h .conditions)
  have hactions : r.actions = s.actions := EntitySet.ext (h .actions)
  obtain ⟨_, _, _, _⟩ := r
  obtain ⟨_, _, _, _⟩ := s
  congr

theorem hasTemplates_eq_true {c : Config} : c.references.hasTemplates = true ↔
    ∃ part : Config.Part, Finding.unseen ∈ Value.walkItems part.role (c.items part) := by
  rw [← Bool.not_eq_false, hasTemplates_eq_false]
  simp only [not_forall, not_not]

end References

namespace Config

variable {c c₁ c₂ : Config}

/-- If in every part the same is found as in the parts of two configs together, the config refers
to what the two refer to. -/
theorem references_eq_union (h : ∀ (part : Part) f, f ∈ Value.walkItems part.role (c.items part) ↔
    f ∈ Value.walkItems part.role (c₁.items part) ∨
      f ∈ Value.walkItems part.role (c₂.items part)) :
    c.references = c₁.references.union c₂.references := by
  refine References.eq_of_ofPart (fun part e => ?_) ?_
  · rw [References.mem_ofPart_union, References.mem_ofPart, References.mem_ofPart,
      References.mem_ofPart, h]
  · change _ = (c₁.references.hasTemplates || c₂.references.hasTemplates)
    rw [Bool.eq_iff_iff, Bool.or_eq_true]
    simp only [References.hasTemplates_eq_true, h, exists_or]

/-- Configs in whose parts the same is found refer to the same. -/
theorem references_eq_of_findings (h : ∀ (part : Part) f,
    f ∈ Value.walkItems part.role (c₁.items part) ↔
      f ∈ Value.walkItems part.role (c₂.items part)) : c₁.references = c₂.references := by
  refine References.eq_of_ofPart (fun part e => ?_) ?_
  · rw [References.mem_ofPart, References.mem_ofPart, h]
  · rw [Bool.eq_iff_iff, References.hasTemplates_eq_true, References.hasTemplates_eq_true]
    simp only [h]

theorem references_eq_of_alike
    (h : ∀ part, (Value.list (c₁.items part)).Alike (.list (c₂.items part))) :
    c₁.references = c₂.references := by
  refine references_eq_of_findings fun part f => ?_
  have hwalk := (h part).walk (.each part.role) f
  simpa only [Value.walk, Place.each, if_true] using hwalk

end Config

end HomePortal

import HomePortal.Proofs.EntitySet
import HomePortal.Scope
/-!
When a scope manages automations at all: unless it is a tenant's and holds no entity.
-/

namespace HomePortal.Scope

variable {scope : Scope}

def HoldsNothing (scope : Scope) : Prop :=
  scope.role = .tenant ∧ ∀ e, e ∉ scope.entities

theorem holdsNothing_iff :
    scope.HoldsNothing ↔ scope.isAdmin = false ∧ scope.entities.isEmpty = true := by
  rw [HoldsNothing, EntitySet.isEmpty_iff, isAdmin]
  cases scope.role with
  | admin => simp
  | tenant => simp

theorem authorizeManage_of_holdsNothing (h : scope.HoldsNothing) :
    scope.authorizeManage = .error .noAccess := by
  obtain ⟨hrole, hempty⟩ := holdsNothing_iff.1 h
  rw [authorizeManage, hrole, hempty]
  rfl

theorem authorizeManage_of_not (h : ¬ scope.HoldsNothing) : scope.authorizeManage = .ok () := by
  rw [holdsNothing_iff] at h
  rw [authorizeManage]
  apply if_neg
  simpa using h

theorem authorizeManage_of_mem {e : String} (h : e ∈ scope.entities) :
    scope.authorizeManage = .ok () :=
  authorizeManage_of_not fun hnothing => hnothing.2 e h

end HomePortal.Scope

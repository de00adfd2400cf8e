import HomePortal.Config.Basic
import HomePortal.Config.Walk
import HomePortal.EntitySet
/-!
The entities that a config refers to, for each of its sections, and whether that is all it can
reach.
-/

namespace HomePortal

structure References where
  triggers : EntitySet
  conditions : EntitySet
  actions : EntitySet
  hasTemplates : Bool
  deriving DecidableEq

namespace References

def all (r : References) : EntitySet :=
  (r.triggers.union r.conditions).union r.actions

end References

def Finding.entities (found : List Finding) : EntitySet :=
  EntitySet.ofList <| found.filterMap fun
    | entity id => some id
    | unseen => none

namespace Config

def findings (c : Config) : List Finding × List Finding × List Finding :=
  (Value.walkItems .trigger c.triggers, Value.walkItems .condition c.conditions,
    Value.walkItems .step c.actions)

def references (c : Config) : References :=
  let (triggers, conditions, actions) := c.findings
  { triggers := Finding.entities triggers
    conditions := Finding.entities conditions
    actions := Finding.entities actions
    hasTemplates := (triggers ++ conditions ++ actions).contains .unseen }

end Config

end HomePortal

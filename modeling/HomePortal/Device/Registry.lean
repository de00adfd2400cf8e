import HomePortal.Device.Capability
import HomePortal.Failure
/-!
Which devices may take part in automations, and what they offer where.
-/

namespace HomePortal

/-- The domains and labels that are kept out of automations. Labels are in lower case. -/
structure Registry where
  domains : List String
  labels : List String

namespace Registry

def excluding (domains labels : List String) : Registry :=
  ⟨domains, labels.map Text.lower⟩

def standardDomains : List String :=
  ["automation", "device_tracker", "person", "sun", "update", "zone"]

def standardLabels : List String :=
  ["spotify"]

def standard : Registry :=
  excluding standardDomains standardLabels

def excludes (r : Registry) (d : Device) : Bool :=
  r.domains.contains d.domain || r.labels.contains d.foldedLabel ||
    (match d.attributes.get? "entity_category" with
      | some (.text category) => category == "diagnostic"
      | _ => false)

inductive Context where
  | automation
  | dashboard
  deriving DecidableEq

def triggers (r : Registry) (d : Device) (context : Context) : List TriggerSpec :=
  match context with
  | .dashboard => []
  | .automation => if r.excludes d then [] else d.capability.triggers

def actions (r : Registry) (d : Device) (context : Context) : List ActionSpec :=
  match context with
  | .dashboard => d.capability.actions.take 1
  | .automation => if r.excludes d then [] else d.capability.actions

def isEligible (r : Registry) (d : Device) : Bool :=
  !r.excludes d && (!(r.triggers d .automation).isEmpty || !(r.actions d .automation).isEmpty)

def eligible (r : Registry) (devices : List Device) : List Device :=
  devices.filter r.isEligible

end Registry

end HomePortal

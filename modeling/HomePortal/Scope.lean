import HomePortal.Config.References
import HomePortal.Device.Basic
import HomePortal.Failure
/-!
Scopes: the entities a caller may see and act on, and what they allow with a config.
-/

namespace HomePortal

inductive CallerRole where
  | admin
  | tenant
  deriving DecidableEq

def CallerRole.name : CallerRole → String
  | admin => "admin"
  | tenant => "tenant"

structure Scope where
  role : CallerRole
  entities : EntitySet
  deriving DecidableEq

namespace Scope

def roles : List (String × CallerRole) :=
  [CallerRole.admin, .tenant].map fun r => (r.name, r)

def read (value : Value) : Checked Scope :=
  (Field.record "AllowedEntitySet" value).andThen fun fields =>
    (fun role entities => ⟨role, EntitySet.ofList entities⟩)
      <$> fields.required "role" [] (Field.choice roles)
      <*> fields.optional ["entities"] [] Field.textSet

def ofAdmin (devices : List Device) : Scope :=
  ⟨.admin, EntitySet.ofList (devices.map (·.entity))⟩

def isGranted (areas : List String) (d : Device) : Bool :=
  d.area.any fun area => area != "" && areas.contains area

def ofTenant (devices : List Device) (areas : List String) : Scope :=
  ⟨.tenant, EntitySet.ofList ((devices.filter (isGranted areas)).map (·.entity))⟩

def isAdmin (s : Scope) : Bool :=
  s.role == .admin

def allows (s : Scope) (r : References) : Bool :=
  r.all.within s.entities

/-- Whether a config may be changed. One that may reach entities unseen never may. -/
def canEdit (s : Scope) (r : References) : Bool :=
  s.allows r && !r.hasTemplates

def sees (s : Scope) (r : References) : Bool :=
  s.isAdmin || s.allows r

def authorizeWrite (s : Scope) (r : References) : Except Denial Unit :=
  if s.allows r then .ok () else .error .outOfScope

def authorizeEdit (s : Scope) (r : References) : Except Denial Unit :=
  if s.canEdit r then .ok () else .error .outOfScope

def authorizeManage (s : Scope) : Except Denial Unit :=
  if !s.isAdmin && s.entities.isEmpty then .error .noAccess else .ok ()

end Scope

end HomePortal

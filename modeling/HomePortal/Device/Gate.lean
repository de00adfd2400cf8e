import HomePortal.Device.Registry
import HomePortal.Draft.Amended
/-!
The gate of the registry: drafts pass when their devices offer the trigger and the action.
-/

namespace HomePortal

def Setting.display (s : Setting) : String :=
  s.toValue.display

def isWaypoint (positions : List (Int × String)) (n : Number) : Bool :=
  positions.any fun position => n.toRat == position.1

def TriggerSpec.offers (spec : TriggerSpec) (change : Change) : Bool :=
  match spec, change with
  | stateEquals _ options, .stateEquals after _ _ => options.contains after.display
  | attributeDelta _ attr, .attributeDelta changed _ _ => attr == changed
  | positionEquals _ attr waypoints, .positionEquals moved after _ =>
    attr == moved && isWaypoint waypoints after
  | _, _ => false

def Level.deviceClass : Level → DeviceClass
  | brightness => .light
  | temperature => .climate
  | position => .cover

namespace Registry

def supportsTrigger (r : Registry) (d : Device) (t : Trigger) : Bool :=
  match t with
  | .schedule _ => true
  | .state _ => !r.excludes d
  | .device t =>
    !r.excludes d && (r.triggers d .automation).any fun spec => spec.offers t.change

def supportsAction (r : Registry) (d : Device) (a : Action) : Bool :=
  let specs := r.actions d .automation
  !specs.isEmpty &&
    (match a with
      | .power .. => true
      | .level l _ _ => d.classify == l.deviceClass
      | .command c _ => specs.any fun spec => spec.id == c.name)

def device? (devices : List Device) (entity : String) : Option Device :=
  devices.reverse.find? fun d => d.entity == entity

def passesTrigger (r : Registry) (devices : List Device) (t : Trigger) : Bool :=
  match t.entity? with
  | none => true
  | some entity => (device? devices entity).any fun d => r.supportsTrigger d t

def passesAction (r : Registry) (devices : List Device) (a : Action) : Bool :=
  (device? devices a.entity).any fun d => r.supportsAction d a

def check (r : Registry) (devices : List Device) (d : Draft) : Except DraftError Unit :=
  let trigger : Problem := ⟨["trigger"], .notOffered⟩
  let action : Problem := ⟨["action"], .notOffered⟩
  match r.passesTrigger devices d.trigger, r.passesAction devices d.action with
  | true, true => .ok ()
  | true, false => .error (.unsupported action [])
  | false, true => .error (.unsupported trigger [])
  | false, false => .error (.unsupported trigger [action])

end Registry

namespace Amended

def mode : TriggerSpec → ChangeMode
  | .stateEquals .. => .stateEquals
  | .attributeDelta .. => .attributeDelta
  | .positionEquals .. => .positionEquals

def offers (spec : TriggerSpec) (s : Sheet) : Except Failure Bool :=
  if !isText (s.get "mode") (mode spec).name then .ok false
  else match spec with
    | .stateEquals _ options => (written (s.get "to")).map options.contains
    | .attributeDelta _ attr => .ok (isText (s.get "attribute") attr)
    | .positionEquals _ attr waypoints =>
      if !isText (s.get "attribute") attr then .ok false
      else (key (s.get "to")).map fun after => waypoints.any fun point => after.same (.int point.1)

def anyOffers (s : Sheet) : List TriggerSpec → Except Failure Bool
  | [] => .ok false
  | spec :: rest =>
    match offers spec s with
    | .ok false => anyOffers s rest
    | outcome => outcome

def supportsTrigger (r : Registry) (d : Device) (part : Part) : Except Failure Bool :=
  let specs := r.triggers d .automation
  match part with
  | .sheet s =>
    match s.form with
    | .schedule => .ok true
    | .state => .ok (!r.excludes d)
    | _ => if r.excludes d then .ok false else anyOffers s specs
  | .bare _ =>
    if r.excludes d || specs.isEmpty then .ok false else .error (.fault .noField)

def supportsAction (r : Registry) (d : Device) (part : Part) : Except Failure Bool :=
  let specs := r.actions d .automation
  if specs.isEmpty then .ok false
  else match part with
    | .bare _ => .ok false
    | .sheet s =>
      match s.form with
      | .power => .ok true
      | .level =>
        (key (s.get "type")).bind fun type =>
          match levels.find? fun l => .text l.name == type with
          | some l => .ok (d.classify == l.deviceClass)
          | none => .error (.fault .unknownKey)
      | .command =>
        if s.changed.contains "command" then .error (.fault .noField)
        else .ok (specs.any fun spec => isText (s.get "command") spec.id)
      | _ => .ok false

end Amended

end HomePortal

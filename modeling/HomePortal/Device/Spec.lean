/-!
What a device offers: the changes that may start an automation and the actions it can be given.
-/

namespace HomePortal

inductive TriggerSpec where
  | stateEquals (label : String) (options : List String)
  | attributeDelta (label attr : String)
  | positionEquals (label attr : String) (waypoints : List (Int × String))
  deriving DecidableEq

inductive ActionSpec where
  | command (id label : String)
  | slider (id label : String) (low high : Int) (step : Rat)
  | fixedPosition (id label : String) (positions : List (Int × String))
  deriving DecidableEq

def ActionSpec.id : ActionSpec → String
  | command id _ => id
  | slider id .. => id
  | fixedPosition id .. => id

inductive DeviceClass where
  | light
  | cover
  | climate
  | media
  | switch
  | sensor
  | generic
  deriving DecidableEq

def DeviceClass.name : DeviceClass → String
  | light => "light"
  | cover => "cover"
  | climate => "climate"
  | media => "media"
  | switch => "switch"
  | sensor => "sensor"
  | generic => "generic"

structure Capability where
  triggers : List TriggerSpec
  actions : List ActionSpec
  deriving DecidableEq

end HomePortal

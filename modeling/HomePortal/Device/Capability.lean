import HomePortal.Device.Basic
import HomePortal.Device.Spec
import HomePortal.Draft.Compile
import HomePortal.Text.Lower
/-!
Devices by class, and what each class offers. The domain decides first; a label only refines a
known domain or makes a sensor of an unknown one.
-/

namespace HomePortal

namespace DeviceClass

def ofDomain? (domain : String) : Option DeviceClass :=
  [("light", light), ("cover", cover), ("climate", climate), ("water_heater", climate),
    ("media_player", media), ("switch", switch), ("input_boolean", switch),
    ("binary_sensor", sensor), ("sensor", sensor)].lookup domain

end DeviceClass

namespace Device

def sensorLabel? (label : String) : Option String :=
  [("motion sensor", "Motion"), ("motion", "Motion"), ("doorbell", "Doorbell"),
    ("home security", "Security"), ("security", "Security"), ("sensor", "State")].lookup label

def foldedLabel (d : Device) : String :=
  Text.lower d.primaryLabel

def classify (d : Device) : DeviceClass :=
  match DeviceClass.ofDomain? d.domain with
  | some known => known
  | none => if (sensorLabel? d.foldedLabel).isSome then .sensor else .generic

def reportsPosition (d : Device) : Bool :=
  d.attributes.has "current_position" ||
    (match d.attributes.get? "supported_features" with
      | some (.int n) => n / 4 % 2 == 1
      | _ => false)

def onOff : List String :=
  ["on", "off"]

def light : Capability where
  triggers := [.stateEquals "Power" onOff, .attributeDelta "Brightness changed" "brightness"]
  actions := [.command PlainCommand.lightToggle.name "On / Off",
    .slider LevelCommand.brightness.name "Brightness" 0 100 1]

def positionedCover : Capability where
  triggers := [.positionEquals "Position" "current_position"
    [(0, "Closed"), (50, "Half"), (100, "Open")]]
  actions := [.slider LevelCommand.position.name "Position" 0 100 1]

def plainCover : Capability where
  triggers := [.stateEquals "Opened / closed" ["open", "closed"]]
  actions := [.fixedPosition LevelCommand.position.name "Position" [(100, "Open"), (0, "Close")]]

def climate : Capability where
  triggers := [.attributeDelta "Current temperature changed" "current_temperature"]
  actions := [.slider LevelCommand.temperature.name "Set temperature" 5 35 (1 / 2)]

/-- The power command of a television differs from that of other players. -/
def media (d : Device) : Capability where
  triggers := [.stateEquals "Power" ["on", "off", "playing", "paused"]]
  actions := [
    .command (if d.foldedLabel == "tv" then PlainCommand.tvPower else .speakerPower).name
      "On / Off",
    .command PlainCommand.playPause.name "Play / Pause",
    .slider LevelCommand.volume.name "Volume" 0 100 1]

def switch : Capability where
  triggers := [.stateEquals "Power" onOff]
  actions := [.command "toggle" "On / Off"]

def sensor (d : Device) : Capability where
  triggers :=
    match sensorLabel? d.foldedLabel with
    | some label => [.stateEquals label onOff]
    | none => if d.domain == "binary_sensor" then [.stateEquals "State" onOff] else []
  actions := []

def generic : Capability where
  triggers := []
  actions := [.command "toggle" "On / Off"]

def capability (d : Device) : Capability :=
  match d.classify with
  | .light => light
  | .cover => if d.reportsPosition then positionedCover else plainCover
  | .climate => climate
  | .media => media d
  | .switch => switch
  | .sensor => sensor d
  | .generic => generic

end Device

end HomePortal

import HomePortal.Config.Id
import HomePortal.Config.Item
import HomePortal.Draft.Field
/-!
Drafts compiled to configs: one trigger, the conditions it needs, one action. Every draft has a
config.
-/

namespace HomePortal

def Number.toValue : Number → Value
  | int n => .int n
  | real x => .float x

def Setting.toValue : Setting → Value
  | text s => .text s
  | number n => n.toValue

def TimeOfDay.compiled (t : TimeOfDay) : String :=
  paddedDigits 10 2 (Field.digitsValue t.hour) ++ ":" ++ String.ofList t.minute ++ ":" ++
    String.ofList (t.second.getD ['0', '0'])

/-- Text as `HH:MM:SS`, whatever its parts hold; only the hour is read. -/
def normalizedTime? (text : String) : Option String :=
  let finish (hour minute second : List Char) : Option String :=
    (intOfText? (String.ofList hour)).map fun n =>
      (if n < 0 then "-" ++ paddedDigits 10 1 n.natAbs else paddedDigits 10 2 n.natAbs) ++ ":" ++
        String.ofList minute ++ ":" ++ String.ofList second
  match Field.colonParts (Text.trimChars text.toList) with
  | [hour, minute] => finish hour minute ['0', '0']
  | [hour, minute, second] => finish hour minute second
  | _ => none

namespace Trigger

def dayItems (days : List Weekday) : List Value :=
  days.map fun day => .text day.name

def item : Trigger → Value
  | state t =>
    Item.state (.text t.entity) none (t.after.map Setting.toValue) (t.before.map Value.text)
      (t.forSeconds.map Number.toValue)
  | device t =>
    match t.change with
    | .stateEquals after _ _ => Item.state (.text t.entity) none (some after.toValue) none none
    | .attributeDelta attr _ _ => Item.state (.text t.entity) (some (.text attr)) none none none
    | .positionEquals attr after _ =>
      Item.state (.text t.entity) (some (.text attr)) (some after.toValue) none none
  | schedule t => Item.time t.time.compiled

def conditions : Trigger → List Value
  | state _ => []
  | device t =>
    (match t.change with
      | .attributeDelta attr direction _ => [Item.delta attr (direction == .increased)]
      | _ => []) ++
    (match t.weekdays with
      | some (first :: rest) => [Item.onWeekdays (dayItems (first :: rest))]
      | _ => [])
  | schedule t =>
    match t.days with
    | .daily .. => []
    | .weekly weekdays _ => [Item.onWeekdays (dayItems weekdays)]
    | .monthly day _ => [Item.onDay (toString day)]

end Trigger

/-- A service that sets one number, and the bounds the number is held in. -/
structure Setter where
  domain : String
  service : String
  field : String
  low : Int
  high : Int

namespace Setter

def brightness : Setter := ⟨"light", "turn_on", "brightness_pct", 0, 100⟩

def temperature : Setter := ⟨"climate", "set_temperature", "temperature", 5, 35⟩

def position : Setter := ⟨"cover", "set_cover_position", "position", 0, 100⟩

def volume : Setter := ⟨"media_player", "volume_set", "volume_level", 0, 1⟩

def call (s : Setter) (entity : String) (value : Number) : Value :=
  Item.call s.domain s.service (.text entity) [(s.field, (value.clamp s.low s.high).toValue)]

end Setter

def Level.setter : Level → Setter
  | brightness => .brightness
  | temperature => .temperature
  | position => .position

def LevelCommand.setter : LevelCommand → Setter
  | brightness => .brightness
  | position => .position
  | volume => .volume
  | temperature => .temperature

/-- The number in the unit of the service: volume is entered in percent. -/
def LevelCommand.scaled (c : LevelCommand) (value : Number) : Number :=
  match c with
  | volume => .real value.hundredth
  | _ => value

def PlainCommand.service : PlainCommand → String × String
  | lightToggle => ("light", "toggle")
  | playPause => ("media_player", "media_play_pause")
  | next => ("media_player", "media_next_track")
  | previous => ("media_player", "media_previous_track")
  | volumeUp => ("media_player", "volume_up")
  | volumeDown => ("media_player", "volume_down")
  | tvPower => ("media_player", "toggle")
  | speakerPower => ("media_player", "toggle")

def Action.item : Action → Value
  | power p entity => Item.call "homeassistant" p.name (.text entity) []
  | level l entity value => l.setter.call entity value
  | command (.level c value) entity => c.setter.call entity (c.scaled value)
  | command (.plain c _) entity => Item.call c.service.1 c.service.2 (.text entity) []

def Draft.defaultDescription : String :=
  "Created via portal"

def Draft.configDescription (d : Draft) : String :=
  (d.description.filter (· != "")).getD defaultDescription

def Draft.compile (d : Draft) (id : String) : Config where
  id := id
  title := d.title
  description := some d.configDescription
  mode := d.mode.name
  triggers := [d.trigger.item]
  conditions := d.trigger.conditions
  actions := [d.action.item]

/-- The config under the id to keep or, if there is none, under a new one. -/
def Draft.compileAs? (d : Draft) (existing : Option String) (mark : String) (token : Nat) :
    Option Config :=
  (AutomationId.choose? existing mark token).map d.compile

end HomePortal

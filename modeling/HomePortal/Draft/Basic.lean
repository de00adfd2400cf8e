import HomePortal.Decimal.Number
/-!
Drafts: one trigger and one action, as a portal user enters them. A type holds what each kind of
trigger and action needs; what it does not need but may carry is optional.
-/

namespace HomePortal

inductive Weekday where
  | mon | tue | wed | thu | fri | sat | sun
  deriving DecidableEq

namespace Weekday

def week : List Weekday :=
  [mon, tue, wed, thu, fri, sat, sun]

def name : Weekday → String
  | mon => "mon"
  | tue => "tue"
  | wed => "wed"
  | thu => "thu"
  | fri => "fri"
  | sat => "sat"
  | sun => "sun"

end Weekday

inductive Setting where
  | text (s : String)
  | number (n : Number)
  deriving DecidableEq

inductive Direction where
  | increased
  | decreased
  deriving DecidableEq

def Direction.name : Direction → String
  | increased => "increased"
  | decreased => "decreased"

structure TimeOfDay where
  hour : List Char
  minute : List Char
  second : Option (List Char)
  deriving DecidableEq

def TimeOfDay.text (t : TimeOfDay) : String :=
  String.ofList (t.hour ++ ':' :: t.minute ++ (t.second.map (':' :: ·)).getD [])

structure StateTrigger where
  entity : String
  after : Option Setting
  before : Option String
  forSeconds : Option Number
  deriving DecidableEq

inductive Change where
  | stateEquals (after : Setting) (direction : Option Direction) (attr : Option String)
  | attributeDelta (attr : String) (direction : Direction) (after : Option Setting)
  | positionEquals (attr : String) (after : Number) (direction : Option Direction)
  deriving DecidableEq

inductive ChangeMode where
  | stateEquals
  | attributeDelta
  | positionEquals
  deriving DecidableEq

def ChangeMode.name : ChangeMode → String
  | stateEquals => "state_equals"
  | attributeDelta => "attribute_delta"
  | positionEquals => "position_equals"

namespace Change

def mode : Change → ChangeMode
  | stateEquals .. => .stateEquals
  | attributeDelta .. => .attributeDelta
  | positionEquals .. => .positionEquals

def after : Change → Option Setting
  | stateEquals after _ _ => some after
  | attributeDelta _ _ after => after
  | positionEquals _ after _ => some (.number after)

def direction : Change → Option Direction
  | stateEquals _ direction _ => direction
  | attributeDelta _ direction _ => some direction
  | positionEquals _ _ direction => direction

def attr : Change → Option String
  | stateEquals _ _ attr => attr
  | attributeDelta attr _ _ => some attr
  | positionEquals attr _ _ => some attr

end Change

structure DeviceTrigger where
  entity : String
  change : Change
  weekdays : Option (List Weekday)
  deriving DecidableEq

inductive Days where
  | daily (weekdays : Option (List Weekday)) (day : Option Int)
  | weekly (weekdays : List Weekday) (day : Option Int)
  | monthly (day : Int) (weekdays : Option (List Weekday))
  deriving DecidableEq

inductive Frequency where
  | daily
  | weekly
  | monthly
  deriving DecidableEq

def Frequency.name : Frequency → String
  | daily => "daily"
  | weekly => "weekly"
  | monthly => "monthly"

namespace Days

def frequency : Days → Frequency
  | daily .. => .daily
  | weekly .. => .weekly
  | monthly .. => .monthly

def weekdays : Days → Option (List Weekday)
  | daily weekdays _ => weekdays
  | weekly weekdays _ => some weekdays
  | monthly _ weekdays => weekdays

def day : Days → Option Int
  | daily _ day => day
  | weekly _ day => day
  | monthly day _ => some day

end Days

structure ScheduleTrigger where
  days : Days
  time : TimeOfDay
  deriving DecidableEq

inductive Trigger where
  | state (t : StateTrigger)
  | device (t : DeviceTrigger)
  | schedule (t : ScheduleTrigger)
  deriving DecidableEq

def Trigger.entity? : Trigger → Option String
  | state t => some t.entity
  | device t => some t.entity
  | schedule _ => none

inductive Power where
  | toggle
  | turnOn
  | turnOff
  deriving DecidableEq

def Power.name : Power → String
  | toggle => "toggle"
  | turnOn => "turn_on"
  | turnOff => "turn_off"

inductive Level where
  | brightness
  | temperature
  | position
  deriving DecidableEq

def Level.name : Level → String
  | brightness => "set_brightness"
  | temperature => "set_temperature"
  | position => "set_cover_position"

inductive PlainCommand where
  | lightToggle
  | playPause
  | next
  | previous
  | volumeUp
  | volumeDown
  | tvPower
  | speakerPower
  deriving DecidableEq

inductive LevelCommand where
  | brightness
  | position
  | volume
  | temperature
  deriving DecidableEq

inductive Command where
  | plain (c : PlainCommand) (value : Option Setting)
  | level (c : LevelCommand) (value : Number)
  deriving DecidableEq

def PlainCommand.name : PlainCommand → String
  | lightToggle => "light/toggle"
  | playPause => "media/play_pause"
  | next => "media/next"
  | previous => "media/previous"
  | volumeUp => "media/volume_up"
  | volumeDown => "media/volume_down"
  | tvPower => "tv/toggle_power"
  | speakerPower => "speaker/toggle_power"

def LevelCommand.name : LevelCommand → String
  | brightness => "light/set_brightness"
  | position => "blind/set_position"
  | volume => "media/volume_set"
  | temperature => "boiler/set_temperature"

namespace Command

def name : Command → String
  | plain c _ => c.name
  | level c _ => c.name

def value : Command → Option Setting
  | plain _ value => value
  | level _ value => some (.number value)

end Command

inductive Action where
  | power (p : Power) (entity : String)
  | level (l : Level) (entity : String) (value : Number)
  | command (c : Command) (entity : String)
  deriving DecidableEq

namespace Action

def entity : Action → String
  | power _ entity => entity
  | level _ entity _ => entity
  | command _ entity => entity

end Action

inductive RunMode where
  | single
  | restart
  | queued
  | parallel
  deriving DecidableEq

def RunMode.name : RunMode → String
  | single => "single"
  | restart => "restart"
  | queued => "queued"
  | parallel => "parallel"

structure Draft where
  title : String
  description : Option String
  mode : RunMode
  enabled : Option Bool
  trigger : Trigger
  action : Action
  deriving DecidableEq

def Draft.entities (d : Draft) : List String :=
  d.trigger.entity?.toList ++ [d.action.entity]

end HomePortal

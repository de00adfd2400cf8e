import HomePortal.Draft.Field
import HomePortal.Value.Text
/-!
Drafts read from foreign data. The reading is closed: an unknown kind, a field of the wrong shape
or a missing field refuses the whole draft.
-/

namespace HomePortal

namespace Trigger

open Entries HomePortal.Field

def ofStateFields (fields : Entries) : Checked Trigger :=
  (fun entity after before forSeconds => state ⟨entity, after, before, forSeconds⟩)
    <$> required fields "entityId" ["entity_id"] entityId
    <*> optional fields ["to"] none (orNull setting)
    <*> optional fields ["from", "from_"] none (orNull text)
    <*> optional fields ["forSeconds", "for_seconds"] none (orNull duration)

def change (mode : ChangeMode) (after : Option Setting) (direction : Option Direction)
    (attr : Option String) : Checked Change :=
  match mode, after, direction, attr with
  | .stateEquals, some after, direction, attr => .valid (.stateEquals after direction attr)
  | .stateEquals, none, _, _ => .refuse .equalsWithoutState
  | .attributeDelta, after, some direction, some attr =>
    .valid (.attributeDelta attr direction after)
  | .attributeDelta, _, _, _ => .refuse .deltaWithoutAttribute
  | .positionEquals, _, _, none => .refuse .positionWithoutAttribute
  | .positionEquals, some (.number after), direction, some attr =>
    .valid (.positionEquals attr after direction)
  | .positionEquals, _, _, some _ => .refuse .positionWithoutNumber

def changeModes : List (String × ChangeMode) :=
  [ChangeMode.stateEquals, .attributeDelta, .positionEquals].map fun m => (m.name, m)

def directions : List (String × Direction) :=
  [Direction.increased, .decreased].map fun d => (d.name, d)

def ofDeviceFields (fields : Entries) : Checked Trigger :=
  ((fun entity mode after direction attr weekdays =>
      (fun change => device ⟨entity, change, weekdays⟩) <$> change mode after direction attr)
    <$> required fields "entityId" ["entity_id"] entityId
    <*> required fields "mode" [] (choice changeModes)
    <*> optional fields ["to"] none (orNull setting)
    <*> optional fields ["direction"] none (orNull (choice directions))
    <*> optional fields ["attribute"] none (orNull attributeName)
    <*> optional fields ["weekdays"] none (orNull weekdays)).andThen id

def days (frequency : Frequency) (weekdays : Option (List Weekday)) (day : Option Int) :
    Checked Days :=
  match frequency, weekdays, day with
  | .daily, weekdays, day => .valid (.daily weekdays day)
  | .weekly, some (first :: rest), day => .valid (.weekly (first :: rest) day)
  | .weekly, _, _ => .refuse .weeklyWithoutWeekday
  | .monthly, weekdays, some day => .valid (.monthly day weekdays)
  | .monthly, _, none => .refuse .monthlyWithoutDay

def frequencies : List (String × Frequency) :=
  [Frequency.daily, .weekly, .monthly].map fun f => (f.name, f)

def ofScheduleFields (fields : Entries) : Checked Trigger :=
  ((fun frequency time weekdays day =>
      (fun days => schedule ⟨days, time⟩) <$> days frequency weekdays day)
    <$> required fields "scheduleType" ["schedule_type"] (choice frequencies)
    <*> required fields "at" [] timeOfDay
    <*> optional fields ["weekdays"] none (orNull weekdays)
    <*> optional fields ["day"] none (orNull dayOfMonth)).andThen id

end Trigger

def Field.tagged {α : Type} (kinds : List (String × (Entries → Checked α))) :
    Value → Checked α
  | .mapping fields =>
    match Entries.get? fields "type" with
    | none => .refuse .untagged
    | some tag =>
      match tag, kinds.lookup tag.display with
      | .text s, some read => (read fields).under s
      | tag, _ => .refuse (.unknownTag tag.shown (kinds.map (·.1)))
  | _ => .refuse .notTagged

def Trigger.kinds : List (String × (Entries → Checked Trigger)) :=
  [("state", ofStateFields), ("device", ofDeviceFields), ("schedule", ofScheduleFields)]

namespace Action

open Entries HomePortal.Field

def ofPowerFields (p : Power) (fields : Entries) : Checked Action :=
  power p <$> required fields "entityId" ["entity_id"] entityId

def ofLevelFields (l : Level) (fields : Entries) : Checked Action :=
  level l
    <$> required fields "entityId" ["entity_id"] entityId
    <*> required fields "value" [] number

def commandWith (entity : String) (c : CommandId) (value : Option Setting) : Checked Action :=
  match c, value with
  | .plain c, value => .valid (command (.plain c value) entity)
  | .level c, some (.number n) => .valid (command (.level c n) entity)
  | .level c, _ => .refuse (.commandWithoutValue c.name)

def ofCommandFields (fields : Entries) : Checked Action :=
  let c := required fields "command" [] commandId
  (commandWith
    <$> required fields "entityId" ["entity_id"] entityId
    <*> c
    <*> optional fields ["value"] none (commandValue c)).andThen id

def kinds : List (String × (Entries → Checked Action)) :=
  [Power.toggle, .turnOn, .turnOff].map (fun p => (p.name, ofPowerFields p)) ++
    [Level.brightness, .temperature, .position].map (fun l => (l.name, ofLevelFields l)) ++
    [("device_command", ofCommandFields)]

end Action

namespace Draft

open Entries HomePortal.Field

def modes : List (String × RunMode) :=
  [RunMode.single, .restart, .queued, .parallel].map fun m => (m.name, m)

def read (raw : Value) : Checked Draft :=
  (record "AutomationDraft" raw).andThen fun fields =>
    Draft.mk
      <$> required fields "alias" [] Field.title
      <*> optional fields ["description"] none (orNull text)
      <*> optional fields ["mode"] .single (choice modes)
      <*> optional fields ["enabled"] none (orNull boolean)
      <*> required fields "trigger" [] (tagged Trigger.kinds)
      <*> required fields "action" [] (tagged Action.kinds)

end Draft

end HomePortal

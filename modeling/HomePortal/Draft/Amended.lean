import HomePortal.Draft.Compile
import HomePortal.Failure
import HomePortal.Value.Equality
/-!
Drafts whose parts were changed after they were read. Nothing is known about the fields of such a
part, so compiling it can fail where compiling a draft cannot.
-/

namespace HomePortal

inductive Form where
  | state
  | device
  | schedule
  | power
  | level
  | command
  deriving DecidableEq

def Form.name : Form → String
  | state => "StateTrigger"
  | device => "DeviceTrigger"
  | schedule => "ScheduleTrigger"
  | power => "PowerAction"
  | level => "ValueAction"
  | command => "DeviceCommandAction"

/-- The named fields of a part, and the names of those that were overwritten. -/
structure Sheet where
  form : Form
  fields : List (String × Value)
  changed : List String

namespace Sheet

def unchanged (form : Form) (fields : List (String × Value)) : Sheet :=
  ⟨form, fields, []⟩

def get (s : Sheet) (name : String) : Value :=
  (s.fields.lookup name).getD .null

def amend (s : Sheet) (changes : Entries) : Sheet :=
  { s with
    fields := s.fields.map fun field => (field.1, (changes.get? field.1).getD field.2)
    changed := (s.fields.map (·.1)).filter changes.has }

def display (s : Sheet) : String :=
  s.form.name ++ "(" ++
    String.intercalate ", " (s.fields.map fun field => field.1 ++ "=" ++ field.2.inner) ++ ")"

end Sheet

inductive Part where
  | sheet (s : Sheet)
  | bare (value : Value)

def Part.display : Part → String
  | sheet s => s.display
  | bare value => value.inner

def Part.hasText : Part → Bool
  | sheet s => s.fields.all fun field => field.2.hasText
  | bare value => value.hasText

/-- Overwrites fields of a part, or takes the place of the whole part. -/
def Sheet.patch (s : Sheet) : Option Value → Part
  | none => .sheet s
  | some (.mapping changes) => .sheet (s.amend changes)
  | some value => .bare value

def Value.ofOption {α : Type} (f : α → Value) (a : Option α) : Value :=
  (a.map f).getD .null

def Value.ofWeekdays (days : List Weekday) : Value :=
  .list (Trigger.dayItems days)

def Trigger.sheet : Trigger → Sheet
  | state t => .unchanged .state [("type", .text "state"), ("entity_id", .text t.entity),
      ("to", .ofOption Setting.toValue t.after), ("from_", .ofOption Value.text t.before),
      ("for_seconds", .ofOption Number.toValue t.forSeconds)]
  | device t => .unchanged .device [("type", .text "device"), ("entity_id", .text t.entity),
      ("mode", .text t.change.mode.name), ("to", .ofOption Setting.toValue t.change.after),
      ("direction", .ofOption (fun d => .text d.name) t.change.direction),
      ("attribute", .ofOption Value.text t.change.attr),
      ("weekdays", .ofOption Value.ofWeekdays t.weekdays)]
  | schedule t => .unchanged .schedule [("type", .text "schedule"),
      ("schedule_type", .text t.days.frequency.name), ("at", .text t.time.text),
      ("weekdays", .ofOption Value.ofWeekdays t.days.weekdays),
      ("day", .ofOption Value.int t.days.day)]

def Action.sheet : Action → Sheet
  | power p entity => .unchanged .power [("type", .text p.name), ("entity_id", .text entity)]
  | level l entity value => .unchanged .level
      [("type", .text l.name), ("entity_id", .text entity), ("value", value.toValue)]
  | command c entity => .unchanged .command [("type", .text "device_command"),
      ("entity_id", .text entity), ("command", .text c.name),
      ("value", .ofOption Setting.toValue c.value)]

namespace Amended

def writing {α : Type} (hasText : Bool) (text : α) : Except Failure α :=
  if hasText then .ok text else .error (.fault .badValue)

def written (value : Value) : Except Failure String :=
  writing value.hasText value.display

def noRule {α : Type} (hasText : Bool) (subject : String) : Except Failure α := do
  throw (.noRule (← writing hasText subject))

def present (value : Value) : Option Value :=
  match value with
  | .null => none
  | value => some value

def members : Value → Except Failure (List Value)
  | .list items => .ok items
  | .text s => .ok (s.toList.map fun c => .text c.toString)
  | .mapping entries => .ok (entries.map fun entry => .scalar entry.1)
  | _ => .error (.fault .typeMismatch)

def key : Value → Except Failure Scalar
  | .scalar s => .ok s
  | _ => .error (.fault .typeMismatch)

def isText (value : Value) (s : String) : Bool :=
  value.same (.text s)

def deviceItems (s : Sheet) : Except Failure (List Value × List Value) := do
  let mode := s.get "mode"
  let entity := s.get "entity_id"
  let attr := s.get "attribute"
  let (trigger, conditions) ←
    if isText mode "state_equals" then
      pure (Item.state entity none (present (s.get "to")) none none, [])
    else if isText mode "attribute_delta" then
      pure (Item.state entity (present attr) none none none,
        [Item.delta (← written attr) (isText (s.get "direction") "increased")])
    else if isText mode "position_equals" then
      pure (Item.state entity (present attr) (present (s.get "to")) none none, [])
    else noRule mode.hasText ("device trigger mode " ++ mode.inner)
  let weekdays := s.get "weekdays"
  if weekdays.isTruthy then
    pure ([trigger], conditions ++ [Item.onWeekdays (← members weekdays)])
  else pure ([trigger], conditions)

def scheduleItems (s : Sheet) : Except Failure (List Value × List Value) := do
  let time ← match s.get "at" with
    | .text entered =>
      match normalizedTime? entered with
      | some time => pure time
      | none => .error (.fault .badValue)
    | _ => .error (.fault .noField)
  let frequency := s.get "schedule_type"
  if isText frequency "weekly" then
    pure ([Item.time time], [Item.onWeekdays (← members (s.get "weekdays"))])
  else if isText frequency "monthly" then
    pure ([Item.time time], [Item.onDay (← written (s.get "day"))])
  else pure ([Item.time time], [])

def triggerItems (part : Part) : Except Failure (List Value × List Value) :=
  match part with
  | .sheet s =>
    match s.form with
    | .state =>
      .ok ([Item.state (s.get "entity_id") none (present (s.get "to")) (present (s.get "from_"))
        (present (s.get "for_seconds"))], [])
    | .device => deviceItems s
    | .schedule => scheduleItems s
    | _ => noRule part.hasText ("trigger " ++ part.display)
  | .bare _ => noRule part.hasText ("trigger " ++ part.display)

def held (low high : Int) (value : Scalar) : Except Failure Value :=
  match value with
  | .bool _ | .int _ | .float _ =>
    match value.quantity? with
    | some (.finite q) =>
      .ok (if q < low then .int low else if high < q then .int high else .scalar value)
    | some (.infinite negative) => .ok (.int (if negative then low else high))
    | some (.undefined _) | none => .ok (.scalar value)
  | _ => .error (.fault .typeMismatch)

def hundredth : Scalar → Except Failure Scalar
  | .bool b => .ok (.float (Number.int (if b then 1 else 0)).hundredth)
  | .int n =>
    let x := (Number.int n).hundredth
    if x.isFinite then .ok (.float x) else .error (.fault .overflow)
  | .float x => .ok (.float (if x.isFinite then x.divNat 100 else x))
  | _ => .error (.fault .typeMismatch)

def setterItem (setter : Setter) (entity value : Value) (percent : Bool) :
    Except Failure Value := do
  let number ← key value
  let scaled ← if percent then hundredth number else pure number
  pure (Item.call setter.domain setter.service entity
    [(setter.field, ← held setter.low setter.high scaled)])

def levels : List Level :=
  [.brightness, .temperature, .position]

def powers : List Power :=
  [.toggle, .turnOn, .turnOff]

def actionItem (part : Part) : Except Failure Value := do
  let noRule : Except Failure Value := noRule part.hasText ("action " ++ part.display)
  match part with
  | .bare _ => noRule
  | .sheet s =>
    let entity := s.get "entity_id"
    match s.form with
    | .power =>
      let type ← key (s.get "type")
      match powers.find? fun p => .text p.name == type with
      | some p => pure (Item.call "homeassistant" p.name entity [])
      | none => noRule
    | .level =>
      let type ← key (s.get "type")
      match levels.find? fun l => .text l.name == type with
      | some l => setterItem l.setter entity (s.get "value") false
      | none => noRule
    | .command =>
      let name ← key (s.get "command")
      match Field.commands.find? fun c => .text c.name == name with
      | some (.plain c) => pure (Item.call c.service.1 c.service.2 entity [])
      | some (.level c) => setterItem c.setter entity (s.get "value") (c == .volume)
      | none => noRule
    | _ => noRule

def compile (d : Draft) (trigger action : Part) (existing : Option String) (mark : String)
    (token : Nat) : Except Failure Config := do
  let (triggers, conditions) ← triggerItems trigger
  match AutomationId.choose? existing mark token with
  | none => .error (.draft .emptyId)
  | some id =>
    pure { d.compile id with triggers, conditions, actions := [← actionItem action] }

end Amended

end HomePortal

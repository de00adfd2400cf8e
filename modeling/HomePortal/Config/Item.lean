import HomePortal.Config.Basic
import HomePortal.Decimal.Reading
/-!
The triggers, conditions and actions that the portal writes into a config.
-/

namespace HomePortal.Item

def state (entity : Value) (attr after before forSeconds : Option Value) : Value :=
  let part (name : String) (value : Option Value) : List (String × Value) :=
    (value.map fun v => (name, v)).toList
  .record <| [("trigger", .text "state"), ("entity_id", entity)] ++ part "attribute" attr ++
    part "to" after ++ part "from" before ++
    part "for" (forSeconds.map fun seconds => .record [("seconds", seconds)])

def time (at_ : String) : Value :=
  .record [("trigger", .text "time"), ("at", .text at_)]

def onWeekdays (days : List Value) : Value :=
  .record [("condition", .text "time"), ("weekday", .list days)]

def expression (body : String) : String :=
  "\x7b\x7b " ++ body ++ " \x7d\x7d"

def template (body : String) : Value :=
  .record [("condition", .text "template"), ("value_template", .text (expression body))]

def delta (attr : String) (rising : Bool) : Value :=
  template <| "trigger.to_state.attributes." ++ attr ++ " | float(0) " ++
    (if rising then ">" else "<") ++ " trigger.from_state.attributes." ++ attr ++ " | float(0)"

def onDay (day : String) : Value :=
  template ("now().day == " ++ day)

def call (domain service : String) (entity : Value) (data : List (String × Value)) : Value :=
  .record (ServiceCall.item {
    domain, service
    data := data.map fun field => (.text field.1, field.2)
    target := some [(.text "entity_id", entity)] })

end HomePortal.Item

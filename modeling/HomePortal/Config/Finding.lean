import HomePortal.Config.Service
import HomePortal.Config.Template
import HomePortal.Text.Blank
import HomePortal.Text.Lower
import HomePortal.Value.Basic
/-!
What one place in a config tells by itself: the entities that it names, and whether the hub may
reach others from it. The reasons why it may are only logged, and are left out.
-/

namespace HomePortal

inductive Finding where
  | entity (id : String)
  | unseen
  deriving DecidableEq

namespace Finding

def entityKeys : List String :=
  ["entity_id", "entityId"]

def targetKeys : List String :=
  ["area_id", "device_id", "floor_id", "label_id"]

def isKey (names : List String) (key : Scalar) : Bool :=
  match key with
  | .text s => names.contains s
  | _ => false

def folded (cs : List Char) : String :=
  Text.lower (String.ofList (Text.trimChars cs))

def ofPart (cs : List Char) : List Finding :=
  let name := folded cs
  if name == "all" then [unseen]
  else if name == "" || name == "none" then []
  else [entity name]

def ofReference (text : String) : List Finding :=
  if Template.isTemplate text then [unseen]
  else (text.toList.splitOn ',').flatMap ofPart

def ofScalar : Scalar → List Finding
  | .text s => if Template.isTemplate s then [unseen] else []
  | _ => []

def ofLiteral : Value → List Finding
  | .text s =>
    let name := folded s.toList
    if Text.isDotted name.toList then [entity name] else []
  | _ => []

def ofField (fields : Entries) (name : String) : List Finding :=
  ((fields.get? name).getD .null).asList.flatMap ofLiteral

def ofTargets (fields : Entries) : List Finding :=
  if fields.any fun entry => isKey targetKeys entry.1 && entry.2.isTruthy then [unseen] else []

def platforms : List String :=
  ["calendar", "event", "homeassistant", "mqtt", "numeric_state", "state", "sun", "tag",
   "template", "time", "time_pattern", "webhook", "zone"]

def logicalKinds : List String :=
  ["and", "or", "not"]

def plainKinds : List String :=
  ["numeric_state", "state", "sun", "template", "time", "trigger", "zone"]

def plainSteps : List String :=
  ["delay", "event", "set_conversation_response", "stop", "variables", "wait_template"]

def either (fields : Entries) (name other : String) : Option Value :=
  match fields.get? name with
  | some value => some value
  | none => fields.get? other

def ofTrigger (fields : Entries) : List Finding :=
  match either fields "trigger" "platform" with
  | some (.text platform) =>
    if !platforms.contains platform then [unseen]
    else if platform == "time" then ofField fields "at"
    else if platform == "zone" then ofField fields "zone"
    else []
  | _ => [unseen]

inductive ConditionKind where
  | shorthand (key : String)
  | logical
  | plain (name : String)
  | unknown
  deriving DecidableEq

/-- The kind of a condition. Which one counts where several of the logical keys stand in a condition
is not laid down; here it is the first in the order of `logicalKinds`. -/
def conditionKind (fields : Entries) : ConditionKind :=
  match (fields.get? "condition").getD .null with
  | .null =>
    match logicalKinds.find? fun name => fields.has name with
    | some name => .shorthand name
    | none => .unknown
  | .text name =>
    if logicalKinds.contains name then .logical
    else if plainKinds.contains name then .plain name
    else .unknown
  | _ => .unknown

def ofTemplateField (fields : Entries) : List Finding :=
  match fields.get? "value_template" with
  | some (.text s) => if Template.isContextOnly s then [] else [unseen]
  | _ => [unseen]

def ofCondition (fields : Entries) : List Finding :=
  match conditionKind fields with
  | .shorthand _ | .logical => []
  | .unknown => [unseen]
  | .plain name =>
    if name == "time" then ofField fields "after" ++ ofField fields "before"
    else if name == "zone" then ofField fields "zone"
    else if name == "template" then ofTemplateField fields
    else []

inductive StepKind where
  | service
  | choose
  | branch
  | loop
  | group (key : String)
  | wait
  | condition
  | scene
  | plain
  | unknown
  deriving DecidableEq

def stepKind (fields : Entries) : StepKind :=
  if fields.has "action" || fields.has "service" then .service
  else if fields.has "choose" then .choose
  else if fields.has "if" then .branch
  else if fields.has "repeat" then .loop
  else if fields.has "parallel" then .group "parallel"
  else if fields.has "sequence" then .group "sequence"
  else if fields.has "wait_for_trigger" then .wait
  else if fields.has "condition" then .condition
  else if fields.has "scene" then .scene
  else if plainSteps.any fields.has then .plain
  else .unknown

def ofService (fields : Entries) : List Finding :=
  match either fields "action" "service" with
  | some (.text s) => if Service.isTargeted (Text.trim s) then [] else [unseen]
  | _ => [unseen]

def ofStep (fields : Entries) : List Finding :=
  match stepKind fields with
  | .service => ofService fields
  | .condition => ofCondition fields
  | .scene => ofField fields "scene"
  | .unknown => [unseen]
  | _ => []

end Finding

end HomePortal

import HomePortal.Field
import HomePortal.Text.Blank
import HomePortal.Value.Equality
import HomePortal.Value.Text
/-!
Automation configs in the hub's own form. A stored config may have been written by anything, so
its reading is lenient: every section is a list of any values, and each may also be given under an
older key in the singular.
-/

namespace HomePortal

structure Config where
  id : String
  title : String
  description : Option String
  mode : String
  triggers : List Value
  conditions : List Value
  actions : List Value

namespace Config

def label : Option Value → String
  | some (.text s) => Text.trim s
  | some (.int n) => (Scalar.int n).display
  | some (.bool b) => (Scalar.bool b).display
  | _ => ""

def text? : Option Value → Option String
  | some (.text s) => some s
  | _ => none

/-- The items under a section's key, then those under its older key that equal none of them. -/
def sectionItems (fields : Entries) (plural singular : String) : List Value :=
  let current := ((fields.get? plural).getD .null).asList
  let older := ((fields.get? singular).getD .null).asList
  current ++ older.filter fun item => !current.any item.same

def ofEntries (fields : Entries) : Config where
  id := label (fields.get? "id")
  title := label (fields.get? "alias")
  description := text? (fields.get? "description")
  mode := ((text? (fields.get? "mode")).filter (· != "")).getD "single"
  triggers := sectionItems fields "triggers" "trigger"
  conditions := sectionItems fields "conditions" "condition"
  actions := sectionItems fields "actions" "action"

def checkLabel : Value → Checked Unit
  | .int n => if (Scalar.int n).hasText then .valid () else .refuse .endlessLabel
  | _ => .valid ()

def read (value : Value) : Checked Config :=
  (Field.record "AutomationConfig" value).andThen fun fields =>
    (fun _ _ => ofEntries fields)
      <$> fields.optional ["id"] () checkLabel
      <*> fields.optional ["alias"] () checkLabel

def payload (c : Config) : List (String × Value) :=
  [("id", .text c.id), ("alias", .text c.title)] ++
    (c.description.map fun d => ("description", Value.text d)).toList ++
    [("mode", .text c.mode), ("triggers", .list c.triggers), ("conditions", .list c.conditions),
     ("actions", .list c.actions)]

end Config

structure ServiceCall where
  domain : String
  service : String
  data : Entries
  target : Option Entries

namespace ServiceCall

def read (value : Value) : Checked ServiceCall :=
  (Field.record "ServiceCallSpec" value).andThen fun fields =>
    ServiceCall.mk
      <$> fields.required "domain" [] Field.text
      <*> fields.required "service" [] Field.text
      <*> fields.optional ["data"] [] Field.dictionary
      <*> fields.optional ["target"] none (Field.orNull Field.dictionary)

def item (c : ServiceCall) : List (String × Value) :=
  let part (name : String) (entries : Entries) : List (String × Value) :=
    if entries.isEmpty then [] else [(name, .mapping entries)]
  ("action", Value.text (c.domain ++ "." ++ c.service)) ::
    (part "target" (c.target.getD []) ++ part "data" c.data)

end ServiceCall

end HomePortal

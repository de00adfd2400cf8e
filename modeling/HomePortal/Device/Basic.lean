import HomePortal.Field
import HomePortal.Text.Blank
/-!
Devices of the hub's snapshot, one entity each.
-/

namespace HomePortal

structure Device where
  entity : String
  domain : String
  area : Option String
  attributes : Entries
  label : Option String
  labels : List String

namespace Device

def domainOf (entity : String) : String :=
  if entity.toList.contains '.' then String.ofList (entity.toList.takeWhile (· != '.')) else ""

def read (value : Value) : Checked Device :=
  (Field.record "Device" value).andThen fun fields =>
    (fun entity domain area attributes label labels =>
        { entity, area, attributes, label, labels
          domain := if domain == "" then domainOf entity else domain })
      <$> fields.required "entityId" ["entity_id"] Field.text
      <*> fields.optional ["domain"] "" Field.text
      <*> fields.optional ["area", "areaName"] none (Field.orNull Field.text)
      <*> fields.optional ["attributes"] [] Field.dictionary
      <*> fields.optional ["label"] none (Field.orNull Field.text)
      <*> fields.optional ["labels"] [] Field.texts

def plainLabel? (label : String) : Option String :=
  let trimmed := Text.trim label
  if trimmed == "" then none else some trimmed

def otherLabel : String :=
  "Other"

def primaryLabel (d : Device) : String :=
  match d.label.bind plainLabel? with
  | some label => label
  | none => (d.labels.head?.bind plainLabel?).getD otherLabel

end Device

end HomePortal

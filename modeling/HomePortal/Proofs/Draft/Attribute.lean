import HomePortal.Proofs.Draft.Entered
import HomePortal.Proofs.Draft.WellFormed
/-!
The attribute of a device trigger, in the template that compares it. What may be entered is an
identifier, with at most one line break after it; all of it is compiled, so the template is the
comparison of an identifier exactly if no line break was entered.
-/

namespace HomePortal

open HomePortal.Field

def Direction.relation : Direction → String
  | increased => ">"
  | decreased => "<"

def Direction.comparison (direction : Direction) (attr : String) : String :=
  "\x7b\x7b trigger.to_state.attributes." ++ attr ++ " | float(0) " ++ direction.relation ++
    " trigger.from_state.attributes." ++ attr ++ " | float(0) \x7d\x7d"

/-- The one trigger of a config is on an attribute, and the one template among its conditions
compares that attribute. -/
structure Config.Compares (c : Config) (attr : String) (direction : Direction) : Prop where
  trigger : ∃ item, c.triggers = [item] ∧ item.field? "attribute" = some (.text attr)
  template : c.conditions.filterMap (·.field? "value_template") =
    [.text (direction.comparison attr)]

theorem Config.Compares.eq {c : Config} {attr attr' : String} {direction direction' : Direction}
    (h : c.Compares attr direction) (h' : c.Compares attr' direction') : attr = attr' := by
  obtain ⟨item, htriggers, hattr⟩ := h.trigger
  obtain ⟨item', htriggers', hattr'⟩ := h'.trigger
  obtain rfl : item = item' := by simpa [htriggers] using htriggers'
  simpa [hattr] using hattr'

/-- The condition on a change of an attribute is the comparison, character by character. -/
theorem Item.template_delta (attr : String) (direction : Direction) :
    (Item.delta attr (direction == .increased)).field? "value_template" =
      some (.text (direction.comparison attr)) := by
  have hrelation : (if direction == .increased then ">" else "<") = direction.relation := by
    cases direction <;> rfl
  have hfront : "\x7b\x7b trigger.to_state.attributes." =
      "\x7b\x7b " ++ "trigger.to_state.attributes." := by decide
  have hback : " | float(0) \x7d\x7d" = " | float(0)" ++ " \x7d\x7d" := by decide
  have htext : Item.expression ("trigger.to_state.attributes." ++ attr ++ " | float(0) " ++
      (if direction == .increased then ">" else "<") ++ " trigger.from_state.attributes." ++ attr ++
        " | float(0)") = direction.comparison attr := by
    delta Direction.comparison
    rw [hfront, hback, hrelation]
    simp only [Item.expression, String.append_assoc]
  rw [← htext]
  rfl

namespace Draft

variable {raw : Value} {d : Draft} {t : DeviceTrigger}

theorem compares_of_change {attr : String} {direction : Direction} {after : Option Setting}
    (ht : d.trigger = .device t) (hchange : t.change = .attributeDelta attr direction after)
    (id : String) : (d.compile id).Compares attr direction := by
  have htriggers : (d.compile id).triggers =
      [Item.state (.text t.entity) (some (.text attr)) none none none] := by
    rw [triggers_compile, ht, Trigger.item, hchange]
  have hdays (days : List Weekday) :
      (Item.onWeekdays (Trigger.dayItems days)).field? "value_template" = none := rfl
  refine ⟨⟨_, htriggers, rfl⟩, ?_⟩
  rw [conditions_compile, ht, Trigger.conditions, hchange]
  cases t.weekdays with
  | none => simp [Item.template_delta]
  | some days => cases days <;> simp [Item.template_delta, hdays]

/-- The attribute and the direction of a change were entered. -/
theorem entered_of_change {attr : String} {direction : Direction} {after : Option Setting}
    (h : Draft.read raw = .valid d) (ht : d.trigger = .device t)
    (hchange : t.change = .attributeDelta attr direction after) :
    entered? raw "attribute" = some (.text attr) ∧ isAttributeName attr.toList = true ∧
      entered? raw "direction" = some (.text direction.name) := by
  obtain ⟨fields, hentered, hdirection, hattr, -⟩ := entered_device h ht
  rw [hchange] at hdirection hattr
  obtain ⟨v, hget, hread⟩ := Entries.get?_of_optional hdirection
  obtain rfl := text_of_choice hread
  obtain ⟨w, hget', hread'⟩ := Entries.get?_of_optional hattr
  obtain ⟨rfl, hname⟩ := attributeName_eq_valid.1 hread'
  exact ⟨(hentered "attribute").trans hget', hname, (hentered "direction").trans hget⟩

/-- The attribute was entered as an identifier, or as one with a line break after it, and the
config compares all of it. So what it compares is an identifier exactly if no line break was
entered. -/
theorem compares_compile (h : Draft.read raw = .valid d) (ht : d.trigger = .device t)
    (hmode : t.change.mode = .attributeDelta) (id : String) :
    ∃ entered name direction, entered? raw "attribute" = some (.text entered) ∧
      entered? raw "direction" = some (.text (Direction.name direction)) ∧
      IsIdentifier name ∧ (entered.toList = name ∨ entered.toList = name ++ ['\n']) ∧
      (d.compile id).Compares entered direction ∧
      ((∃ attr : String, IsIdentifier attr.toList ∧ (d.compile id).Compares attr direction) ↔
        entered.toList = name) := by
  cases hchange : t.change with
  | stateEquals => simp [hchange, Change.mode] at hmode
  | positionEquals => simp [hchange, Change.mode] at hmode
  | attributeDelta entered direction after =>
    obtain ⟨hentered, hattr, hdirection⟩ := entered_of_change h ht hchange
    obtain ⟨name, tail, hsplit, hname, htail⟩ := isAttributeName_iff.1 hattr
    have hform : entered.toList = name ∨ entered.toList = name ++ ['\n'] := by
      obtain rfl | rfl := htail
      · exact .inl (hsplit.trans (List.append_nil name))
      · exact .inr hsplit
    have hcompares := compares_of_change ht hchange id
    refine ⟨entered, name, direction, hentered, hdirection, hname, hform, hcompares, ?_⟩
    constructor
    · rintro ⟨attr, hidentifier, hattr⟩
      obtain rfl := hattr.eq hcompares
      refine hform.resolve_right fun hbreak => ?_
      have hplain := hidentifier.plain '\n' (by simp [hbreak])
      exact absurd hplain (by decide)
    · rintro rfl
      exact ⟨entered, hname, hcompares⟩

def lampRequest (attr : String) : Value :=
  .record [("alias", .text "Lamp"),
    ("trigger", .record [("type", .text "device"), ("entityId", .text "light.lamp"),
      ("mode", .text "attribute_delta"), ("attribute", .text attr),
      ("direction", .text "increased")]),
    ("action", .record [("type", .text "turn_on"), ("entityId", .text "light.hall")])]

def lampDraft (attr : String) : Draft where
  title := "Lamp"
  description := none
  mode := .single
  enabled := none
  trigger := .device ⟨"light.lamp", .attributeDelta attr .increased none, none⟩
  action := .power .turnOn "light.hall"

theorem compares_compile_lamp :
    Draft.read (lampRequest "brightness") = .valid (lampDraft "brightness") ∧
      ∀ id, ∃ entered name direction,
        entered? (lampRequest "brightness") "attribute" = some (.text entered) ∧
        ((lampDraft "brightness").compile id).Compares entered direction ∧
        IsIdentifier name ∧ (entered.toList = name ∨ entered.toList = name ++ ['\n']) := by
  have hread : Draft.read (lampRequest "brightness") = .valid (lampDraft "brightness") := by rfl
  refine ⟨hread, fun id => ?_⟩
  obtain ⟨entered, name, direction, hentered, -, hname, hform, hcompares, -⟩ :=
    compares_compile hread rfl rfl id
  exact ⟨entered, name, direction, hentered, hcompares, hname, hform⟩

/-- A line break after the name is compiled with it. -/
theorem not_compares_lineBreak : ¬ ∀ (raw : Value) (d : Draft) (t : DeviceTrigger) (id : String),
    Draft.read raw = .valid d → d.trigger = .device t → t.change.mode = .attributeDelta →
      ∃ (attr : String) (direction : Direction), IsIdentifier attr.toList ∧
        (d.compile id).Compares attr direction := by
  intro hall
  have hread : Draft.read (lampRequest "brightness\n") = .valid (lampDraft "brightness\n") := by
    rfl
  obtain ⟨attr, direction, hidentifier, hcompares⟩ := hall _ _ _ "lamp" hread rfl rfl
  obtain rfl := hcompares.eq (compares_of_change rfl rfl "lamp")
  exact absurd (hidentifier.plain '\n' (by decide)) (by decide)

end Draft

end HomePortal

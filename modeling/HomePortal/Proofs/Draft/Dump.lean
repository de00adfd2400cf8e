import HomePortal.Proofs.Draft.Stable
/-!
Drafts written out with all their fields. Reading is a normalisation: what it writes out is read
as the same draft again.
-/

namespace HomePortal

open Entries HomePortal.Field

/-- The names that fields are written under: their own, or those that requests use. -/
inductive Naming where
  | own
  | request

namespace Naming

def requestNames : List (String × String) :=
  [("entity_id", "entityId"), ("from_", "from"), ("for_seconds", "forSeconds"),
    ("schedule_type", "scheduleType")]

def apply : Naming → String → String
  | own, name => name
  | request, name => (requestNames.lookup name).getD name

end Naming

variable {naming : Naming}

def Sheet.dump (s : Sheet) (naming : Naming) : Value :=
  .record (s.fields.map fun field => (naming.apply field.1, field.2))

def Draft.dump (d : Draft) (naming : Naming) : Value :=
  .record [("alias", .text d.title), ("description", .ofOption Value.text d.description),
    ("mode", .text d.mode.name), ("enabled", .ofOption Value.bool d.enabled),
    ("trigger", d.trigger.sheet.dump naming), ("action", d.action.sheet.dump naming)]

namespace Entries

variable {α : Type} {fields : Entries} {read : Value → Checked α} {a : α}

theorem required_of_first? {name : String} {others : List String} {v : Value}
    (h : ∃ used, fields.first? (name :: others) = some (used, v)) (hv : read v = .valid a) :
    fields.required name others read = .valid a := by
  obtain ⟨used, hused⟩ := h
  exact required_eq_valid.2 ⟨used, v, hused, hv⟩

theorem optional_of_first? {names : List String} {default : α} {v : Value}
    (h : ∃ used, fields.first? names = some (used, v)) (hv : read v = .valid a) :
    fields.optional names default read = .valid a := by
  obtain ⟨used, hused⟩ := h
  rw [optional, hused]
  exact Checked.under_eq_valid.2 hv

end Entries

namespace Field

variable {α : Type} {fields dumped : Entries} {read : Value → Checked α} {write : α → Value}
  {a : α}

/-- A field that was read is read again from what it is written out as. -/
theorem IsStable.required {name : String} {others : List String} (hstable : IsStable read write)
    (h : fields.required name others read = .valid a)
    (hdumped : ∃ used, dumped.first? (name :: others) = some (used, write a)) :
    dumped.required name others read = .valid a := by
  obtain ⟨_, v, -, hv⟩ := required_eq_valid.1 h
  exact required_of_first? hdumped (hstable hv)

theorem IsStable.optional {names : List String} {default : α} (hstable : IsStable read write)
    (hdefault : read (write default) = .valid default)
    (h : fields.optional names default read = .valid a)
    (hdumped : ∃ used, dumped.first? names = some (used, write a)) :
    dumped.optional names default read = .valid a := by
  refine optional_of_first? hdumped ?_
  unfold Entries.optional at h
  split at h
  · exact hstable (Checked.under_eq_valid.1 h)
  · cases h
    exact hdefault

/-- Where null stands for no value, it is written out as null. -/
theorem IsStable.orNull_optional {names : List String} {found : Option α}
    (hstable : IsStable read write) (hwrite : ∀ a, write a ≠ .null)
    (h : fields.optional names none (Field.orNull read) = .valid found)
    (hdumped : ∃ used, dumped.first? names = some (used, .ofOption write found)) :
    dumped.optional names none (Field.orNull read) = .valid found :=
  IsStable.optional (hstable.orNull hwrite) rfl h hdumped

/-- The kind of a mapping tells how its fields are read. -/
theorem tagged_eq_under {kinds : List (String × (Entries → Checked α))} {s : String}
    {r : Entries → Checked α} (hget : fields.get? "type" = some (.text s))
    (hlookup : kinds.lookup s = some r) : tagged kinds (.mapping fields) = (r fields).under s := by
  have hdisplay : kinds.lookup (Value.text s).display = some r := hlookup
  rw [tagged, hget]
  dsimp only
  rw [hdisplay]

theorem tagged_of_lookup {kinds : List (String × (Entries → Checked α))} {s : String}
    {r : Entries → Checked α}
    (hget : fields.get? "type" = some (.text s)) (hlookup : kinds.lookup s = some r)
    (hread : r fields = .valid a) : tagged kinds (.mapping fields) = .valid a := by
  rw [tagged_eq_under hget hlookup]
  exact Checked.under_eq_valid.2 hread

theorem isStable_choice {known : List (String × α)} {name : α → String}
    (h : ∀ a, known.lookup (name a) = some a) :
    IsStable (choice known) fun a => .text (name a) := by
  intro v a _
  rw [choice, h]

end Field

namespace Trigger

theorem isStable_changeMode : IsStable (choice changeModes) fun m => .text m.name :=
  isStable_choice fun m => by cases m <;> rfl

theorem isStable_direction : IsStable (choice directions) fun d => .text d.name :=
  isStable_choice fun d => by cases d <;> rfl

theorem isStable_frequency : IsStable (choice frequencies) fun f => .text f.name :=
  isStable_choice fun f => by cases f <;> rfl

theorem read_dump_state {fields : Entries} {t : Trigger} (h : ofStateFields fields = .valid t) :
    tagged kinds (t.sheet.dump naming) = .valid t := by
  obtain ⟨s, rfl, hentity, hafter, hbefore, hfor⟩ := ofStateFields_eq_valid.1 h
  refine tagged_of_lookup (s := "state") (by cases naming <;> rfl) rfl
    (ofStateFields_eq_valid.2 ⟨s, rfl, ?_, ?_, ?_, ?_⟩)
  · refine isStable_entityId.required hentity ?_
    cases naming <;> exact ⟨_, rfl⟩
  · refine isStable_setting.orNull_optional setting_ne_null hafter ?_
    cases naming <;> exact ⟨_, rfl⟩
  · refine isStable_text.orNull_optional (fun _ => nofun) hbefore ?_
    cases naming <;> exact ⟨_, rfl⟩
  · refine isStable_duration.orNull_optional number_ne_null hfor ?_
    cases naming <;> exact ⟨_, rfl⟩

theorem read_dump_device {fields : Entries} {t : Trigger} (h : ofDeviceFields fields = .valid t) :
    tagged kinds (t.sheet.dump naming) = .valid t := by
  obtain ⟨d, rfl, hentity, hdays, mode, after, direction, attr, hmode, hafter, hdirection, hattr,
    hchange⟩ := ofDeviceFields_eq_valid.1 h
  obtain ⟨rfl, rfl, rfl, rfl⟩ := change_eq_valid.1 hchange
  refine tagged_of_lookup (s := "device") (by cases naming <;> rfl) rfl
    (ofDeviceFields_eq_valid.2 ⟨d, rfl, ?_, ?_, _, _, _, _, ?_, ?_, ?_, ?_, hchange⟩)
  · refine isStable_entityId.required hentity ?_
    cases naming <;> exact ⟨_, rfl⟩
  · refine isStable_weekdays.orNull_optional (fun _ => nofun) hdays ?_
    cases naming <;> exact ⟨_, rfl⟩
  · refine isStable_changeMode.required hmode ?_
    cases naming <;> exact ⟨_, rfl⟩
  · refine isStable_setting.orNull_optional setting_ne_null hafter ?_
    cases naming <;> exact ⟨_, rfl⟩
  · refine isStable_direction.orNull_optional (fun _ => nofun) hdirection ?_
    cases naming <;> exact ⟨_, rfl⟩
  · refine isStable_attributeName.orNull_optional (fun _ => nofun) hattr ?_
    cases naming <;> exact ⟨_, rfl⟩

theorem read_dump_schedule {fields : Entries} {t : Trigger}
    (h : ofScheduleFields fields = .valid t) : tagged kinds (t.sheet.dump naming) = .valid t := by
  obtain ⟨s, rfl, htime, frequency, weekdays, day, hfrequency, hweekdays, hday, hdays⟩ :=
    ofScheduleFields_eq_valid.1 h
  obtain ⟨rfl, rfl, rfl⟩ := fields_of_days hdays
  refine tagged_of_lookup (s := "schedule") (by cases naming <;> rfl) rfl
    (ofScheduleFields_eq_valid.2 ⟨s, rfl, ?_, _, _, _, ?_, ?_, ?_, hdays⟩)
  · refine isStable_timeOfDay.required htime ?_
    cases naming <;> exact ⟨_, rfl⟩
  · refine isStable_frequency.required hfrequency ?_
    cases naming <;> exact ⟨_, rfl⟩
  · refine isStable_weekdays.orNull_optional (fun _ => nofun) hweekdays ?_
    cases naming <;> exact ⟨_, rfl⟩
  · refine isStable_dayOfMonth.orNull_optional (fun _ => nofun) hday ?_
    cases naming <;> exact ⟨_, rfl⟩

theorem read_dump_trigger {v : Value} {t : Trigger} (h : tagged kinds v = .valid t) :
    tagged kinds (t.sheet.dump naming) = .valid t := by
  obtain ⟨fields, -, hstate | hdevice | hschedule⟩ := read_of_tagged h
  · exact read_dump_state hstate
  · exact read_dump_device hdevice
  · exact read_dump_schedule hschedule

end Trigger

namespace Action

theorem read_dump_command {fields : Entries} {a : Action} (h : ofCommandFields fields = .valid a) :
    tagged kinds (a.sheet.dump naming) = .valid a := by
  obtain ⟨entity, c, value, hentity, -, hvalue, hwith⟩ := ofCommandFields_eq_valid.1 h
  obtain ⟨found, rfl, hfound⟩ := commandWith_eq_valid.1 hwith
  have hparts : found.name = c.name ∧ found.value = value := by
    cases c with
    | plain c =>
      obtain rfl := hfound
      exact ⟨rfl, rfl⟩
    | level c =>
      obtain ⟨n, rfl, rfl⟩ := hfound
      exact ⟨rfl, rfl⟩
  obtain ⟨hname, rfl⟩ := hparts
  refine tagged_of_lookup (s := "device_command") (by cases naming <;> rfl) rfl
    (ofCommandFields_eq_valid.2 ⟨entity, c, _, ?_, ?_, ?_, hwith⟩)
  · refine isStable_entityId.required hentity ?_
    cases naming <;> exact ⟨_, rfl⟩
  · refine required_of_first? ?_ (commandId_name c)
    rw [← hname]
    cases naming <;> exact ⟨_, rfl⟩
  · refine IsStable.optional (isStable_commandValue c) (by cases c <;> rfl) hvalue ?_
    cases naming <;> exact ⟨_, rfl⟩

theorem read_dump_action {v : Value} {a : Action} (h : tagged kinds v = .valid a) :
    tagged kinds (a.sheet.dump naming) = .valid a := by
  obtain ⟨fields, -, ⟨p, hpower⟩ | ⟨l, hlevel⟩ | hcommand⟩ := read_of_tagged h
  · obtain ⟨entity, rfl, hentity⟩ := ofPowerFields_eq_valid.1 hpower
    refine tagged_of_lookup (s := p.name) (r := ofPowerFields p) (by cases naming <;> rfl)
      (by cases p <;> rfl) (ofPowerFields_eq_valid.2 ⟨entity, rfl, ?_⟩)
    exact isStable_entityId.required hentity (by cases naming <;> exact ⟨_, rfl⟩)
  · obtain ⟨entity, n, rfl, hentity, hvalue⟩ := ofLevelFields_eq_valid.1 hlevel
    refine tagged_of_lookup (s := l.name) (r := ofLevelFields l) (by cases naming <;> rfl)
      (by cases l <;> rfl) (ofLevelFields_eq_valid.2 ⟨entity, n, rfl, ?_, ?_⟩)
    · refine isStable_entityId.required hentity ?_
      cases naming <;> exact ⟨_, rfl⟩
    · refine isStable_number.required hvalue ?_
      cases naming <;> exact ⟨_, rfl⟩
  · exact read_dump_command hcommand

end Action

namespace Draft

theorem isStable_mode : IsStable (choice modes) fun m => .text m.name :=
  isStable_choice fun m => by cases m <;> rfl

/-- A draft that was read is read again from all its fields, under either names. -/
theorem read_dump {raw : Value} {d : Draft} (h : Draft.read raw = .valid d) (naming : Naming) :
    Draft.read (d.dump naming) = .valid d := by
  obtain ⟨fields, -, htitle, hdescription, hmode, henabled, htrigger, haction⟩ :=
    Draft.read_eq_valid.1 h
  obtain ⟨_, trigger, -, htrigger⟩ := required_eq_valid.1 htrigger
  obtain ⟨_, action, -, haction⟩ := required_eq_valid.1 haction
  refine Draft.read_eq_valid.2 ⟨_, rfl, ?_, ?_, ?_, ?_, ?_, ?_⟩
  · exact isStable_title.required htitle ⟨_, rfl⟩
  · exact isStable_text.orNull_optional (fun _ => nofun) hdescription ⟨_, rfl⟩
  · exact isStable_mode.optional rfl hmode ⟨_, rfl⟩
  · exact isStable_boolean.orNull_optional (fun _ => nofun) henabled ⟨_, rfl⟩
  · exact required_of_first? ⟨_, rfl⟩ (Trigger.read_dump_trigger htrigger)
  · exact required_of_first? ⟨_, rfl⟩ (Action.read_dump_action haction)

def heatingRequest : Value :=
  .record [("alias", .text " Heating "),
    ("trigger", .record [("type", .text "schedule"), ("scheduleType", .text "monthly"),
      ("at", .text " 7:05 "), ("day", .float ⟨0x402E000000000000⟩),
      ("weekdays", .list [.text "Sun", .text "someday", .text " mon "])]),
    ("action", .record [("type", .text "device_command"), ("entity_id", .text " Climate.Bath-Room"),
      ("command", .text "boiler/set_temperature"), ("value", .text "2_1.5")])]

def heatingDraft : Draft where
  title := "Heating"
  description := none
  mode := .single
  enabled := none
  trigger := .schedule ⟨.monthly 15 (some [.mon, .sun]), ⟨['7'], ['0', '5'], none⟩⟩
  action := .command (.level .temperature (.real ⟨0x4035800000000000⟩)) "climate.bath-room"

theorem read_dump_heating : Draft.read heatingRequest = .valid heatingDraft ∧
    ∀ naming, Draft.read (heatingDraft.dump naming) = .valid heatingDraft :=
  have hread : Draft.read heatingRequest = .valid heatingDraft := by rfl
  ⟨hread, read_dump hread⟩

end Draft

end HomePortal

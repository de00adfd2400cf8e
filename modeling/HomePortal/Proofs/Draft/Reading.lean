import HomePortal.Draft.Reading
import HomePortal.Proofs.Checked
/-!
What a draft that was read comes from: every part of it is the reading of one field.
-/

namespace HomePortal

open Entries HomePortal.Field

namespace Field

theorem record_eq_valid {type : String} {v : Value} {fields : Entries} :
    record type v = .valid fields ↔ v = .mapping fields := by
  unfold record
  split
  · simp [eq_comm]
  · rename_i hv
    simp only [Checked.refuse, reduceCtorEq, false_iff]
    exact hv fields

theorem text_eq_valid {v : Value} {s : String} : text v = .valid s ↔ v = .text s := by
  unfold text
  split
  · simp
  · rename_i hne
    exact ⟨nofun, fun htext => (hne s htext).elim⟩

theorem mem_of_lookup {α : Type} {known : List (String × α)} {s : String} {a : α}
    (h : known.lookup s = some a) : (s, a) ∈ known := by
  obtain ⟨before, after, rfl, -⟩ := List.lookup_eq_some_iff.1 h
  exact List.mem_append.2 (.inr List.mem_cons_self)

/-- A value with a known type was read as that type says. -/
theorem tagged_eq_valid {α : Type} {kinds : List (String × (Entries → Checked α))} {v : Value}
    {a : α} (h : tagged kinds v = .valid a) :
    ∃ fields : Entries, ∃ s read, v = .mapping fields ∧ fields.get? "type" = some (.text s) ∧
      kinds.lookup s = some read ∧ read fields = .valid a := by
  unfold tagged at h
  split at h
  · rename_i fields
    split at h
    · simp [Checked.refuse] at h
    · split at h
      · rename_i read hget hlookup
        exact ⟨fields, _, read, rfl, hget, hlookup, Checked.under_eq_valid.1 h⟩
      · simp [Checked.refuse] at h
  · simp [Checked.refuse] at h

end Field

namespace Trigger

theorem ofStateFields_eq_valid {fields : Entries} {t : Trigger} :
    ofStateFields fields = .valid t ↔ ∃ s : StateTrigger, t = .state s ∧
      required fields "entityId" ["entity_id"] entityId = .valid s.entity ∧
      optional fields ["to"] none (orNull setting) = .valid s.after ∧
      optional fields ["from", "from_"] none (orNull text) = .valid s.before ∧
      optional fields ["forSeconds", "for_seconds"] none (orNull duration) =
        .valid s.forSeconds := by
  simp only [ofStateFields, Checked.seq_eq_valid, Checked.map_eq_valid]
  constructor
  · intro h
    obtain ⟨_, forSeconds, ⟨_, before, ⟨_, after, ⟨entity, hentity, rfl⟩, hafter, rfl⟩, hbefore,
      rfl⟩, hfor, rfl⟩ := h
    exact ⟨_, rfl, hentity, hafter, hbefore, hfor⟩
  · intro h
    obtain ⟨s, rfl, hentity, hafter, hbefore, hfor⟩ := h
    exact ⟨_, _, ⟨_, _, ⟨_, _, ⟨_, hentity, rfl⟩, hafter, rfl⟩, hbefore, rfl⟩, hfor, rfl⟩

/-- A change is made of its own fields. -/
theorem change_eq_valid {mode : ChangeMode} {after : Option Setting} {direction : Option Direction}
    {attr : Option String} {c : Change} : change mode after direction attr = .valid c ↔
      c.mode = mode ∧ c.after = after ∧ c.direction = direction ∧ c.attr = attr := by
  constructor
  · intro h
    unfold change at h
    split at h
    all_goals simp only [Checked.refuse, reduceCtorEq, Checked.valid.injEq] at h
    all_goals
      subst h
      exact ⟨rfl, rfl, rfl, rfl⟩
  · rintro ⟨rfl, rfl, rfl, rfl⟩
    cases c <;> rfl

theorem ofDeviceFields_eq_valid {fields : Entries} {t : Trigger} :
    ofDeviceFields fields = .valid t ↔ ∃ d : DeviceTrigger, t = .device d ∧
      required fields "entityId" ["entity_id"] entityId = .valid d.entity ∧
      optional fields ["weekdays"] none (orNull weekdays) = .valid d.weekdays ∧
      ∃ mode after direction attr,
        required fields "mode" [] (choice changeModes) = .valid mode ∧
        optional fields ["to"] none (orNull setting) = .valid after ∧
        optional fields ["direction"] none (orNull (choice directions)) = .valid direction ∧
        optional fields ["attribute"] none (orNull attributeName) = .valid attr ∧
        change mode after direction attr = .valid d.change := by
  simp only [ofDeviceFields, Checked.andThen_eq_valid, Checked.seq_eq_valid, Checked.map_eq_valid,
    id_eq]
  constructor
  · intro h
    obtain ⟨_, ⟨_, days, ⟨_, attr, ⟨_, direction, ⟨_, after, ⟨_, mode, ⟨entity, hentity, rfl⟩,
      hmode, rfl⟩, hafter, rfl⟩, hdirection, rfl⟩, hattr, rfl⟩, hdays, rfl⟩, hdevice⟩ := h
    obtain ⟨change, hchange, rfl⟩ := Checked.map_eq_valid.1 hdevice
    exact ⟨_, rfl, hentity, hdays, mode, after, direction, attr, hmode, hafter, hdirection, hattr,
      hchange⟩
  · intro h
    obtain ⟨d, rfl, hentity, hdays, mode, after, direction, attr, hmode, hafter, hdirection, hattr,
      hchange⟩ := h
    exact ⟨_, ⟨_, _, ⟨_, _, ⟨_, _, ⟨_, _, ⟨_, _, ⟨_, hentity, rfl⟩, hmode, rfl⟩, hafter, rfl⟩,
      hdirection, rfl⟩, hattr, rfl⟩, hdays, rfl⟩, Checked.map_eq_valid.2 ⟨_, hchange, rfl⟩⟩

/-- Days keep what they are made of. -/
theorem fields_of_days {frequency : Frequency} {weekdays : Option (List Weekday)}
    {day : Option Int} {x : Days} (h : days frequency weekdays day = .valid x) :
    x.frequency = frequency ∧ x.weekdays = weekdays ∧ x.day = day := by
  unfold days at h
  split at h
  all_goals simp only [Checked.refuse, reduceCtorEq, Checked.valid.injEq] at h
  all_goals
    subst h
    exact ⟨rfl, rfl, rfl⟩

theorem ofScheduleFields_eq_valid {fields : Entries} {t : Trigger} :
    ofScheduleFields fields = .valid t ↔ ∃ s : ScheduleTrigger, t = .schedule s ∧
      required fields "at" [] timeOfDay = .valid s.time ∧
      ∃ frequency weekdays day,
        required fields "scheduleType" ["schedule_type"] (choice frequencies) = .valid frequency ∧
        optional fields ["weekdays"] none (orNull Field.weekdays) = .valid weekdays ∧
        optional fields ["day"] none (orNull dayOfMonth) = .valid day ∧
        days frequency weekdays day = .valid s.days := by
  simp only [ofScheduleFields, Checked.andThen_eq_valid, Checked.seq_eq_valid,
    Checked.map_eq_valid, id_eq]
  constructor
  · intro h
    obtain ⟨_, ⟨_, day, ⟨_, weekdays, ⟨_, time, ⟨frequency, hfrequency, rfl⟩, htime, rfl⟩,
      hweekdays, rfl⟩, hday, rfl⟩, hschedule⟩ := h
    obtain ⟨days, hdays, rfl⟩ := Checked.map_eq_valid.1 hschedule
    exact ⟨_, rfl, htime, frequency, weekdays, day, hfrequency, hweekdays, hday, hdays⟩
  · intro h
    obtain ⟨s, rfl, htime, frequency, weekdays, day, hfrequency, hweekdays, hday, hdays⟩ := h
    exact ⟨_, ⟨_, _, ⟨_, _, ⟨_, _, ⟨_, hfrequency, rfl⟩, htime, rfl⟩, hweekdays, rfl⟩, hday, rfl⟩,
      Checked.map_eq_valid.2 ⟨_, hdays, rfl⟩⟩

/-- A trigger is read by one of the three readings. -/
theorem read_of_tagged {v : Value} {t : Trigger} (h : tagged kinds v = .valid t) :
    ∃ fields, v = .mapping fields ∧ (ofStateFields fields = .valid t ∨
      ofDeviceFields fields = .valid t ∨ ofScheduleFields fields = .valid t) := by
  obtain ⟨fields, s, read, rfl, -, hlookup, hread⟩ := tagged_eq_valid h
  have hmem : (s, read) ∈ kinds := mem_of_lookup hlookup
  simp only [kinds, List.mem_cons, Prod.mk.injEq, List.not_mem_nil, or_false] at hmem
  refine ⟨fields, rfl, ?_⟩
  obtain ⟨-, rfl⟩ | ⟨-, rfl⟩ | ⟨-, rfl⟩ := hmem
  · exact .inl hread
  · exact .inr (.inl hread)
  · exact .inr (.inr hread)

end Trigger

namespace Action

theorem ofPowerFields_eq_valid {p : Power} {fields : Entries} {a : Action} :
    ofPowerFields p fields = .valid a ↔ ∃ entity, a = .power p entity ∧
      required fields "entityId" ["entity_id"] entityId = .valid entity := by
  simp only [ofPowerFields, Checked.map_eq_valid]
  constructor
  · intro h
    obtain ⟨entity, hentity, rfl⟩ := h
    exact ⟨entity, rfl, hentity⟩
  · intro h
    obtain ⟨entity, rfl, hentity⟩ := h
    exact ⟨entity, hentity, rfl⟩

theorem ofLevelFields_eq_valid {l : Level} {fields : Entries} {a : Action} :
    ofLevelFields l fields = .valid a ↔ ∃ entity value, a = .level l entity value ∧
      required fields "entityId" ["entity_id"] entityId = .valid entity ∧
      required fields "value" [] number = .valid value := by
  simp only [ofLevelFields, Checked.seq_eq_valid, Checked.map_eq_valid]
  constructor
  · intro h
    obtain ⟨_, value, ⟨entity, hentity, rfl⟩, hvalue, rfl⟩ := h
    exact ⟨entity, value, rfl, hentity, hvalue⟩
  · intro h
    obtain ⟨entity, value, rfl, hentity, hvalue⟩ := h
    exact ⟨_, value, ⟨entity, hentity, rfl⟩, hvalue, rfl⟩

theorem commandWith_eq_valid {entity : String} {c : CommandId} {value : Option Setting}
    {a : Action} : commandWith entity c value = .valid a ↔ ∃ found, a = .command found entity ∧
      match c with
      | .plain p => found = .plain p value
      | .level l => ∃ n, value = some (.number n) ∧ found = .level l n := by
  unfold commandWith
  split
  · simp [eq_comm]
  · simp [eq_comm]
  · rename_i hvalue
    simp only [Checked.refuse, reduceCtorEq, false_iff]
    intro h
    obtain ⟨_, -, n, rfl, -⟩ := h
    exact hvalue n rfl

theorem ofCommandFields_eq_valid {fields : Entries} {a : Action} :
    ofCommandFields fields = .valid a ↔ ∃ entity c value,
      required fields "entityId" ["entity_id"] entityId = .valid entity ∧
      required fields "command" [] commandId = .valid c ∧
      optional fields ["value"] none (commandValue (.valid c)) = .valid value ∧
      commandWith entity c value = .valid a := by
  simp only [ofCommandFields, Checked.andThen_eq_valid, Checked.seq_eq_valid,
    Checked.map_eq_valid, id_eq]
  constructor
  · intro h
    obtain ⟨_, ⟨_, value, ⟨_, c, ⟨entity, hentity, rfl⟩, hc, rfl⟩, hvalue, rfl⟩, hcommand⟩ := h
    rw [hc] at hvalue
    exact ⟨entity, c, value, hentity, hc, hvalue, hcommand⟩
  · intro h
    obtain ⟨entity, c, value, hentity, hc, hvalue, hcommand⟩ := h
    rw [← hc] at hvalue
    exact ⟨_, ⟨_, value, ⟨_, c, ⟨entity, hentity, rfl⟩, hc, rfl⟩, hvalue, rfl⟩, hcommand⟩

/-- An action is read by one of the three readings. -/
theorem read_of_tagged {v : Value} {a : Action} (h : tagged kinds v = .valid a) :
    ∃ fields, v = .mapping fields ∧ ((∃ p, ofPowerFields p fields = .valid a) ∨
      (∃ l, ofLevelFields l fields = .valid a) ∨ ofCommandFields fields = .valid a) := by
  obtain ⟨fields, s, read, rfl, -, hlookup, hread⟩ := tagged_eq_valid h
  have hmem : (s, read) ∈ kinds := mem_of_lookup hlookup
  simp only [kinds, List.mem_append, List.mem_map, List.mem_singleton, Prod.mk.injEq] at hmem
  refine ⟨fields, rfl, ?_⟩
  obtain (⟨p, -, -, rfl⟩ | ⟨l, -, -, rfl⟩) | ⟨-, rfl⟩ := hmem
  · exact .inl ⟨p, hread⟩
  · exact .inr (.inl ⟨l, hread⟩)
  · exact .inr (.inr hread)

end Action

/-- A draft is the reading of the fields of a mapping. -/
theorem Draft.read_eq_valid {raw : Value} {d : Draft} :
    Draft.read raw = .valid d ↔ ∃ fields, raw = .mapping fields ∧
      required fields "alias" [] Field.title = .valid d.title ∧
      optional fields ["description"] none (orNull text) = .valid d.description ∧
      optional fields ["mode"] .single (choice modes) = .valid d.mode ∧
      optional fields ["enabled"] none (orNull boolean) = .valid d.enabled ∧
      required fields "trigger" [] (tagged Trigger.kinds) = .valid d.trigger ∧
      required fields "action" [] (tagged Action.kinds) = .valid d.action := by
  simp only [Draft.read, Checked.andThen_eq_valid, Checked.seq_eq_valid, Checked.map_eq_valid,
    record_eq_valid]
  constructor
  · intro h
    obtain ⟨fields, rfl, _, action, ⟨_, trigger, ⟨_, enabled, ⟨_, mode, ⟨_, description, ⟨title,
      htitle, rfl⟩, hdescription, rfl⟩, hmode, rfl⟩, henabled, rfl⟩, htrigger, rfl⟩, haction, rfl⟩ := h
    exact ⟨fields, rfl, htitle, hdescription, hmode, henabled, htrigger, haction⟩
  · intro h
    obtain ⟨fields, rfl, htitle, hdescription, hmode, henabled, htrigger, haction⟩ := h
    exact ⟨fields, rfl, _, _, ⟨_, _, ⟨_, _, ⟨_, _, ⟨_, _, ⟨_, htitle, rfl⟩, hdescription, rfl⟩,
      hmode, rfl⟩, henabled, rfl⟩, htrigger, rfl⟩, haction, rfl⟩

end HomePortal

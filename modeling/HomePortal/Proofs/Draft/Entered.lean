import HomePortal.Proofs.Draft.Stable
/-!
Triggers as they were entered, beside what they are read as: each part of a trigger comes from the
value under its own name.
-/

namespace HomePortal

open HomePortal.Field

def Value.field? (v : Value) (name : String) : Option Value :=
  match v with
  | .mapping fields => Entries.get? fields name
  | _ => none

namespace Entries

variable {α : Type} {fields : Entries} {name : String} {read : Value → Checked α} {a : α}

theorem first?_singleton {found : String × Value} :
    fields.first? [name] = some found ↔ ∃ v, fields.get? name = some v ∧ (name, v) = found := by
  simp only [first?, List.findSome?_cons, List.findSome?_nil]
  cases fields.get? name <;> simp

theorem get?_or_of_first? {other used : String} {v : Value}
    (h : fields.first? [name, other] = some (used, v)) :
    (fields.get? name).or (fields.get? other) = some v := by
  simp only [first?, List.findSome?_cons, List.findSome?_nil] at h
  cases hown : fields.get? name with
  | some w => simpa [hown] using congrArg (Option.map (·.2)) h
  | none => cases hother : fields.get? other <;> simp_all

/-- A field with one name was read from the value under it. -/
theorem required_singleton : fields.required name [] read = .valid a ↔
    ∃ v, fields.get? name = some v ∧ read v = .valid a := by
  simp only [required_eq_valid, first?_singleton, Prod.mk.injEq]
  constructor
  · rintro ⟨_, _, ⟨v, hget, rfl, rfl⟩, hv⟩
    exact ⟨v, hget, hv⟩
  · rintro ⟨v, hget, hv⟩
    exact ⟨name, v, ⟨v, hget, rfl, rfl⟩, hv⟩

theorem get?_of_optional (h : fields.optional [name] none (orNull read) = .valid (some a)) :
    ∃ v, fields.get? name = some v ∧ read v = .valid a := by
  unfold optional at h
  split at h
  · rename_i used v hfirst
    obtain ⟨_, hget, heq⟩ := first?_singleton.1 hfirst
    obtain ⟨rfl, rfl⟩ := Prod.mk.inj heq
    have hread := Checked.under_eq_valid.1 h
    refine ⟨_, hget, (orNull_eq_some ?_).1 hread⟩
    rintro rfl
    cases hread
  · cases h

/-- What stands there and is not null was read. -/
theorem exists_of_get? {v : Value} {found : Option α}
    (h : fields.optional [name] none (orNull read) = .valid found)
    (hget : fields.get? name = some v) (hne : v ≠ .null) :
    ∃ a, found = some a ∧ read v = .valid a := by
  have hread : orNull read v = .valid found := by
    rw [optional, first?_singleton.2 ⟨v, hget, rfl⟩] at h
    exact Checked.under_eq_valid.1 h
  cases found with
  | none =>
    unfold orNull at hread
    split at hread
    · exact absurd rfl hne
    · obtain ⟨_, -, heq⟩ := Checked.map_eq_valid.1 hread
      cases heq
  | some a => exact ⟨a, rfl, (orNull_eq_some hne).1 hread⟩

end Entries

/-- A named choice was entered as its name. -/
theorem Field.text_of_choice {α : Type} {all : List α} {name : α → String} {v : Value} {a : α}
    (h : choice (all.map fun a => (name a, a)) v = .valid a) : v = .text (name a) := by
  unfold choice at h
  split at h
  · split at h
    · rename_i found hlookup
      obtain rfl := Checked.valid.inj h
      obtain ⟨b, -, heq⟩ := List.mem_map.1 (mem_of_lookup hlookup)
      obtain ⟨rfl, rfl⟩ := Prod.mk.inj heq
      rfl
    · simp [Checked.refuse] at h
  · simp [Checked.refuse] at h

namespace Draft

variable {raw : Value} {d : Draft}

def entered? (raw : Value) (name : String) : Option Value :=
  (raw.field? "trigger").bind fun trigger => trigger.field? name

theorem exists_entered (h : Draft.read raw = .valid d) : ∃ fields : Entries,
    (∀ name, entered? raw name = fields.get? name) ∧
      (Trigger.ofStateFields fields = .valid d.trigger ∨
        Trigger.ofDeviceFields fields = .valid d.trigger ∨
          Trigger.ofScheduleFields fields = .valid d.trigger) := by
  obtain ⟨top, rfl, -, -, -, -, htrigger, -⟩ := Draft.read_eq_valid.1 h
  obtain ⟨v, hget, hv⟩ := Entries.required_singleton.1 htrigger
  obtain ⟨fields, rfl, hread⟩ := Trigger.read_of_tagged hv
  refine ⟨fields, fun name => ?_, hread⟩
  rw [entered?, show (Value.mapping top).field? "trigger" = some (.mapping fields) from hget]
  rfl

/-- The parts of a device trigger come from its fields. -/
theorem entered_device {t : DeviceTrigger} (h : Draft.read raw = .valid d)
    (ht : d.trigger = .device t) : ∃ fields : Entries,
      (∀ name, entered? raw name = fields.get? name) ∧
        fields.optional ["direction"] none (orNull (choice Trigger.directions)) =
          .valid t.change.direction ∧
        fields.optional ["attribute"] none (orNull attributeName) = .valid t.change.attr ∧
        fields.optional ["weekdays"] none (orNull weekdays) = .valid t.weekdays := by
  obtain ⟨fields, hentered, hstate | hdevice | hschedule⟩ := exists_entered h
  · obtain ⟨s, heq, -⟩ := Trigger.ofStateFields_eq_valid.1 hstate
    cases ht.symm.trans heq
  · obtain ⟨_, heq, -, hweekdays, _, _, _, _, -, -, hdirection, hattr, hchange⟩ :=
      Trigger.ofDeviceFields_eq_valid.1 hdevice
    obtain rfl := Trigger.device.inj (ht.symm.trans heq)
    obtain ⟨-, -, rfl, rfl⟩ := Trigger.change_eq_valid.1 hchange
    exact ⟨fields, hentered, hdirection, hattr, hweekdays⟩
  · obtain ⟨s, heq, -⟩ := Trigger.ofScheduleFields_eq_valid.1 hschedule
    cases ht.symm.trans heq

/-- The parts of a schedule come from its fields. -/
theorem entered_schedule {t : ScheduleTrigger} (h : Draft.read raw = .valid d)
    (ht : d.trigger = .schedule t) : ∃ fields : Entries,
      (∀ name, entered? raw name = fields.get? name) ∧
        fields.required "scheduleType" ["schedule_type"] (choice Trigger.frequencies) =
          .valid t.days.frequency ∧
        fields.required "at" [] timeOfDay = .valid t.time ∧
        fields.optional ["weekdays"] none (orNull weekdays) = .valid t.days.weekdays ∧
        fields.optional ["day"] none (orNull dayOfMonth) = .valid t.days.day := by
  obtain ⟨fields, hentered, hstate | hdevice | hschedule⟩ := exists_entered h
  · obtain ⟨s, heq, -⟩ := Trigger.ofStateFields_eq_valid.1 hstate
    cases ht.symm.trans heq
  · obtain ⟨s, heq, -⟩ := Trigger.ofDeviceFields_eq_valid.1 hdevice
    cases ht.symm.trans heq
  · obtain ⟨_, heq, htime, _, _, _, hfrequency, hweekdays, hday, hdays⟩ :=
      Trigger.ofScheduleFields_eq_valid.1 hschedule
    obtain rfl := Trigger.schedule.inj (ht.symm.trans heq)
    obtain ⟨rfl, rfl, rfl⟩ := Trigger.fields_of_days hdays
    exact ⟨fields, hentered, hfrequency, htime, hweekdays, hday⟩

theorem triggers_compile (d : Draft) (id : String) :
    (d.compile id).triggers = [d.trigger.item] :=
  rfl

theorem conditions_compile (d : Draft) (id : String) :
    (d.compile id).conditions = d.trigger.conditions :=
  rfl

end Draft

end HomePortal

import HomePortal.Proofs.Draft.Reading
/-!
When reading a draft meets a number too large to be looked at: one of its numbers is an integer
without a nearest floating-point number, whatever else is wrong.
-/

namespace HomePortal

open Entries HomePortal.Field

def Value.IsHuge (v : Value) : Prop :=
  ∃ n : Int, v = .int n ∧ integerLimit ≤ n.natAbs

/-- A field holds such an integer, under the first of its names that is present. -/
def Entries.HasHuge (fields : Entries) (names : List String) : Prop :=
  ∃ used v, fields.first? names = some (used, v) ∧ v.IsHuge

namespace Field

variable {α : Type} {v : Value}

def IsSafe (read : Value → Checked α) : Prop :=
  ∀ v, read v ≠ .overflow

def IsNumeric (read : Value → Checked α) : Prop :=
  ∀ v, read v = .overflow ↔ v.IsHuge

theorem isSafe_text : IsSafe text := by
  intro v
  unfold text
  split <;> simp

theorem IsSafe.andThen {β : Type} {read : Value → Checked α} {f : α → Checked β} (h : IsSafe read)
    (hf : ∀ a, f a ≠ .overflow) : IsSafe fun v => (read v).andThen f := by
  intro v hv
  obtain hread | ⟨a, -, ha⟩ := Checked.andThen_eq_overflow.1 hv
  · exact h v hread
  · exact hf a ha

theorem IsSafe.orNull {read : Value → Checked α} (h : IsSafe read) : IsSafe (orNull read) := by
  intro v
  unfold Field.orNull
  split
  · simp
  · exact mt Checked.map_eq_overflow.1 (h _)

theorem isSafe_title : IsSafe title :=
  isSafe_text.andThen fun s => by
    dsimp only
    split <;> simp

theorem isSafe_entityId : IsSafe entityId :=
  isSafe_text.andThen fun s => by
    dsimp only
    split <;> simp

theorem isSafe_attributeName : IsSafe attributeName :=
  isSafe_text.andThen fun s => by split <;> simp

theorem isSafe_timeOfDay : IsSafe timeOfDay :=
  isSafe_text.andThen fun s => by
    split
    · simp
    · split <;> simp

theorem isSafe_boolean : IsSafe boolean := by
  intro v
  unfold boolean
  split <;> simp

theorem isSafe_choice (known : List (String × α)) : IsSafe (choice known) := by
  intro v
  unfold choice
  split
  · split <;> simp
  · simp

theorem isSafe_weekdays : IsSafe weekdays := by
  intro v
  unfold weekdays
  split
  · split <;> simp
  · simp

theorem isSafe_commandId : IsSafe commandId := by
  intro v
  unfold commandId
  split
  · split <;> simp
  · simp

theorem isNumeric_number : IsNumeric number := by
  intro v
  unfold number Value.IsHuge
  split
  · simp
  · split <;> simp
  · rename_i hint _
    refine iff_of_false (by simp) ?_
    rintro ⟨n, rfl, -⟩
    exact hint n rfl

theorem IsNumeric.andThen {β : Type} {read : Value → Checked α} {f : α → Checked β}
    (h : IsNumeric read) (hf : ∀ a, f a ≠ .overflow) :
    IsNumeric fun v => (read v).andThen f := by
  intro v
  rw [Checked.andThen_eq_overflow, h v]
  exact or_iff_left fun ⟨a, _, ha⟩ => hf a ha

theorem IsNumeric.orNull {read : Value → Checked α} (h : IsNumeric read) :
    IsNumeric (orNull read) := by
  intro v
  unfold Field.orNull
  split
  · exact iff_of_false nofun fun ⟨n, hn, _⟩ => nomatch hn
  · rw [Checked.map_eq_overflow, h]

theorem isNumeric_setting : IsNumeric setting := by
  intro v
  unfold setting
  split
  · exact iff_of_false nofun fun ⟨n, hn, _⟩ => nomatch hn
  · rw [Checked.map_eq_overflow, isNumeric_number]

theorem isNumeric_duration : IsNumeric duration :=
  isNumeric_number.andThen fun n => by split <;> simp

theorem isNumeric_dayOfMonth : IsNumeric dayOfMonth := by
  have hwhole : IsNumeric whole := isNumeric_number.andThen fun n => by
    split
    · simp
    · dsimp only
      split
      · simp
      · split <;> simp
  refine hwhole.andThen fun n => ?_
  split
  · simp
  · split <;> simp

/-- The number that a text writes is read as a floating-point number, so it is never too large. -/
theorem isNumeric_commandValue (c : Checked CommandId) : IsNumeric (commandValue c) := by
  refine isNumeric_setting.orNull.andThen fun found => ?_
  split
  · split
    · simp
    · rw [ne_eq, Checked.map_eq_overflow, isNumeric_number]
      rintro ⟨n, hn, -⟩
      cases hn
  · simp

/-- A value with a known type overflows if its fields do. -/
theorem tagged_eq_overflow {kinds : List (String × (Entries → Checked α))} {v : Value} :
    tagged kinds v = .overflow ↔ ∃ (fields : Entries) (s : String) (read : Entries → Checked α),
      v = .mapping fields ∧ fields.get? "type" = some (.text s) ∧ kinds.lookup s = some read ∧
        read fields = .overflow := by
  constructor
  · intro h
    unfold tagged at h
    split at h
    · rename_i fields
      split at h
      · simp at h
      · split at h
        · rename_i read hget hlookup
          exact ⟨fields, _, read, rfl, hget, hlookup, Checked.under_eq_overflow.1 h⟩
        · simp at h
    · simp at h
  · intro h
    obtain ⟨fields, s, read, rfl, hget, hlookup, hread⟩ := h
    have hdisplay : kinds.lookup (Value.text s).display = some read := hlookup
    rw [tagged, hget]
    dsimp only
    rw [hdisplay]
    exact Checked.under_eq_overflow.2 hread

variable {fields : Entries} {read : Value → Checked α}

theorem IsSafe.required (h : IsSafe read) (name : String) (others : List String) :
    fields.required name others read ≠ .overflow :=
  mt required_eq_overflow.1 fun ⟨_, v, _, hv⟩ => h v hv

theorem IsSafe.optional (h : IsSafe read) (names : List String) (default : α) :
    fields.optional names default read ≠ .overflow :=
  mt optional_eq_overflow.1 fun ⟨_, v, _, hv⟩ => h v hv

theorem IsNumeric.required (h : IsNumeric read) (name : String) (others : List String) :
    fields.required name others read = .overflow ↔ fields.HasHuge (name :: others) := by
  simp only [required_eq_overflow, h _, HasHuge]

theorem IsNumeric.optional (h : IsNumeric read) (names : List String) (default : α) :
    fields.optional names default read = .overflow ↔ fields.HasHuge names := by
  simp only [optional_eq_overflow, h _, HasHuge]

end Field

namespace Trigger

variable {fields : Entries}

theorem ofStateFields_eq_overflow : ofStateFields fields = .overflow ↔
    fields.HasHuge ["to"] ∨ fields.HasHuge ["forSeconds", "for_seconds"] := by
  simp only [ofStateFields, Checked.seq_eq_overflow, Checked.map_eq_overflow,
    isSafe_entityId.required, isNumeric_setting.orNull.optional, isSafe_text.orNull.optional,
    isNumeric_duration.orNull.optional, false_or, or_false]

theorem change_ne_overflow {mode : ChangeMode} {after : Option Setting}
    {direction : Option Direction} {attr : Option String} :
    change mode after direction attr ≠ .overflow := by
  unfold change
  split <;> simp

theorem ofDeviceFields_eq_overflow :
    ofDeviceFields fields = .overflow ↔ fields.HasHuge ["to"] := by
  rw [ofDeviceFields, Checked.andThen_eq_overflow]
  refine (or_iff_left ?_).trans ?_
  · rintro ⟨c, hc, hoverflow⟩
    simp only [Checked.seq_eq_valid, Checked.map_eq_valid] at hc
    obtain ⟨_, days, ⟨_, attr, ⟨_, direction, ⟨_, after, ⟨_, mode, ⟨entity, -, rfl⟩, -, rfl⟩, -,
      rfl⟩, -, rfl⟩, -, rfl⟩, -, rfl⟩ := hc
    exact change_ne_overflow (Checked.map_eq_overflow.1 hoverflow)
  · simp only [Checked.seq_eq_overflow, Checked.map_eq_overflow,
      isSafe_entityId.required, (isSafe_choice _).required, isNumeric_setting.orNull.optional,
      (isSafe_choice _).orNull.optional, isSafe_attributeName.orNull.optional,
      isSafe_weekdays.orNull.optional, false_or, or_false]

theorem days_ne_overflow {frequency : Frequency} {weekdays : Option (List Weekday)}
    {day : Option Int} : days frequency weekdays day ≠ .overflow := by
  unfold days
  split <;> simp

theorem ofScheduleFields_eq_overflow :
    ofScheduleFields fields = .overflow ↔ fields.HasHuge ["day"] := by
  rw [ofScheduleFields, Checked.andThen_eq_overflow]
  refine (or_iff_left ?_).trans ?_
  · rintro ⟨c, hc, hoverflow⟩
    simp only [Checked.seq_eq_valid, Checked.map_eq_valid] at hc
    obtain ⟨_, day, ⟨_, weekdays, ⟨_, time, ⟨frequency, -, rfl⟩, -, rfl⟩, -, rfl⟩, -, rfl⟩ := hc
    exact days_ne_overflow (Checked.map_eq_overflow.1 hoverflow)
  · simp only [Checked.seq_eq_overflow, Checked.map_eq_overflow, (isSafe_choice _).required,
      isSafe_timeOfDay.required, isSafe_weekdays.orNull.optional,
      isNumeric_dayOfMonth.orNull.optional, false_or]

def numberFields : String → List (List String)
  | "state" => [["to"], ["forSeconds", "for_seconds"]]
  | "device" => [["to"]]
  | "schedule" => [["day"]]
  | _ => []

end Trigger

namespace Action

variable {fields : Entries}

theorem ofPowerFields_ne_overflow {p : Power} : ofPowerFields p fields ≠ .overflow := by
  simp only [ofPowerFields, ne_eq, Checked.map_eq_overflow, isSafe_entityId.required,
    not_false_eq_true]

theorem ofLevelFields_eq_overflow {l : Level} :
    ofLevelFields l fields = .overflow ↔ fields.HasHuge ["value"] := by
  simp only [ofLevelFields, Checked.seq_eq_overflow, Checked.map_eq_overflow,
    isSafe_entityId.required, isNumeric_number.required, false_or]

theorem commandWith_ne_overflow {entity : String} {c : CommandId} {value : Option Setting} :
    commandWith entity c value ≠ .overflow := by
  unfold commandWith
  split <;> simp

theorem ofCommandFields_eq_overflow :
    ofCommandFields fields = .overflow ↔ fields.HasHuge ["value"] := by
  rw [ofCommandFields, Checked.andThen_eq_overflow]
  refine (or_iff_left ?_).trans ?_
  · rintro ⟨c, hc, hoverflow⟩
    simp only [Checked.seq_eq_valid, Checked.map_eq_valid] at hc
    obtain ⟨_, value, ⟨_, c, ⟨entity, -, rfl⟩, -, rfl⟩, -, rfl⟩ := hc
    exact commandWith_ne_overflow hoverflow
  · simp only [Checked.seq_eq_overflow, Checked.map_eq_overflow, isSafe_entityId.required,
      isSafe_commandId.required, (isNumeric_commandValue _).optional, false_or]

def numberFields : String → List (List String)
  | "set_brightness" | "set_temperature" | "set_cover_position" | "device_command" => [["value"]]
  | _ => []

end Action

def Value.HasHuge (numberFields : String → List (List String)) (part : Value) : Prop :=
  ∃ fields s, part = .mapping fields ∧ Entries.get? fields "type" = some (.text s) ∧
    ∃ names ∈ numberFields s, Entries.HasHuge fields names

theorem Trigger.tagged_kinds_eq_overflow {v : Value} :
    tagged kinds v = .overflow ↔ v.HasHuge numberFields := by
  constructor
  · intro h
    obtain ⟨fields, s, read, rfl, hget, hlookup, hread⟩ := tagged_eq_overflow.1 h
    refine ⟨fields, s, rfl, hget, ?_⟩
    have hmem : (s, read) ∈ kinds := mem_of_lookup hlookup
    simp only [kinds, List.mem_cons, Prod.mk.injEq, List.not_mem_nil, or_false] at hmem
    obtain ⟨rfl, rfl⟩ | ⟨rfl, rfl⟩ | ⟨rfl, rfl⟩ := hmem
    · simpa [numberFields] using ofStateFields_eq_overflow.1 hread
    · simpa [numberFields] using ofDeviceFields_eq_overflow.1 hread
    · simpa [numberFields] using ofScheduleFields_eq_overflow.1 hread
  · rintro ⟨fields, s, rfl, hget, names, hnames, hhuge⟩
    refine tagged_eq_overflow.2 ?_
    unfold numberFields at hnames
    split at hnames
    · refine ⟨fields, _, _, rfl, hget, rfl, ofStateFields_eq_overflow.2 ?_⟩
      simp only [List.mem_cons, List.not_mem_nil, or_false] at hnames
      obtain rfl | rfl := hnames
      · exact .inl hhuge
      · exact .inr hhuge
    · obtain rfl := List.mem_singleton.1 hnames
      exact ⟨fields, _, _, rfl, hget, rfl, ofDeviceFields_eq_overflow.2 hhuge⟩
    · obtain rfl := List.mem_singleton.1 hnames
      exact ⟨fields, _, _, rfl, hget, rfl, ofScheduleFields_eq_overflow.2 hhuge⟩
    · exact absurd hnames List.not_mem_nil

theorem Action.tagged_kinds_eq_overflow {v : Value} :
    tagged kinds v = .overflow ↔ v.HasHuge numberFields := by
  constructor
  · intro h
    obtain ⟨fields, s, read, rfl, hget, hlookup, hread⟩ := tagged_eq_overflow.1 h
    refine ⟨fields, s, rfl, hget, ["value"], ?_⟩
    have hmem : (s, read) ∈ kinds := mem_of_lookup hlookup
    simp only [kinds, List.mem_append, List.mem_map, List.mem_singleton, Prod.mk.injEq] at hmem
    obtain (⟨p, -, -, rfl⟩ | ⟨l, -, rfl, rfl⟩) | ⟨rfl, rfl⟩ := hmem
    · exact absurd hread ofPowerFields_ne_overflow
    · exact ⟨by cases l <;> exact .head _, ofLevelFields_eq_overflow.1 hread⟩
    · exact ⟨.head _, ofCommandFields_eq_overflow.1 hread⟩
  · rintro ⟨fields, s, rfl, hget, names, hnames, hhuge⟩
    refine tagged_eq_overflow.2 ?_
    unfold numberFields at hnames
    split at hnames
    · obtain rfl := List.mem_singleton.1 hnames
      exact ⟨fields, _, _, rfl, hget, rfl, (ofLevelFields_eq_overflow (l := .brightness)).2 hhuge⟩
    · obtain rfl := List.mem_singleton.1 hnames
      exact ⟨fields, _, _, rfl, hget, rfl, (ofLevelFields_eq_overflow (l := .temperature)).2 hhuge⟩
    · obtain rfl := List.mem_singleton.1 hnames
      exact ⟨fields, _, _, rfl, hget, rfl, (ofLevelFields_eq_overflow (l := .position)).2 hhuge⟩
    · obtain rfl := List.mem_singleton.1 hnames
      exact ⟨fields, _, _, rfl, hget, rfl, ofCommandFields_eq_overflow.2 hhuge⟩
    · exact absurd hnames List.not_mem_nil

namespace Draft

def HasHuge (raw : Value) : Prop :=
  ∃ fields part, raw = .mapping fields ∧
    (Entries.get? fields "trigger" = some part ∧ part.HasHuge Trigger.numberFields ∨
      Entries.get? fields "action" = some part ∧ part.HasHuge Action.numberFields)

theorem read_eq_overflow {raw : Value} : Draft.read raw = .overflow ↔ HasHuge raw := by
  have hrecord : record "AutomationDraft" raw ≠ .overflow := by
    unfold record
    split <;> simp
  have hfirst {fields : Entries} {name : String} {P : Value → Prop} :
      (∃ used v, fields.first? [name] = some (used, v) ∧ P v) ↔
        ∃ v, fields.get? name = some v ∧ P v := by
    simp only [first?, List.findSome?_cons, List.findSome?_nil]
    cases fields.get? name with
    | none => simp
    | some v => simp [and_assoc]
  simp only [Draft.read, Checked.andThen_eq_overflow, hrecord, record_eq_valid, false_or,
    Checked.seq_eq_overflow, Checked.map_eq_overflow, isSafe_title.required,
    isSafe_text.orNull.optional, (isSafe_choice _).optional, isSafe_boolean.orNull.optional,
    required_eq_overflow, Trigger.tagged_kinds_eq_overflow, Action.tagged_kinds_eq_overflow, hfirst]
  simp only [HasHuge, exists_or, exists_and_left, and_or_left]

end Draft

end HomePortal

import HomePortal.Proofs.Draft.Entered
/-!
Weekdays, from the names that are entered to the conditions that are compiled. Of a list of names
those of weekdays count. A device trigger fires on these days only if the list names one at all;
a list that names none does not restrict it.
-/

namespace HomePortal

open HomePortal.Field

/-- A list of names has the weekday's name, with blanks around it and in any case. -/
def Weekday.IsNamed (items : List Value) (day : Weekday) : Prop :=
  ∃ s, .text s ∈ items ∧ Text.lower (Text.trim s) = day.name

def Item.weekdays? (item : Value) : Option (List Value) :=
  if Config.text? (item.field? "condition") = some "time" then
    (item.field? "weekday").map Value.asList
  else none

def Item.listsDay (days : List Value) (day : Weekday) : Bool :=
  days.any fun item => item.same (.text day.name)

def Item.admits (day : Weekday) (item : Value) : Bool :=
  (Item.weekdays? item).all fun days => Item.listsDay days day

def Config.admits (c : Config) (day : Weekday) : Bool :=
  c.conditions.all (Item.admits day)

namespace Field

theorem mem_dayNames {items : List Value} {names : List String} (h : dayNames items = some names)
    {name : String} : name ∈ names ↔ ∃ s, .text s ∈ items ∧ Text.lower (Text.trim s) = name := by
  induction items generalizing names with
  | nil =>
    obtain rfl := Option.some.inj h
    simp
  | cons item rest ih =>
    cases item with
    | scalar s =>
      cases s with
      | text s =>
        obtain ⟨others, hothers, rfl⟩ := Option.map_eq_some_iff.1 h
        simp only [List.mem_cons, ih hothers, Value.scalar.injEq, Scalar.text.injEq, or_and_right,
          exists_or, exists_eq_left]
        rw [eq_comm (a := name)]
      | _ => cases h
    | _ => cases h

/-- The weekdays that are read from a list are those that it names. -/
theorem mem_weekdays {v : Value} {items : List Value} {days : List Weekday}
    (hitems : sequence? v = some items) (h : weekdays v = .valid days) {day : Weekday} :
    day ∈ days ↔ day.IsNamed items := by
  have hweek : day ∈ Weekday.week := by cases day <;> decide
  obtain ⟨read, names, hread, hnames, rfl⟩ := weekdays_eq_valid.1 h
  obtain rfl := Option.some.inj (hread.symm.trans hitems)
  simp only [List.mem_filter, hweek, true_and, List.contains_eq_mem, decide_eq_true_eq]
  exact mem_dayNames hnames

end Field

namespace Item

theorem weekdays?_onWeekdays (days : List Weekday) :
    weekdays? (onWeekdays (Trigger.dayItems days)) = some (Trigger.dayItems days) :=
  rfl

theorem listsDay_dayItems {days : List Weekday} {day : Weekday} :
    listsDay (Trigger.dayItems days) day = true ↔ day ∈ days := by
  have hname : listsDay (Trigger.dayItems days) day = true ↔ day.name ∈ days.map Weekday.name := by
    simp [listsDay, Trigger.dayItems, Value.same, Scalar.same]
  exact hname.trans mem_names_iff

theorem admits_onWeekdays {days : List Weekday} {day : Weekday} :
    admits day (onWeekdays (Trigger.dayItems days)) = true ↔ day ∈ days := by
  rw [admits, weekdays?_onWeekdays, Option.all_some, listsDay_dayItems]

theorem admits_template (day : Weekday) (body : String) : admits day (template body) = true :=
  rfl

end Item

namespace Trigger

/-- Only the condition on weekdays tells one day from another, and only a list with a day in it is
compiled to one. -/
theorem admits_conditions {t : DeviceTrigger} {day : Weekday} :
    (device t).conditions.all (Item.admits day) = true ↔
      ∀ days, t.weekdays = some days → days ≠ [] → day ∈ days := by
  obtain ⟨entity, change, weekdays⟩ := t
  match weekdays with
  | none | some [] => cases change <;> simp [conditions, Item.delta, Item.admits_template]
  | some (first :: rest) =>
    cases change <;>
      simp [conditions, Item.delta, Item.admits_template, Item.admits_onWeekdays]

end Trigger

namespace Draft

variable {raw : Value} {d : Draft} {t : DeviceTrigger} {items : List Value}

/-- The items that were entered as weekdays, in a list or in a pair. -/
def enteredDays? (raw : Value) : Option (List Value) :=
  (entered? raw "weekdays").bind Field.sequence?

/-- The list that was entered is read as the weekdays that it names. -/
theorem weekdays_of_entered (h : Draft.read raw = .valid d) (ht : d.trigger = .device t)
    (hitems : enteredDays? raw = some items) :
    ∃ days, t.weekdays = some days ∧ ∀ day, day ∈ days ↔ day.IsNamed items := by
  obtain ⟨fields, hentered, -, -, hweekdays⟩ := entered_device h ht
  obtain ⟨v, hv, hsequence⟩ := Option.bind_eq_some_iff.1 hitems
  rw [hentered] at hv
  have hnull : v ≠ .null := by
    rintro rfl
    cases hsequence
  obtain ⟨days, hdays, hread⟩ := Entries.exists_of_get? hweekdays hv hnull
  exact ⟨days, hdays, fun day => mem_weekdays hsequence hread⟩

/-- A device trigger with a list of names fires on the weekdays named, and on every day if none is.
So the list restricts it exactly if it names a weekday. -/
theorem admits_compile (h : Draft.read raw = .valid d) (ht : d.trigger = .device t)
    (hitems : enteredDays? raw = some items) (id : String) :
    (∀ day, (d.compile id).admits day = true ↔
      day.IsNamed items ∨ ∀ other, ¬ Weekday.IsNamed items other) ∧
    ((∀ day, (d.compile id).admits day = true → day.IsNamed items) ↔
      ∃ day, Weekday.IsNamed items day) := by
  obtain ⟨days, hdays, hnamed⟩ := weekdays_of_entered h ht hitems
  have hadmits (day : Weekday) : (d.compile id).admits day = true ↔
      day.IsNamed items ∨ ∀ other, ¬ Weekday.IsNamed items other := by
    rw [Config.admits, conditions_compile, ht, Trigger.admits_conditions]
    by_cases hempty : days = []
    · subst hempty
      simp [hdays, ← hnamed]
    · obtain ⟨first, hfirst⟩ := List.exists_mem_of_ne_nil days hempty
      have hsome : ¬ ∀ other, ¬ Weekday.IsNamed items other :=
        fun hnone => hnone first ((hnamed first).1 hfirst)
      simp [hdays, hempty, hsome, hnamed]
  refine ⟨hadmits, ?_⟩
  constructor
  · intro hnarrow
    by_contra hnone
    have hall : ∀ other, ¬ Weekday.IsNamed items other := fun other hother => hnone ⟨other, hother⟩
    exact hall .mon (hnarrow .mon ((hadmits .mon).2 (.inr hall)))
  · rintro ⟨named, hname⟩ day hday
    exact ((hadmits day).1 hday).resolve_right fun hnone => hnone named hname

def doorRequest (days : List Value) : Value :=
  .record [("alias", .text "Front door"),
    ("trigger", .record [("type", .text "device"), ("entityId", .text "binary_sensor.door"),
      ("mode", .text "state_equals"), ("to", .text "on"), ("weekdays", .list days)]),
    ("action", .record [("type", .text "turn_on"), ("entityId", .text "light.hall")])]

def doorDraft (days : List Weekday) : Draft where
  title := "Front door"
  description := none
  mode := .single
  enabled := none
  trigger := .device ⟨"binary_sensor.door", .stateEquals (.text "on") none none, some days⟩
  action := .power .turnOn "light.hall"

theorem admits_compile_door :
    Draft.read (doorRequest [.text " Sat", .text "funday"]) = .valid (doorDraft [.sat]) ∧
    enteredDays? (doorRequest [.text " Sat", .text "funday"]) =
      some [.text " Sat", .text "funday"] ∧
    ∀ id day, ((doorDraft [.sat]).compile id).admits day = true →
      day.IsNamed [.text " Sat", .text "funday"] :=
  have hread : Draft.read (doorRequest [.text " Sat", .text "funday"]) =
    .valid (doorDraft [.sat]) := by rfl
  ⟨hread, rfl, fun id =>
    (admits_compile hread rfl rfl id).2.2 ⟨.sat, " Sat", .head _, by decide +kernel⟩⟩

/-- Days of the weekend in full are no names that count, and the door is watched on Mondays too. -/
theorem not_isNamed_weekend : ¬ ∀ (raw : Value) (d : Draft) (t : DeviceTrigger)
    (items : List Value) (id : String) (day : Weekday), Draft.read raw = .valid d →
      d.trigger = .device t → enteredDays? raw = some items →
        (d.compile id).admits day = true → day.IsNamed items := by
  intro hall
  have hread : Draft.read (doorRequest [.text "saturday", .text "sunday"]) =
      .valid (doorDraft []) := by rfl
  obtain ⟨s, hs, hname⟩ := hall _ _ _ _ "door" .mon hread rfl rfl rfl
  simp only [List.mem_cons, List.not_mem_nil, or_false, Value.scalar.injEq,
    Scalar.text.injEq] at hs
  obtain rfl | rfl := hs
  · exact absurd hname (by decide +kernel)
  · exact absurd hname (by decide +kernel)

end Draft

end HomePortal

import HomePortal.Proofs.Draft.ClockTime
import HomePortal.Proofs.Draft.Weekdays
/-!
When schedules fire. A config with a time trigger alone fires at the instants of that time at which
all its conditions hold. The config of a schedule fires exactly at the instants that the entered
trigger asks for.
-/

namespace HomePortal

open HomePortal.Field

structure Instant where
  time : ClockTime
  weekday : Weekday
  day : Nat

namespace Item

def comparedDay? (cs : List Char) : Option Nat :=
  (cs.dropPrefix? "\x7b\x7b now().day == ".toList).bind fun rest =>
    (rest.dropSuffix? " \x7d\x7d".toList).bind Text.decimal?

def day? (item : Value) : Option Nat :=
  if Config.text? (item.field? "condition") = some "template" then
    (Config.text? (item.field? "value_template")).bind fun s => comparedDay? s.toList
  else none

def holdsAt (m : Instant) (item : Value) : Bool :=
  (weekdays? item).any (fun days => listsDay days m.weekday) || day? item == some m.day

end Item

def Config.firesAt (c : Config) (m : Instant) : Bool :=
  c.time?.bind ClockTime.ofText? == some m.time && c.conditions.all (Item.holdsAt m)

namespace Item

variable {m : Instant}

theorem comparedDay?_expression {digits : String} {n : Nat}
    (h : Text.decimal? digits.toList = some n) :
    comparedDay? (expression ("now().day == " ++ digits)).toList = some n := by
  have htext : (expression ("now().day == " ++ digits)).toList =
      "\x7b\x7b now().day == ".toList ++ (digits.toList ++ " \x7d\x7d".toList) := by
    simp [expression]
  have hsuffix : (digits.toList ++ " \x7d\x7d".toList).dropSuffix? " \x7d\x7d".toList =
      some digits.toList :=
    List.dropSuffix?_eq_some_iff.2 ⟨_, rfl, BEq.rfl⟩
  rw [comparedDay?, htext, List.dropPrefix?_append_of_beq _ BEq.rfl, Option.bind_some, hsuffix,
    Option.bind_some, h]

/-- The day that is written into a condition is read from it. -/
theorem day?_onDay (n : Nat) : day? (onDay (toString (n : Int))) = some n := by
  have hdigits : Text.decimal? (toString (n : Int)).toList = some n := by
    rw [show toString (n : Int) = n.repr from rfl, Nat.toList_repr, Text.decimal?_toDigits]
  have hkind : Config.text? ((onDay (toString (n : Int))).field? "condition") =
      some "template" := rfl
  have hbody : Config.text? ((onDay (toString (n : Int))).field? "value_template") =
      some (expression ("now().day == " ++ toString (n : Int))) := rfl
  rw [day?, if_pos hkind, hbody, Option.bind_some, comparedDay?_expression hdigits]

theorem holdsAt_onDay {n : Nat} : holdsAt m (onDay (toString (n : Int))) = true ↔ n = m.day := by
  rw [holdsAt, day?_onDay, show weekdays? (onDay (toString (n : Int))) = none from rfl]
  simp

theorem holdsAt_onWeekdays {days : List Weekday} :
    holdsAt m (onWeekdays (Trigger.dayItems days)) = true ↔ m.weekday ∈ days := by
  rw [holdsAt, weekdays?_onWeekdays, show day? (onWeekdays (Trigger.dayItems days)) = none from rfl]
  simp [listsDay_dayItems]

end Item

namespace Field

variable {v : Value} {n : Int}

/-- A whole number was entered as a number of that value. -/
theorem same_int_iff_of_whole (h : whole v = .valid n) (k : Int) :
    v.same (.int k) = true ↔ n = k := by
  obtain ⟨number, hnumber, hwhole⟩ := Checked.andThen_eq_valid.1 h
  unfold Field.number at hnumber
  split at hnumber
  · split at hnumber
    · cases hnumber
    · obtain rfl := Checked.valid.inj hnumber
      obtain rfl := Checked.valid.inj hwhole
      simp [Value.same, Scalar.same, Scalar.quantity?]
  · rename_i x
    split at hnumber
    · rename_i hfinite
      obtain rfl := Checked.valid.inj hnumber
      dsimp only at hwhole
      split at hwhole
      · simp [Checked.refuse] at hwhole
      · rename_i hden
        split at hwhole
        · obtain rfl := Checked.valid.inj hwhole
          have hvalue : ((x.toRat.num : Int) : Rat) = x.toRat :=
            Rat.coe_int_num_of_den_eq_one (not_not.1 hden)
          simp only [Value.same, Scalar.same, Scalar.quantity?, hfinite, if_true, beq_iff_eq,
            Quantity.finite.injEq]
          rw [← hvalue, Rat.intCast_inj, Rat.num_intCast]
        · simp [Checked.refuse] at hwhole
    · simp [Checked.refuse] at hnumber
  · simp [Checked.refuse] at hnumber

/-- A day of the month was entered as a number of that value. -/
theorem exists_of_dayOfMonth (h : dayOfMonth v = .valid n) :
    ∃ day : Nat, n = day ∧ ∀ k : Nat, v.same (.int k) = true ↔ day = k := by
  obtain ⟨hwhole, hlow, -⟩ := dayOfMonth_eq_valid.1 h
  obtain ⟨day, rfl⟩ := Int.eq_ofNat_of_zero_le (by omega : 0 ≤ n)
  exact ⟨day, rfl, fun k => (same_int_iff_of_whole hwhole k).trans Int.natCast_inj⟩

theorem exists_of_weekdays {days : List Weekday} (h : weekdays v = .valid days) :
    ∃ items, sequence? v = some items := by
  obtain ⟨items, -, hitems, -⟩ := weekdays_eq_valid.1 h
  exact ⟨items, hitems⟩

end Field

namespace Draft

variable {raw : Value} {d : Draft} {t : ScheduleTrigger} {m : Instant}

def frequency? (raw : Value) : Option Value :=
  (entered? raw "scheduleType").or (entered? raw "schedule_type")

/-- The entered trigger asks for an instant: the time is the one that was entered and so is, if it
runs weekly or monthly, the day. -/
structure Asks (raw : Value) (m : Instant) : Prop where
  time : ∃ s, entered? raw "at" = some (.text s) ∧ ClockTime.ofEntered? s = some m.time
  weekday : frequency? raw = some (.text "weekly") →
    ∃ items, enteredDays? raw = some items ∧ m.weekday.IsNamed items
  day : frequency? raw = some (.text "monthly") →
    ∃ v, entered? raw "day" = some v ∧ v.same (.int m.day) = true

theorem frequency?_of_read (h : Draft.read raw = .valid d) (ht : d.trigger = .schedule t) :
    frequency? raw = some (.text t.days.frequency.name) := by
  obtain ⟨fields, hentered, hfrequency, -⟩ := entered_schedule h ht
  obtain ⟨used, v, hfirst, hread⟩ := Entries.required_eq_valid.1 hfrequency
  obtain rfl := text_of_choice hread
  rw [frequency?, hentered, hentered]
  exact Entries.get?_or_of_first? hfirst

/-- The weekdays of a schedule are those that were named. -/
theorem named_of_weekly {days : List Weekday} {day : Option Int} (h : Draft.read raw = .valid d)
    (ht : d.trigger = .schedule t) (hdays : t.days = .weekly days day) :
    ∃ items, enteredDays? raw = some items ∧
      ∀ day, day ∈ days ↔ day.IsNamed items := by
  obtain ⟨fields, hentered, -, -, hweekdays, -⟩ := entered_schedule h ht
  rw [hdays] at hweekdays
  obtain ⟨v, hget, hread⟩ := Entries.get?_of_optional hweekdays
  obtain ⟨items, hitems⟩ := exists_of_weekdays hread
  refine ⟨items, ?_, fun day => mem_weekdays hitems hread⟩
  rw [enteredDays?, hentered, hget, Option.bind_some, hitems]

/-- The day of a schedule is the number that was entered. -/
theorem same_of_monthly {n : Int} {weekdays : Option (List Weekday)}
    (h : Draft.read raw = .valid d) (ht : d.trigger = .schedule t)
    (hdays : t.days = .monthly n weekdays) : ∃ day : Nat, n = day ∧
      ∃ v, entered? raw "day" = some v ∧ ∀ k : Nat, v.same (.int k) = true ↔ day = k := by
  obtain ⟨fields, hentered, -, -, -, hday⟩ := entered_schedule h ht
  rw [hdays] at hday
  obtain ⟨v, hget, hread⟩ := Entries.get?_of_optional hday
  obtain ⟨day, hn, hsame⟩ := exists_of_dayOfMonth hread
  exact ⟨day, hn, v, (hentered "day").trans hget, hsame⟩

theorem time_compile_iff (h : Draft.read raw = .valid d) (ht : d.trigger = .schedule t)
    (id : String) (m : Instant) : (d.compile id).time?.bind ClockTime.ofText? = some m.time ↔
      ∃ s, entered? raw "at" = some (.text s) ∧ ClockTime.ofEntered? s = some m.time := by
  obtain ⟨htime, s, hs, hdigits⟩ := entered_time h ht
  rw [time?_compile ht, Option.bind_some, htime.compiled.1, ← htime.ofEntered? hdigits]
  constructor
  · intro heq
    exact ⟨s, hs, heq⟩
  · rintro ⟨s', hs', heq⟩
    rw [hs] at hs'
    obtain rfl : s = s' := by simpa using hs'
    exact heq

theorem conditions_compile_iff (h : Draft.read raw = .valid d) (ht : d.trigger = .schedule t)
    (id : String) (m : Instant) : (d.compile id).conditions.all (Item.holdsAt m) = true ↔
      (frequency? raw = some (.text "weekly") →
        ∃ items, enteredDays? raw = some items ∧ m.weekday.IsNamed items) ∧
      (frequency? raw = some (.text "monthly") →
        ∃ v, entered? raw "day" = some v ∧ v.same (.int m.day) = true) := by
  rw [frequency?_of_read h ht, conditions_compile, ht, Trigger.conditions]
  cases hdays : t.days with
  | daily weekdays day => simp [Days.frequency, Frequency.name]
  | weekly days day =>
    obtain ⟨items, hitems, hnamed⟩ := named_of_weekly h ht hdays
    simp [Days.frequency, Frequency.name, Item.holdsAt_onWeekdays, hitems, hnamed]
  | monthly n weekdays =>
    obtain ⟨day, rfl, v, hv, hsame⟩ := same_of_monthly h ht hdays
    simp only [List.all_cons, List.all_nil, Bool.and_true, Item.holdsAt_onDay]
    simp [Days.frequency, Frequency.name, hv, hsame]

/-- The config of a schedule fires exactly at the instants that the entered trigger asks for. -/
theorem firesAt_compile (h : Draft.read raw = .valid d) (ht : d.trigger = .schedule t)
    (id : String) (m : Instant) : (d.compile id).firesAt m = true ↔ Asks raw m := by
  rw [Config.firesAt, Bool.and_eq_true, beq_iff_eq, time_compile_iff h ht,
    conditions_compile_iff h ht]
  constructor
  · rintro ⟨htime, hweekday, hday⟩
    exact ⟨htime, hweekday, hday⟩
  · intro hasks
    exact ⟨hasks.time, hasks.weekday, hasks.day⟩

def morningRequest (days : List Value) : Value :=
  .record [("alias", .text "Morning"),
    ("trigger", .record [("type", .text "schedule"), ("schedule_type", .text "weekly"),
      ("at", .text "7:05"), ("weekdays", .list days)]),
    ("action", .record [("type", .text "turn_on"), ("entityId", .text "light.hall")])]

def morningDraft (days : List Weekday) : Draft where
  title := "Morning"
  description := none
  mode := .single
  enabled := none
  trigger := .schedule ⟨.weekly days none, ⟨['7'], ['0', '5'], none⟩⟩
  action := .power .turnOn "light.hall"

theorem firesAt_compile_monday :
    Draft.read (morningRequest [.text " Mon", .text "someday"]) = .valid (morningDraft [.mon]) ∧
      ∀ id day, ((morningDraft [.mon]).compile id).firesAt ⟨⟨7, 5, 0⟩, .mon, day⟩ = true := by
  have hread : Draft.read (morningRequest [.text " Mon", .text "someday"]) =
      .valid (morningDraft [.mon]) := by rfl
  have htime : ClockTime.ofEntered? "7:05" = some ⟨7, 5, 0⟩ := by decide +kernel
  have hnamed : Weekday.IsNamed [.text " Mon", .text "someday"] .mon :=
    ⟨" Mon", .head _, by decide +kernel⟩
  have hweekly : frequency? (morningRequest [.text " Mon", .text "someday"]) =
      some (.text "weekly") := rfl
  refine ⟨hread, fun id day => (firesAt_compile hread rfl id _).2 ⟨?_, ?_, ?_⟩⟩
  · exact ⟨"7:05", rfl, htime⟩
  · exact fun _ => ⟨_, rfl, hnamed⟩
  · intro hmonthly
    simp [hweekly] at hmonthly

example : ((morningDraft [.mon]).compile "morning").firesAt ⟨⟨7, 5, 0⟩, .tue, 3⟩ = false := by
  decide +kernel

end Draft

end HomePortal

import HomePortal.Proofs.Decimal.Rounding
import HomePortal.Proofs.Draft.Reading
import HomePortal.Proofs.Draft.Stable
import HomePortal.Proofs.Value.Text
/-!
The compiler of changed drafts, on drafts that were read and not changed: it fails nowhere and
agrees with the other compiler.
-/

namespace HomePortal

open Entries HomePortal.Field

theorem Field.lt_of_lt_integerLimit {n : Nat} (h : n < Field.integerLimit) :
    (n : ℚ) < 2 ^ (1024 : Int) := by
  have hcast {limit m k : Nat} (hlimit : limit = Nat.pow 2 m - k) (hlt : n < limit) :
      (n : ℚ) < 2 ^ (m : Int) :=
    (Nat.cast_lt.2 (hlt.trans_le (hlimit ▸ Nat.sub_le _ _))).trans_eq (Double.cast_pow m)
  have hlimit : Field.integerLimit = Nat.pow 2 1024 - Nat.pow 2 970 := by
    rw [Field.integerLimit]
  have hlt := hcast hlimit h
  rwa [Nat.cast_ofNat] at hlt

namespace Number

variable {n : Number} {low high : Int}

theorem IsBounded.isFinite (h : n.IsBounded) : n.isFinite = true := by
  cases n with
  | int n => rfl
  | real x => exact h

/-- A hundredth of a number that a draft may hold is finite. -/
theorem IsBounded.isFinite_hundredth (h : n.IsBounded) : n.hundredth.isFinite = true := by
  cases n with
  | int n =>
    exact Double.isFinite_ofRatio _ (Double.nearestBits_lt (by decide)
      (Double.hundredth_lt (Field.lt_of_lt_integerLimit h)))
  | real x => exact Double.isFinite_divNat_hundred h

theorem toValue_clamp : (n.clamp low high).toValue =
    if n.toRat < low then .int low else if high < n.toRat then .int high else n.toValue := by
  unfold clamp
  split_ifs <;> rfl

end Number

namespace Amended

variable {n : Number} {low high : Int} {s : Scalar}

/-- A finite number is held in bounds as clamping holds it. -/
theorem held_toScalar (h : n.isFinite = true) (hs : n.toValue = .scalar s) :
    held low high s = .ok (n.clamp low high).toValue := by
  rw [Number.toValue_clamp, hs]
  cases n with
  | int n =>
    obtain rfl := Value.scalar.inj hs
    rfl
  | real x =>
    obtain rfl := Value.scalar.inj hs
    have hquantity : (Scalar.float x).quantity? = some (.finite x.toRat) := if_pos h
    rw [held, hquantity]
    rfl

theorem hundredth_toScalar (h : n.IsBounded) (hs : n.toValue = .scalar s) :
    hundredth s = .ok (.float n.hundredth) := by
  cases n with
  | int n =>
    obtain rfl := Value.scalar.inj hs
    exact if_pos h.isFinite_hundredth
  | real x =>
    obtain rfl := Value.scalar.inj hs
    have hx : x.isFinite = true := h
    rw [hundredth, if_pos hx]
    rfl

theorem exists_toScalar (n : Number) : ∃ s, n.toValue = .scalar s := by
  cases n <;> exact ⟨_, rfl⟩

theorem setterItem_toValue {setter : Setter} {entity : String} (h : n.isFinite = true) :
    setterItem setter (.text entity) n.toValue false = .ok (setter.call entity n) := by
  obtain ⟨s, hs⟩ := exists_toScalar n
  rw [hs]
  change (held setter.low setter.high s).bind _ = _
  rw [held_toScalar h hs]
  rfl

theorem setterItem_hundredth {setter : Setter} {entity : String} (h : n.IsBounded) :
    setterItem setter (.text entity) n.toValue true =
      .ok (setter.call entity (.real n.hundredth)) := by
  obtain ⟨s, hs⟩ := exists_toScalar n
  rw [hs]
  change (hundredth s).bind _ = _
  rw [hundredth_toScalar h hs]
  change (held setter.low setter.high (.float n.hundredth)).bind _ = _
  rw [held_toScalar (n := .real n.hundredth) h.isFinite_hundredth rfl]
  rfl

theorem present_of_ne {v : Value} (h : v ≠ .null) : present v = some v := by
  unfold present
  split
  · exact absurd rfl h
  · rfl

theorem present_ofOption {α : Type} (write : α → Value) (hwrite : ∀ a, write a ≠ .null)
    (found : Option α) : present (.ofOption write found) = found.map write := by
  cases found with
  | none => rfl
  | some a => exact present_of_ne (hwrite a)

theorem triggerItems_state (t : StateTrigger) :
    triggerItems (.sheet (Trigger.state t).sheet) =
      .ok ([(Trigger.state t).item], (Trigger.state t).conditions) := by
  change Except.ok ([Item.state (.text t.entity) none (present (.ofOption Setting.toValue t.after))
    (present (.ofOption Value.text t.before)) (present (.ofOption Number.toValue t.forSeconds))],
    []) = _
  rw [present_ofOption Setting.toValue setting_ne_null, present_ofOption Value.text fun _ => nofun,
    present_ofOption Number.toValue number_ne_null]
  rfl

theorem written_of_hasText {v : Value} (h : v.hasText = true) : written v = .ok v.display :=
  if_pos h

/-- What a device trigger comes to, by the kind of its change. -/
theorem deviceItems_of_mode {s : Sheet} {m : ChangeMode} (hmode : s.get "mode" = .text m.name)
    (hattr : (s.get "attribute").hasText = true) : deviceItems s =
      let entity := s.get "entity_id"
      let attr := s.get "attribute"
      let direct := match m with
        | .stateEquals => (Item.state entity none (present (s.get "to")) none none, [])
        | .attributeDelta => (Item.state entity (present attr) none none none,
            [Item.delta attr.display (isText (s.get "direction") "increased")])
        | .positionEquals =>
          (Item.state entity (present attr) (present (s.get "to")) none none, [])
      if (s.get "weekdays").isTruthy then
        (members (s.get "weekdays")).map fun days =>
          ([direct.1], direct.2 ++ [Item.onWeekdays days])
      else .ok ([direct.1], direct.2) := by
  cases m <;> simp only [deviceItems, hmode, written_of_hasText hattr] <;> rfl

theorem triggerItems_device (t : DeviceTrigger) :
    triggerItems (.sheet (Trigger.device t).sheet) =
      .ok ([(Trigger.device t).item], (Trigger.device t).conditions) := by
  have hattr : ((Trigger.device t).sheet.get "attribute").hasText = true := by
    change (Value.ofOption Value.text t.change.attr).hasText = true
    cases t.change.attr <;> rfl
  refine (deviceItems_of_mode (s := (Trigger.device t).sheet) (m := t.change.mode) rfl hattr).trans ?_
  have hto {value : Value} (hne : value ≠ .null) (hget : (Trigger.device t).sheet.get "to" = value) :
      present ((Trigger.device t).sheet.get "to") = some value := by
    rw [hget, present_of_ne hne]
  obtain ⟨entity, change, weekdays⟩ := t
  cases change with
  | stateEquals after _ _ =>
    rw [hto (setting_ne_null after) rfl]
    match weekdays with
    | none | some [] | some (_ :: _) => rfl
  | attributeDelta _ direction _ =>
    match weekdays with
    | none | some [] | some (_ :: _) => cases direction <;> rfl
  | positionEquals _ after _ =>
    rw [hto (number_ne_null after) rfl]
    match weekdays with
    | none | some [] | some (_ :: _) => rfl

/-- What a schedule comes to, by its frequency. -/
theorem scheduleItems_of_time {s : Sheet} {entered time : String} (hat : s.get "at" = .text entered)
    (htime : normalizedTime? entered = some time) (hday : (s.get "day").hasText = true) :
    scheduleItems s =
      if isText (s.get "schedule_type") "weekly" then
        (members (s.get "weekdays")).map fun days => ([Item.time time], [Item.onWeekdays days])
      else if isText (s.get "schedule_type") "monthly" then
        .ok ([Item.time time], [Item.onDay (s.get "day").display])
      else .ok ([Item.time time], []) := by
  simp only [scheduleItems, hat, htime, written_of_hasText hday]
  rfl

theorem triggerItems_schedule {t : ScheduleTrigger}
    (h : normalizedTime? t.time.text = some t.time.compiled)
    (hday : (Value.ofOption Value.int t.days.day).hasText = true) :
    triggerItems (.sheet (Trigger.schedule t).sheet) =
      .ok ([(Trigger.schedule t).item], (Trigger.schedule t).conditions) := by
  obtain ⟨days, time⟩ := t
  refine (scheduleItems_of_time (s := (Trigger.schedule ⟨days, time⟩).sheet) rfl h hday).trans ?_
  cases days <;> rfl

end Amended

namespace Field

/-- The time that a schedule was read with is normalized as it is compiled. -/
theorem normalizedTime?_text {t : TimeOfDay}
    (h : timeDigits?.fit t.hour t.minute (t.second.getD ['0', '0']) = true) :
    normalizedTime? t.text = some t.compiled := by
  have hparts := colonParts_text h
  obtain ⟨hlength, -, -, hdigits⟩ := digits_of_fit h
  have hhour : intOfText? (String.ofList t.hour) = some (digitsValue t.hour) := by
    refine intOfText?_of_isDigit ?_ ?_ fun c hc => hdigits c (by simp [hc])
    · intro hempty
      simp [hempty] at hlength
    · have hmax : 2 ≤ maxDigits := by decide
      omega
  obtain ⟨hour, minute, second⟩ := t
  cases second with
  | none =>
    rw [normalizedTime?, hparts]
    simp only [Option.toList, hhour]
    rfl
  | some second =>
    rw [normalizedTime?, hparts]
    simp only [Option.toList, hhour]
    rfl

theorem hasText_of_dayOfMonth {v : Value} {n : Int} (h : dayOfMonth v = .valid n) :
    (Value.int n).hasText = true := by
  obtain ⟨-, hlow, hhigh⟩ := dayOfMonth_eq_valid.1 h
  exact Scalar.hasText_of_lt (by omega)

theorem isBounded_of_setting {v : Value} {n : Number} (h : setting v = .valid (.number n)) :
    n.IsBounded :=
  setting_toValue.1 (isStable_setting h) n rfl

theorem isBounded_of_commandValue {c : CommandId} {v : Value} {n : Number}
    (h : commandValue (.valid c) v = .valid (some (.number n))) : n.IsBounded := by
  obtain ⟨found, hfound, hvalue⟩ := Checked.andThen_eq_valid.1 h
  have hkept (hsame : found = some (.number n)) : n.IsBounded := by
    subst hsame
    refine isBounded_of_setting ((orNull_eq_some ?_).1 hfound)
    rintro rfl
    cases hfound
  split at hvalue
  · split at hvalue
    · simp [Checked.refuse] at hvalue
    · -- A text stands for the number it writes.
      obtain ⟨m, hm, heq⟩ := Checked.map_eq_valid.1 hvalue
      obtain rfl : m = n := by simpa using heq
      exact isBounded_of_number hm
  · exact hkept (by simpa using hvalue)

end Field

def Trigger.IsNormal : Trigger → Prop
  | schedule t => normalizedTime? t.time.text = some t.time.compiled ∧
      (Value.ofOption Value.int t.days.day).hasText = true
  | _ => True

def Action.number? : Action → Option Number
  | power .. => none
  | level _ _ value => some value
  | command (.level _ value) _ => some value
  | command (.plain ..) _ => none

theorem Trigger.isNormal_of_read {v : Value} {t : Trigger} (h : tagged kinds v = .valid t) :
    t.IsNormal := by
  obtain ⟨fields, -, hstate | hdevice | hschedule⟩ := read_of_tagged h
  · obtain ⟨s, rfl, -⟩ := ofStateFields_eq_valid.1 hstate
    trivial
  · obtain ⟨d, rfl, -⟩ := ofDeviceFields_eq_valid.1 hdevice
    trivial
  · obtain ⟨s, rfl, htime, _, _, day, -, -, hday, hdays⟩ := ofScheduleFields_eq_valid.1 hschedule
    obtain ⟨_, w, -, hw⟩ := required_eq_valid.1 htime
    refine ⟨normalizedTime?_text (fit_of_timeOfDay hw).1, ?_⟩
    rw [(fields_of_days hdays).2.2]
    cases day with
    | none => rfl
    | some n =>
      obtain ⟨_, hread⟩ := exists_of_optional hday
      exact hasText_of_dayOfMonth hread

theorem Action.isBounded_of_read {v : Value} {a : Action} (h : tagged kinds v = .valid a) :
    ∀ n ∈ a.number?, n.IsBounded := by
  obtain ⟨fields, -, ⟨p, hpower⟩ | ⟨l, hlevel⟩ | hcommand⟩ := read_of_tagged h
  · obtain ⟨entity, rfl, -⟩ := ofPowerFields_eq_valid.1 hpower
    exact nofun
  · obtain ⟨entity, value, rfl, -, hvalue⟩ := ofLevelFields_eq_valid.1 hlevel
    obtain ⟨_, w, -, hw⟩ := required_eq_valid.1 hvalue
    rintro n ⟨⟩
    exact isBounded_of_number hw
  · obtain ⟨entity, c, value, -, -, hvalue, hwith⟩ := ofCommandFields_eq_valid.1 hcommand
    obtain ⟨found, rfl, hfound⟩ := commandWith_eq_valid.1 hwith
    cases c with
    | plain c =>
      obtain rfl := hfound
      exact nofun
    | level c =>
      obtain ⟨n, rfl, rfl⟩ := hfound
      rintro m ⟨⟩
      unfold Entries.optional at hvalue
      split at hvalue
      · exact isBounded_of_commandValue (Checked.under_eq_valid.1 hvalue)
      · cases hvalue

namespace Amended

theorem triggerItems_sheet {t : Trigger} (h : t.IsNormal) :
    triggerItems (.sheet t.sheet) = .ok ([t.item], t.conditions) := by
  cases t with
  | state t => exact triggerItems_state t
  | device t => exact triggerItems_device t
  | schedule t => exact triggerItems_schedule h.1 h.2

theorem actionItem_sheet {a : Action} (h : ∀ n ∈ a.number?, n.IsBounded) :
    actionItem (.sheet a.sheet) = .ok a.item := by
  cases a with
  | power p entity => cases p <;> rfl
  | level l entity value =>
    refine Eq.trans ?_ (setterItem_toValue (h value rfl).isFinite)
    cases l <;> rfl
  | command c entity =>
    cases c with
    | plain c value => cases c <;> rfl
    | level c value =>
      cases c with
      | volume => exact setterItem_hundredth (h value rfl)
      | brightness | position | temperature => exact setterItem_toValue (h value rfl).isFinite

/-- Where nothing was changed, the compiler of changed drafts agrees with the other. -/
theorem compile_unchanged {raw : Value} {d : Draft} (h : Draft.read raw = .valid d)
    (existing : Option String) (mark : String) (token : Nat) :
    compile d (.sheet d.trigger.sheet) (.sheet d.action.sheet) existing mark token =
      match d.compileAs? existing mark token with
      | some c => .ok c
      | none => .error (.draft .emptyId) := by
  obtain ⟨fields, -, -, -, -, -, htrigger, haction⟩ := Draft.read_eq_valid.1 h
  obtain ⟨_, v, -, hv⟩ := required_eq_valid.1 htrigger
  obtain ⟨_, w, -, hw⟩ := required_eq_valid.1 haction
  rw [compile, triggerItems_sheet (Trigger.isNormal_of_read hv),
    actionItem_sheet (Action.isBounded_of_read hw), Draft.compileAs?]
  cases AutomationId.choose? existing mark token <;> rfl

end Amended

end HomePortal

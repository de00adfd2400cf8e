import HomePortal.Proofs.Draft.Reading
import HomePortal.Proofs.Text.Ascii
/-!
What reading a trigger has checked of its texts: attributes have names and times are digits.
-/

namespace HomePortal

open Entries HomePortal.Field

structure IsIdentifier (name : List Char) : Prop where
  ne_nil : name ≠ []
  plain : ∀ c ∈ name, Text.isPlain c = true
  start : ∀ c ∈ name.head?, c.isDigit = false

namespace Field

variable {c : Char} {cs : List Char} {v : Value} {s : String} {t : TimeOfDay}

theorem isNameChar_eq_isPlain (c : Char) : isNameChar c = Text.isPlain c :=
  Bool.or_right_comm _ _ _

theorem isNameStart_iff : isNameStart c = true ↔ Text.isPlain c = true ∧ c.isDigit = false := by
  rw [← isNameChar_eq_isPlain, isNameChar, Bool.or_eq_true]
  constructor
  · intro h
    have hplain : Text.isPlain c = true := by simp [← isNameChar_eq_isPlain, isNameChar, h]
    have hlt : c.toNat < 128 := Text.toNat_lt_of_isAsciiWord (Text.isAsciiWord_of_isPlain hplain)
    exact ⟨.inl h, Text.forall_ascii (P := fun c => isNameStart c = true → c.isDigit = false)
      (by decide) hlt h⟩
  · rintro ⟨hstart | hdigit, hnot⟩
    · exact hstart
    · simp [hnot] at hdigit

/-- An attribute is an identifier, and a line break may follow it. -/
theorem isAttributeName_iff : isAttributeName cs = true ↔
    ∃ name tail, cs = name ++ tail ∧ IsIdentifier name ∧ (tail = [] ∨ tail = ['\n']) := by
  constructor
  · intro h
    cases cs with
    | nil => cases h
    | cons first rest =>
      simp only [isAttributeName, Bool.and_eq_true, Bool.or_eq_true, beq_iff_eq] at h
      obtain ⟨hfirst, htail⟩ := h
      obtain ⟨hplain, hdigit⟩ := isNameStart_iff.1 hfirst
      refine ⟨first :: rest.takeWhile isNameChar, rest.dropWhile isNameChar, ?_,
        ⟨List.cons_ne_nil _ _, ?_, ?_⟩, htail⟩
      · rw [List.cons_append, List.takeWhile_append_dropWhile]
      · intro c hc
        obtain rfl | hmem := List.mem_cons.1 hc
        · exact hplain
        · rw [← isNameChar_eq_isPlain]
          exact List.all_eq_true.1 List.all_takeWhile c hmem
      · intro c hc
        obtain rfl := Option.some.inj hc
        exact hdigit
  · rintro ⟨name, tail, rfl, hname, htail⟩
    obtain ⟨first, rest, rfl⟩ := List.exists_cons_of_ne_nil hname.ne_nil
    have hfirst : isNameStart first = true :=
      isNameStart_iff.2 ⟨hname.plain first (.head _), hname.start first rfl⟩
    have hrest : ∀ c ∈ rest, isNameChar c = true := by
      intro c hc
      rw [isNameChar_eq_isPlain]
      exact hname.plain c (.tail _ hc)
    have hdrop : (rest ++ tail).dropWhile isNameChar = tail := by
      rw [List.dropWhile_append_of_pos hrest]
      obtain rfl | rfl := htail
      · rfl
      · rfl
    rw [List.cons_append, isAttributeName, hdrop, hfirst]
    simpa using htail

theorem attributeName_eq_valid :
    attributeName v = .valid s ↔ v = .text s ∧ isAttributeName s.toList = true := by
  simp only [attributeName, Checked.andThen_eq_valid, text_eq_valid]
  constructor
  · rintro ⟨entered, rfl, hname⟩
    split at hname
    · rename_i hidentifier
      obtain rfl := Checked.valid.inj hname
      exact ⟨rfl, hidentifier⟩
    · simp [Checked.refuse] at hname
  · rintro ⟨rfl, hname⟩
    exact ⟨s, rfl, if_pos hname⟩

/-- A time has two or three parts with colons between them, which fit. -/
theorem timeDigits?_eq_some : timeDigits? cs = some t ↔
    colonParts cs = t.hour :: t.minute :: t.second.toList ∧
      timeDigits?.fit t.hour t.minute (t.second.getD ['0', '0']) = true := by
  constructor
  · intro h
    unfold timeDigits? at h
    split at h
    · rename_i hparts
      split at h
      · rename_i hfit
        obtain rfl := Option.some.inj h
        exact ⟨hparts, hfit⟩
      · cases h
    · rename_i hparts
      split at h
      · rename_i hfit
        obtain rfl := Option.some.inj h
        exact ⟨hparts, hfit⟩
      · cases h
    · cases h
  · rintro ⟨hparts, hfit⟩
    obtain ⟨hour, minute, second⟩ := t
    cases second with
    | none =>
      rw [timeDigits?, hparts]
      exact if_pos hfit
    | some second =>
      rw [timeDigits?, hparts]
      exact if_pos hfit

theorem timeOfDay_eq_valid : timeOfDay v = .valid t ↔ ∃ s, v = .text s ∧
    timeDigits? (Text.trimChars s.toList) = some t ∧ onClock t = true := by
  simp only [timeOfDay, Checked.andThen_eq_valid, text_eq_valid]
  refine exists_congr fun s => and_congr_right fun _ => ?_
  cases timeDigits? (Text.trimChars s.toList) with
  | none => simp [Checked.refuse]
  | some found =>
    dsimp only
    rw [Option.some.injEq]
    constructor
    · intro h
      split at h
      · rename_i hclock
        obtain rfl := Checked.valid.inj h
        exact ⟨rfl, hclock⟩
      · simp [Checked.refuse] at h
    · rintro ⟨rfl, hclock⟩
      exact if_pos hclock

theorem weekdays_eq_valid {days : List Weekday} : weekdays v = .valid days ↔ ∃ items names,
    sequence? v = some items ∧ dayNames items = some names ∧
      Weekday.week.filter (fun day => names.contains day.name) = days := by
  unfold weekdays
  cases sequence? v with
  | none => simp [Checked.refuse]
  | some items =>
    cases hnames : dayNames items with
    | none => simp [Checked.refuse, hnames]
    | some names => simp [hnames]

/-- The parts of a time that fits are of digits: one or two, then two and two. -/
theorem digits_of_fit {hour minute second : List Char}
    (h : timeDigits?.fit hour minute second = true) :
    (hour.length = 1 ∨ hour.length = 2) ∧ minute.length = 2 ∧ second.length = 2 ∧
      ∀ c ∈ hour ++ minute ++ second, Text.isDigit c = true := by
  simp only [timeDigits?.fit, Bool.and_eq_true, Bool.or_eq_true, beq_iff_eq, List.all_eq_true] at h
  exact ⟨h.1.1.1, h.1.1.2, h.1.2, h.2⟩

theorem isDigit_of_timeOfDay (h : timeOfDay v = .valid t) :
    ∀ c ∈ t.minute ++ t.second.getD [], Text.isDigit c = true := by
  obtain ⟨s, -, hdigits, -⟩ := timeOfDay_eq_valid.1 h
  obtain ⟨-, -, -, hall⟩ := digits_of_fit (timeDigits?_eq_some.1 hdigits).2
  intro c hc
  refine hall c ?_
  cases hs : t.second with
  | none =>
    rw [hs, Option.getD_none, List.append_nil] at hc
    simp [hc]
  | some second =>
    rw [hs, Option.getD_some] at hc
    rw [Option.getD_some, List.append_assoc]
    exact List.mem_append_right _ hc

end Field

namespace Trigger

def IsWellFormed : Trigger → Prop
  | state _ => True
  | device t => ∀ name ∈ t.change.attr, isAttributeName name.toList = true
  | schedule t => ∀ c ∈ t.time.minute ++ t.time.second.getD [], Text.isDigit c = true

theorem isWellFormed_of_read {v : Value} {t : Trigger} (h : tagged kinds v = .valid t) :
    t.IsWellFormed := by
  obtain ⟨fields, -, hstate | hdevice | hschedule⟩ := read_of_tagged h
  · obtain ⟨s, rfl, -⟩ := ofStateFields_eq_valid.1 hstate
    trivial
  · obtain ⟨d, rfl, -, -, mode, after, direction, attr, -, -, -, hattr, hchange⟩ :=
      ofDeviceFields_eq_valid.1 hdevice
    intro name hname
    rw [(change_eq_valid.1 hchange).2.2.2] at hname
    obtain rfl : attr = some name := hname
    obtain ⟨w, hw⟩ := exists_of_optional hattr
    exact (attributeName_eq_valid.1 hw).2
  · obtain ⟨s, rfl, htime, -⟩ := ofScheduleFields_eq_valid.1 hschedule
    obtain ⟨_, w, -, hw⟩ := required_eq_valid.1 htime
    exact isDigit_of_timeOfDay hw

end Trigger

theorem Draft.isWellFormed_of_read {raw : Value} {d : Draft} (h : Draft.read raw = .valid d) :
    d.trigger.IsWellFormed := by
  obtain ⟨fields, -, -, -, -, -, htrigger, -⟩ := Draft.read_eq_valid.1 h
  obtain ⟨_, w, -, hw⟩ := required_eq_valid.1 htrigger
  exact Trigger.isWellFormed_of_read hw

end HomePortal

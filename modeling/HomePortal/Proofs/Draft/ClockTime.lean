import HomePortal.Proofs.Draft.Amended
import HomePortal.Proofs.Draft.Entered
import HomePortal.Proofs.Text.Decimal
/-!
The time of a schedule, from the text that is entered to the text that is compiled. Both denote the
same time, and what is compiled is a normal form; it is eight characters of ASCII exactly if the
minutes and seconds were entered in ASCII.
-/

namespace HomePortal

open HomePortal.Field

structure ClockTime where
  hour : Nat
  minute : Nat
  second : Nat
  deriving DecidableEq

namespace ClockTime

def ofParts? : List (List Char) → Option ClockTime
  | [hour, minute, second] =>
    match Text.decimal? hour, Text.decimal? minute, Text.decimal? second with
    | some hour, some minute, some second => some ⟨hour, minute, second⟩
    | _, _, _ => none
  | _ => none

def ofText? (text : String) : Option ClockTime :=
  ofParts? (colonParts text.toList)

/-- Two or three decimal numbers with colons between them, and blanks around them. Missing seconds
are zero. -/
def ofEntered? (text : String) : Option ClockTime :=
  let parts := colonParts (Text.trimChars text.toList)
  ofParts? (if parts.length = 2 then parts ++ [['0', '0']] else parts)

end ClockTime

/-- Eight characters `HH:MM:SS` of ASCII, with numbers that are on a clock. -/
def IsClockText (text : String) : Prop :=
  ∃ hour minute second : List Char, text.toList = hour ++ ':' :: (minute ++ ':' :: second) ∧
    hour.length = 2 ∧ minute.length = 2 ∧ second.length = 2 ∧
    (∀ c ∈ hour ++ minute ++ second, c.isDigit = true) ∧
    digitsValue hour ≤ 23 ∧ digitsValue minute ≤ 59 ∧ digitsValue second ≤ 59

def HasPlainMinutes (entered : String) : Prop :=
  ∀ c ∈ (Text.trimChars entered.toList).dropWhile (· != ':'), c.toNat < 128

def Config.time? (c : Config) : Option String :=
  match c.triggers with
  | [item] =>
    if Config.text? (item.field? "trigger") = some "time" then Config.text? (item.field? "at")
    else none
  | _ => none

namespace TimeOfDay

variable {t : TimeOfDay}

def clock (t : TimeOfDay) : ClockTime :=
  ⟨digitsValue t.hour, digitsValue t.minute, digitsValue (t.second.getD ['0', '0'])⟩

def padded (t : TimeOfDay) : TimeOfDay where
  hour := (paddedDigits 10 2 (digitsValue t.hour)).toList
  minute := t.minute
  second := some (t.second.getD ['0', '0'])

structure IsTime (t : TimeOfDay) : Prop where
  fit : timeDigits?.fit t.hour t.minute (t.second.getD ['0', '0']) = true
  hour : digitsValue t.hour ≤ 23
  minute : digitsValue t.minute ≤ 59
  second : digitsValue (t.second.getD ['0', '0']) ≤ 59

def IsEnteredAs (t : TimeOfDay) (entered : String) : Prop :=
  colonParts (Text.trimChars entered.toList) = t.hour :: t.minute :: t.second.toList

theorem isTime_of_read {v : Value} (h : timeOfDay v = .valid t) : t.IsTime := by
  obtain ⟨hfit, hclock⟩ := fit_of_timeOfDay h
  simp only [onClock, Bool.and_eq_true, decide_eq_true_eq] at hclock
  obtain ⟨⟨hhour, hminute⟩, hsecond⟩ := hclock
  refine ⟨hfit, hhour, hminute, ?_⟩
  cases hs : t.second with
  | none => decide
  | some second => simpa [hs] using hsecond

/-- Digits of a time are as many as its form says. -/
theorem IsTime.lengths (h : t.IsTime) : (t.hour.length = 1 ∨ t.hour.length = 2) ∧
    t.minute.length = 2 ∧ (t.second.getD ['0', '0']).length = 2 := by
  obtain ⟨hhour, hminute, hsecond, -⟩ := digits_of_fit h.fit
  exact ⟨hhour, hminute, hsecond⟩

theorem IsTime.isDigit (h : t.IsTime) : (∀ c ∈ t.hour, Text.isDigit c = true) ∧
    (∀ c ∈ t.minute, Text.isDigit c = true) ∧
    ∀ c ∈ t.second.getD ['0', '0'], Text.isDigit c = true := by
  obtain ⟨-, -, -, hall⟩ := digits_of_fit h.fit
  simpa only [List.forall_mem_append, and_assoc] using hall

/-- A time is read from its digits. -/
theorem IsTime.ofParts? (h : t.IsTime) :
    ClockTime.ofParts? [t.hour, t.minute, t.second.getD ['0', '0']] = some t.clock := by
  obtain ⟨hhour, hminute, hsecond⟩ := h.lengths
  obtain ⟨dhour, dminute, dsecond⟩ := h.isDigit
  have hne {cs : List Char} (hlength : 0 < cs.length) : cs ≠ [] := List.ne_nil_of_length_pos hlength
  rw [ClockTime.ofParts?, Text.decimal?_of_isDigit (hne (by omega)) dhour,
    Text.decimal?_of_isDigit (hne (by omega)) dminute,
    Text.decimal?_of_isDigit (hne (by omega)) dsecond]
  rfl

/-- A text is read as a time that it has the digits of. -/
theorem IsTime.ofEntered? (h : t.IsTime) {entered : String} (hparts : t.IsEnteredAs entered) :
    ClockTime.ofEntered? entered = some t.clock := by
  have hread := h.ofParts?
  rw [ClockTime.ofEntered?, hparts]
  cases hs : t.second with
  | none => rwa [hs] at hread
  | some second => rwa [hs] at hread

/-! ### The compiled text -/

theorem text_padded : t.padded.text = t.compiled := by
  simp [text, padded, compiled, String.ext_iff]

@[simp] theorem hour_padded : t.padded.hour = (paddedDigits 10 2 (digitsValue t.hour)).toList := by
  simp only [padded]

@[simp] theorem minute_padded : t.padded.minute = t.minute := by
  simp only [padded]

@[simp] theorem second_padded : t.padded.second = some (t.second.getD ['0', '0']) := by
  simp only [padded]

theorem clock_padded : t.padded.clock = t.clock := by
  simp only [clock, hour_padded, minute_padded, second_padded, Option.getD_some,
    Text.digitsValue_paddedDigits]

theorem compiled_padded : t.padded.compiled = t.compiled := by
  simp only [compiled, hour_padded, minute_padded, second_padded, Option.getD_some,
    Text.digitsValue_paddedDigits]

theorem toList_compiled : t.compiled.toList =
    t.padded.hour ++ ':' :: (t.minute ++ ':' :: t.second.getD ['0', '0']) := by
  simp [compiled]

theorem IsTime.length_hour_padded (h : t.IsTime) : t.padded.hour.length = 2 := by
  have hlt : digitsValue t.hour < 10 ^ 2 := Nat.lt_of_le_of_lt h.hour (by decide)
  rw [hour_padded, Text.length_paddedDigits (by decide) hlt]

theorem isDigit_of_mem_hour_padded {c : Char} (hc : c ∈ t.padded.hour) : c.isDigit = true := by
  rw [hour_padded] at hc
  exact Text.isDigit_of_mem_paddedDigits hc

theorem IsTime.padded (h : t.IsTime) : t.padded.IsTime := by
  obtain ⟨-, hminute, hsecond⟩ := h.lengths
  obtain ⟨-, dminute, dsecond⟩ := h.isDigit
  constructor
  · simp only [timeDigits?.fit, h.length_hour_padded, minute_padded, second_padded,
      Option.getD_some, hminute, hsecond, List.all_append, Bool.and_eq_true, List.all_eq_true]
    exact ⟨by decide, ⟨fun c hc => Text.isDigit_of_plain (isDigit_of_mem_hour_padded hc), dminute⟩,
      dsecond⟩
  · rw [hour_padded, Text.digitsValue_paddedDigits]
    exact h.hour
  · rw [minute_padded]
    exact h.minute
  · rw [second_padded, Option.getD_some]
    exact h.second

/-- No blanks stand around the text of a time. -/
theorem IsTime.trimChars_text (h : t.IsTime) : Text.trimChars t.text.toList = t.text.toList := by
  obtain ⟨dhour, dminute, dsecond⟩ := h.isDigit
  have htail : ∀ c ∈ (t.second.map (':' :: ·)).getD [], Text.isDigit c = true ∨ c = ':' := by
    intro c hc
    cases hs : t.second with
    | none => simp [hs] at hc
    | some second =>
      rw [hs, Option.getD_some] at dsecond
      rw [hs, Option.map_some, Option.getD_some] at hc
      cases List.mem_cons.1 hc with
      | inl hcolon => exact .inr hcolon
      | inr hsecond => exact .inl (dsecond c hsecond)
  refine Text.stripChars_eq_self fun c hc => ?_
  have hcases : Text.isDigit c = true ∨ c = ':' := by
    simp only [text, String.toList_ofList, List.append_assoc, List.cons_append, List.mem_append,
      List.mem_cons] at hc
    obtain hhour | hcolon | hminute | hrest := hc
    · exact .inl (dhour c hhour)
    · exact .inr hcolon
    · exact .inl (dminute c hminute)
    · exact htail c hrest
  cases hcases with
  | inl hdigit => exact Text.isBlank_of_isDigit hdigit
  | inr hcolon =>
    subst hcolon
    decide

/-- The compiled text denotes the time, and normalizing it changes nothing. -/
theorem IsTime.compiled (h : t.IsTime) : ClockTime.ofText? t.compiled = some t.clock ∧
    normalizedTime? t.compiled = some t.compiled := by
  have hnormal := normalizedTime?_text h.padded.fit
  have hparts := colonParts_text h.padded.fit
  have hread := h.padded.ofParts?
  rw [h.padded.trimChars_text, text_padded, second_padded, Option.toList_some] at hparts
  rw [text_padded, compiled_padded] at hnormal
  rw [clock_padded, second_padded, Option.getD_some] at hread
  refine ⟨?_, hnormal⟩
  rw [ClockTime.ofText?, hparts, hread]

/-- The compiled text is in ASCII if what it keeps of the digits is. -/
theorem IsTime.isClockText_compiled_iff (h : t.IsTime) : IsClockText t.compiled ↔
    ∀ c ∈ t.minute ++ t.second.getD ['0', '0'], c.isDigit = true := by
  obtain ⟨-, dminute, dsecond⟩ := h.isDigit
  constructor
  · rintro ⟨hour, minute, second, htext, -, -, -, hplain, -⟩ c hc
    have hfound : Text.isDigit c = true ∧ c ∈ t.compiled.toList := by
      rw [toList_compiled]
      cases List.mem_append.1 hc with
      | inl hminute => exact ⟨dminute c hminute, by simp [hminute]⟩
      | inr hsecond => exact ⟨dsecond c hsecond, by simp [hsecond]⟩
    obtain ⟨hdigit, hmem⟩ := hfound
    have hne : c ≠ ':' := Text.ne_colon_of_isDigit hdigit
    rw [htext] at hmem
    refine hplain c ?_
    simpa only [List.mem_append, List.mem_cons, hne, false_or, or_assoc] using hmem
  · intro hplain
    obtain ⟨-, hminute, hsecond⟩ := h.lengths
    have hhour : digitsValue t.padded.hour ≤ 23 := h.padded.hour
    refine ⟨t.padded.hour, t.minute, t.second.getD ['0', '0'], toList_compiled,
      h.length_hour_padded, hminute, hsecond, fun c hc => ?_, hhour, h.minute, h.second⟩
    rw [List.append_assoc] at hc
    cases List.mem_append.1 hc with
    | inl hhour => exact isDigit_of_mem_hour_padded hhour
    | inr hrest => exact hplain c hrest

/-- In ASCII, times are compiled to one text exactly if they are the same time. -/
theorem IsTime.compiled_eq_iff {u : TimeOfDay} (ht : t.IsTime) (hu : u.IsTime)
    (hplain : ∀ c ∈ t.minute ++ t.second.getD ['0', '0'], c.isDigit = true)
    (hplain' : ∀ c ∈ u.minute ++ u.second.getD ['0', '0'], c.isDigit = true) :
    u.compiled = t.compiled ↔ u.clock = t.clock := by
  constructor
  · intro heq
    have hread := ht.compiled.1
    rw [← heq, hu.compiled.1] at hread
    exact Option.some.inj hread
  · intro heq
    obtain ⟨-, hminute, hsecond⟩ := ht.lengths
    obtain ⟨-, hminute', hsecond'⟩ := hu.lengths
    simp only [clock, ClockTime.mk.injEq] at heq
    obtain ⟨ehour, eminute, esecond⟩ := heq
    have hsame : u.minute = t.minute :=
      Text.eq_of_digitsValue (fun c hc => hplain' c (List.mem_append_left _ hc))
        (fun c hc => hplain c (List.mem_append_left _ hc)) (hminute'.trans hminute.symm) eminute
    have hsame' : u.second.getD ['0', '0'] = t.second.getD ['0', '0'] :=
      Text.eq_of_digitsValue (fun c hc => hplain' c (List.mem_append_right _ hc))
        (fun c hc => hplain c (List.mem_append_right _ hc)) (hsecond'.trans hsecond.symm) esecond
    simp only [TimeOfDay.compiled, ehour, hsame, hsame']

/-! ### The entered text -/

/-- A time is read from a text with its digits. -/
theorem exists_of_read {v : Value} (h : timeOfDay v = .valid t) :
    ∃ entered, v = .text entered ∧ t.IsEnteredAs entered := by
  obtain ⟨entered, hv, hdigits, -⟩ := timeOfDay_eq_valid.1 h
  exact ⟨entered, hv, (timeDigits?_eq_some.1 hdigits).1⟩

theorem IsTime.hasPlainMinutes_iff (h : t.IsTime) {entered : String}
    (hparts : t.IsEnteredAs entered) : HasPlainMinutes entered ↔
      ∀ c ∈ t.minute ++ t.second.getD ['0', '0'], c.isDigit = true := by
  obtain ⟨dhour, dminute, dsecond⟩ := h.isDigit
  have hjoined : [':'].intercalate (t.hour :: t.minute :: t.second.toList) =
      Text.trimChars entered.toList := hparts ▸ List.intercalate_splitOn ':'
  have hentered : Text.trimChars entered.toList =
      t.hour ++ ':' :: (t.minute ++ (t.second.map (':' :: ·)).getD []) := by
    rw [← hjoined]
    cases t.second <;> simp [List.intercalate]
  have hhour : ∀ c ∈ t.hour, (c != ':') = true :=
    fun c hc => bne_iff_ne.2 (Text.ne_colon_of_isDigit (dhour c hc))
  have hascii {cs : List Char} (hdigit : ∀ c ∈ cs, Text.isDigit c = true) :
      (∀ c ∈ cs, c.toNat < 128) ↔ ∀ c ∈ cs, c.isDigit = true :=
    forall₂_congr fun c hc =>
      ⟨fun hlt => (Text.isDigit_iff_of_ascii hlt).1 (hdigit c hc), Text.toNat_lt_of_isDigit⟩
  have hcolon : ':'.toNat < 128 := by decide
  have htail : (∀ c ∈ (t.second.map (':' :: ·)).getD [], c.toNat < 128) ↔
      ∀ c ∈ t.second.getD ['0', '0'], c.toNat < 128 := by
    cases t.second with
    | none =>
      refine iff_of_true (List.forall_mem_nil _) fun c hc => ?_
      obtain rfl : c = '0' := by simpa using hc
      decide
    | some second =>
      rw [Option.map_some, Option.getD_some, Option.getD_some, List.forall_mem_cons,
        and_iff_right hcolon]
  rw [HasPlainMinutes, hentered, List.dropWhile_append_of_pos hhour,
    List.dropWhile_cons_of_neg (by decide), List.forall_mem_cons, and_iff_right hcolon,
    List.forall_mem_append, htail, ← List.forall_mem_append,
    hascii fun c hc => (List.mem_append.1 hc).elim (dminute c) (dsecond c)]

end TimeOfDay

namespace Draft

variable {raw : Value} {d : Draft} {t : ScheduleTrigger} {entered compiled : String}

/-- The data is a draft with a schedule, with a time that was entered as one text and that is
compiled to another. -/
def TimeCompiles (raw : Value) (entered compiled : String) : Prop :=
  ∃ d t, Draft.read raw = .valid d ∧ d.trigger = .schedule t ∧
    entered? raw "at" = some (.text entered) ∧ ∀ id, (d.compile id).time? = some compiled

theorem time?_compile (ht : d.trigger = .schedule t) (id : String) :
    (d.compile id).time? = some t.time.compiled := by
  rw [Config.time?, triggers_compile, ht]
  rfl

/-- The time of a schedule was entered as a text with its digits. -/
theorem entered_time (h : Draft.read raw = .valid d) (ht : d.trigger = .schedule t) :
    t.time.IsTime ∧ ∃ entered, entered? raw "at" = some (.text entered) ∧
      t.time.IsEnteredAs entered := by
  obtain ⟨fields, hentered, -, htime, -⟩ := entered_schedule h ht
  obtain ⟨v, hget, hread⟩ := Entries.required_singleton.1 htime
  obtain ⟨entered, rfl, hparts⟩ := TimeOfDay.exists_of_read hread
  exact ⟨TimeOfDay.isTime_of_read hread, entered, (hentered "at").trans hget, hparts⟩

theorem exists_of_timeCompiles (h : TimeCompiles raw entered compiled) :
    ∃ time : TimeOfDay, time.IsTime ∧ time.compiled = compiled ∧ time.IsEnteredAs entered := by
  obtain ⟨d, t, hread, ht, hentered, htime⟩ := h
  obtain ⟨htime', s, hs, hparts⟩ := entered_time hread ht
  have hcompiled := htime ""
  rw [time?_compile ht] at hcompiled
  rw [hentered] at hs
  obtain rfl : entered = s := by simpa using hs
  exact ⟨t.time, htime', Option.some.inj hcompiled, hparts⟩

/-- The compiled time denotes what was entered and is a normal form. It is a text of ASCII exactly
if the minutes and seconds were entered in ASCII; of two such times one text is compiled exactly if
they are the same. -/
theorem timeCompiles_of_read (h : Draft.read raw = .valid d) (ht : d.trigger = .schedule t) :
    ∃ entered compiled time, TimeCompiles raw entered compiled ∧
      ClockTime.ofEntered? entered = some time ∧ ClockTime.ofText? compiled = some time ∧
      normalizedTime? compiled = some compiled ∧
      (IsClockText compiled ↔ HasPlainMinutes entered) ∧
      (HasPlainMinutes entered → ∀ raw' entered' compiled', TimeCompiles raw' entered' compiled' →
        HasPlainMinutes entered' →
          (compiled' = compiled ↔ ClockTime.ofEntered? entered' = some time)) := by
  obtain ⟨htime, entered, hentered, hparts⟩ := entered_time h ht
  obtain ⟨hdenotes, hnormal⟩ := htime.compiled
  have hplain := htime.hasPlainMinutes_iff hparts
  refine ⟨entered, t.time.compiled, t.time.clock, ⟨d, t, h, ht, hentered, time?_compile ht⟩,
    htime.ofEntered? hparts, hdenotes, hnormal, htime.isClockText_compiled_iff.trans hplain.symm,
    ?_⟩
  intro hascii raw' entered' compiled' hcompiles hascii'
  obtain ⟨time, htime', rfl, hparts'⟩ := exists_of_timeCompiles hcompiles
  rw [htime'.ofEntered? hparts', Option.some.injEq]
  exact htime.compiled_eq_iff htime' (hplain.1 hascii)
    ((htime'.hasPlainMinutes_iff hparts').1 hascii')

def clockRequest (entered : String) : Value :=
  .record [("alias", .text "Evening"),
    ("trigger", .record [("type", .text "schedule"), ("scheduleType", .text "daily"),
      ("at", .text entered)]),
    ("action", .record [("type", .text "turn_on"), ("entityId", .text "light.hall")])]

def clockDraft (time : TimeOfDay) : Draft where
  title := "Evening"
  description := none
  mode := .single
  enabled := none
  trigger := .schedule ⟨.daily none none, time⟩
  action := .power .turnOn "light.hall"

theorem timeCompiles_morning :
    Draft.read (clockRequest " 7:05 ") = .valid (clockDraft ⟨['7'], ['0', '5'], none⟩) ∧
      ∃ entered compiled, TimeCompiles (clockRequest " 7:05 ") entered compiled ∧
        (IsClockText compiled ↔ HasPlainMinutes entered) := by
  have hread : Draft.read (clockRequest " 7:05 ") =
      .valid (clockDraft ⟨['7'], ['0', '5'], none⟩) := by rfl
  obtain ⟨entered, compiled, _, hcompiles, -, -, -, hplain, -⟩ := timeCompiles_of_read hread rfl
  exact ⟨hread, entered, compiled, hcompiles, hplain⟩

/-- Arabic digits of the minutes are compiled as they are. -/
theorem not_isClockText_arabic : ¬ ∀ raw entered compiled,
    TimeCompiles raw entered compiled → IsClockText compiled := by
  intro hall
  have hread : Draft.read (clockRequest "20:٣٠") =
      .valid (clockDraft ⟨['2', '0'], ['٣', '٠'], none⟩) := by rfl
  obtain ⟨htime, -⟩ := entered_time hread rfl
  have htext := hall _ _ _ ⟨_, _, hread, rfl, rfl, time?_compile rfl⟩
  have hplain := htime.isClockText_compiled_iff.1 htext '٣' (.head _)
  exact absurd hplain (by decide)

end Draft

end HomePortal

import HomePortal.Draft.Amended
import HomePortal.Proofs.Config.Normal
import HomePortal.Proofs.Draft.EntityId
import HomePortal.Proofs.Text.Digit
/-!
The fields of a draft are normal forms: what is read from a field is read from itself again.
-/

namespace HomePortal

def Number.IsBounded : Number → Prop
  | int n => n.natAbs < Field.integerLimit
  | real x => x.isFinite = true

namespace Field

variable {α : Type} {v : Value}

def IsStable (read : Value → Checked α) (write : α → Value) : Prop :=
  ∀ {v a}, read v = .valid a → read (write a) = .valid a

theorem orNull_eq_some {read : Value → Checked α} {a : α} (hne : v ≠ .null) :
    orNull read v = .valid (some a) ↔ read v = .valid a := by
  have hsome : orNull read v = some <$> read v := by
    unfold orNull
    split
    · exact absurd rfl hne
    · rfl
  rw [hsome, Checked.map_eq_valid]
  simp

theorem IsStable.orNull {read : Value → Checked α} {write : α → Value} (h : IsStable read write)
    (hwrite : ∀ a, write a ≠ .null) : IsStable (orNull read) (Value.ofOption write) := by
  intro v a hread
  cases a with
  | none => rfl
  | some a =>
    have hne : v ≠ .null := by
      rintro rfl
      cases hread
    exact (orNull_eq_some (hwrite a)).2 (h ((orNull_eq_some hne).1 hread))

theorem isStable_text : IsStable text .text :=
  fun _ => rfl

theorem isStable_boolean : IsStable boolean .bool :=
  fun _ => rfl

theorem isStable_title : IsStable title .text := by
  intro v a h
  obtain ⟨s, -, hs⟩ := Checked.andThen_eq_valid.1 h
  dsimp only at hs
  split at hs
  · simp [Checked.refuse] at hs
  · rename_i hne
    obtain rfl : Text.trim s = a := by simpa using hs
    refine Checked.andThen_eq_valid.2 ⟨Text.trim s, rfl, ?_⟩
    rw [Text.trim_trim]
    exact if_neg hne

theorem number_toValue {n : Number} : number n.toValue = .valid n ↔ n.IsBounded := by
  cases n with
  | int n => simp [number, Number.toValue, Number.IsBounded]
  | real x => simp [number, Number.toValue, Number.IsBounded, Checked.refuse]

theorem lt_integerLimit : 100 < integerLimit := by
  decide +kernel

theorem isBounded_of_number {n : Number} (h : number v = .valid n) : n.IsBounded := by
  unfold number at h
  split at h
  · split at h
    · cases h
    · rename_i hlt
      cases h
      exact Nat.not_le.1 hlt
  · split at h
    · rename_i hfinite
      cases h
      exact hfinite
    · simp [Checked.refuse] at h
  · simp [Checked.refuse] at h

theorem isStable_number : IsStable number Number.toValue :=
  fun h => number_toValue.2 (isBounded_of_number h)

theorem number_ne_null (n : Number) : n.toValue ≠ .null := by
  cases n <;> simp [Number.toValue]

theorem setting_toValue {s : Setting} :
    setting s.toValue = .valid s ↔ ∀ n, s = .number n → n.IsBounded := by
  cases s with
  | text s => simp [setting, Setting.toValue]
  | number n =>
    have hnumber : setting n.toValue = Setting.number <$> number n.toValue := by
      cases n <;> rfl
    rw [show (Setting.number n).toValue = n.toValue from rfl, hnumber, Checked.map_eq_valid]
    simp [number_toValue]

theorem setting_number {n : Number} (h : n.IsBounded) : setting n.toValue = .valid (.number n) :=
  (setting_toValue (s := .number n)).2 fun _ hm => Setting.number.inj hm ▸ h

theorem isStable_setting : IsStable setting Setting.toValue := by
  intro v s h
  rw [setting_toValue]
  rintro n rfl
  unfold setting at h
  split at h
  · cases h
  · obtain ⟨m, hm, heq⟩ := Checked.map_eq_valid.1 h
    obtain rfl := Setting.number.inj heq
    exact isBounded_of_number hm

theorem setting_ne_null (s : Setting) : s.toValue ≠ .null := by
  cases s with
  | text s => simp [Setting.toValue]
  | number n => exact number_ne_null n

theorem isStable_duration : IsStable duration Number.toValue := by
  intro v n h
  obtain ⟨m, hm, hpos⟩ := Checked.andThen_eq_valid.1 h
  obtain rfl : m = n := by
    split at hpos
    · simp [Checked.refuse] at hpos
    · simpa using hpos
  exact Checked.andThen_eq_valid.2 ⟨m, isStable_number hm, hpos⟩

theorem dayOfMonth_eq_valid {n : Int} :
    dayOfMonth v = .valid n ↔ whole v = .valid n ∧ 1 ≤ n ∧ n ≤ 31 := by
  rw [dayOfMonth, Checked.andThen_eq_valid]
  constructor
  · rintro ⟨m, hm, hrange⟩
    split at hrange
    · simp [Checked.refuse] at hrange
    · split at hrange
      · simp [Checked.refuse] at hrange
      · rename_i hlow hhigh
        obtain rfl := Checked.valid.inj hrange
        exact ⟨hm, Int.not_lt.1 hlow, Int.not_lt.1 hhigh⟩
  · rintro ⟨hwhole, hlow, hhigh⟩
    refine ⟨n, hwhole, ?_⟩
    rw [if_neg (Int.not_lt.2 hlow), if_neg (Int.not_lt.2 hhigh)]

theorem isStable_dayOfMonth : IsStable dayOfMonth .int := by
  intro v n h
  obtain ⟨-, hlow, hhigh⟩ := dayOfMonth_eq_valid.1 h
  have hbounded : (Number.int n).IsBounded :=
    Nat.lt_trans (by omega : n.natAbs < 100) lt_integerLimit
  have hnumber : number (.int n) = .valid (.int n) := (number_toValue (n := .int n)).2 hbounded
  refine dayOfMonth_eq_valid.2 ⟨?_, hlow, hhigh⟩
  rw [whole, hnumber]
  rfl

/-- An entity id is two parts with a dot between them. -/
theorem isEntityId_iff {cs : List Char} : isEntityId cs = true ↔
    ∃ domain name, cs = domain ++ '.' :: name ∧ domain ≠ [] ∧ name ≠ [] ∧
      (∀ c ∈ domain, Text.isAsciiWord c = true) ∧ ∀ c ∈ name, isIdChar c = true := by
  constructor
  · intro h
    unfold isEntityId at h
    dsimp only at h
    split at h
    · rename_i name hdrop
      simp only [Bool.and_eq_true, Bool.not_eq_true', List.isEmpty_eq_false_iff,
        List.all_eq_true] at h
      obtain ⟨⟨hdomain, hname⟩, hall⟩ := h
      refine ⟨cs.takeWhile Text.isAsciiWord, name, ?_, hdomain, hname,
        List.all_eq_true.1 List.all_takeWhile, hall⟩
      rw [← hdrop, List.takeWhile_append_dropWhile]
    · cases h
  · intro h
    obtain ⟨domain, name, rfl, hdomain, hname, hword, hall⟩ := h
    have hdot : Text.isAsciiWord '.' = false := by decide
    have htake : (domain ++ '.' :: name).takeWhile Text.isAsciiWord = domain := by
      rw [List.takeWhile_append_of_pos hword, List.takeWhile_cons_of_neg (by simp [hdot]),
        List.append_nil]
    have hdrop : (domain ++ '.' :: name).dropWhile Text.isAsciiWord = '.' :: name := by
      rw [List.dropWhile_append_of_pos hword, List.dropWhile_cons_of_neg (by simp [hdot])]
    rw [isEntityId, htake, hdrop]
    simpa [hdomain, hname] using hall

/-- In lower case an entity id is one still. -/
theorem isEntityId_toLower {cs : List Char} (h : isEntityId cs = true) :
    isEntityId (cs.map Char.toLower) = true := by
  obtain ⟨domain, name, rfl, hdomain, hname, hword, hall⟩ := isEntityId_iff.1 h
  refine isEntityId_iff.2 ⟨domain.map Char.toLower, name.map Char.toLower, ?_, ?_, ?_, ?_, ?_⟩
  · rw [List.map_append, List.map_cons]
    rfl
  · simpa using hdomain
  · simpa using hname
  · intro c hc
    obtain ⟨x, hx, rfl⟩ := List.mem_map.1 hc
    exact Text.isAsciiWord_of_isPlain (Text.isPlain_toLower (hword x hx))
  · intro c hc
    obtain ⟨x, hx, rfl⟩ := List.mem_map.1 hc
    exact forall_idChar (P := fun c => isIdChar c = true → isIdChar c.toLower = true) (by decide)
      (.inl (hall x hx)) (hall x hx)

/-- An id is read as it is once it has the form that ids are kept in. -/
theorem entityId_text {e : String} (hid : isEntityId e.toList = true) (h : IsEntityId e) :
    entityId (.text e) = .valid e := by
  have hblank : ∀ c ∈ e.toList, Text.isBlank c = false := h.forall_chars (by decide)
  have hlower : e.toList.map Char.toLower = e.toList.map (fun c => c) :=
    List.map_congr_left fun c hc => (h.chars c hc).2
  change (if isEntityId (Text.trimChars e.toList) then
    Checked.valid (String.ofList ((Text.trimChars e.toList).map Char.toLower)) else _) = _
  rw [Text.trimChars, Text.stripChars_eq_self hblank, if_pos hid, hlower, List.map_id',
    String.ofList_toList]

theorem isStable_entityId : IsStable entityId .text := by
  intro v e h
  have hkept := isEntityId_of_read h
  obtain ⟨s, -, hs⟩ := Checked.andThen_eq_valid.1 h
  dsimp only at hs
  split at hs
  · rename_i hid
    obtain rfl : String.ofList ((Text.trimChars s.toList).map Char.toLower) = e := by simpa using hs
    refine entityId_text ?_ hkept
    rw [String.toList_ofList]
    exact isEntityId_toLower hid
  · simp [Checked.refuse] at hs

theorem isStable_attributeName : IsStable attributeName .text :=
  fun h => attributeName_eq_valid.2 ⟨rfl, (attributeName_eq_valid.1 h).2⟩

/-- What a time of day was checked for. -/
theorem fit_of_timeOfDay {t : TimeOfDay} (h : timeOfDay v = .valid t) :
    timeDigits?.fit t.hour t.minute (t.second.getD ['0', '0']) = true ∧ onClock t = true := by
  obtain ⟨s, -, hdigits, hclock⟩ := timeOfDay_eq_valid.1 h
  exact ⟨(timeDigits?_eq_some.1 hdigits).2, hclock⟩

/-- The text of a time that fits is cut into its digits again. -/
theorem colonParts_text {t : TimeOfDay}
    (h : timeDigits?.fit t.hour t.minute (t.second.getD ['0', '0']) = true) :
    colonParts (Text.trimChars t.text.toList) = t.hour :: t.minute :: t.second.toList := by
  obtain ⟨hour, minute, second⟩ := t
  obtain ⟨-, -, -, hdigits⟩ := digits_of_fit h
  have hcolon {part : List Char} (hpart : ∀ c ∈ part, Text.isDigit c = true) : ':' ∉ part :=
    fun hmem => Text.ne_colon_of_isDigit (hpart _ hmem) rfl
  have hhour : ':' ∉ hour := hcolon fun c hc => hdigits c (by simp [hc])
  have hminute : ':' ∉ minute := hcolon fun c hc => hdigits c (by simp [hc])
  have hblank {part : List Char} (hpart : ∀ c ∈ part, Text.isDigit c = true ∨ c = ':') :
      Text.trimChars part = part := by
    refine Text.stripChars_eq_self fun c hc => ?_
    cases hpart c hc with
    | inl hdigit => exact Text.isBlank_of_isDigit hdigit
    | inr heq =>
      subst heq
      decide
  cases second with
  | none =>
    have htext : (TimeOfDay.text ⟨hour, minute, none⟩).toList = hour ++ ':' :: minute := by
      simp [TimeOfDay.text]
    rw [htext, hblank fun c hc => by grind, colonParts,
      List.splitOn_append_cons_self_of_not_mem hhour, List.splitOn_eq_singleton hminute]
    rfl
  | some second =>
    have hsecond : ':' ∉ second := hcolon fun c hc => hdigits c (by simp [hc])
    have htext : (TimeOfDay.text ⟨hour, minute, some second⟩).toList =
        hour ++ ':' :: (minute ++ ':' :: second) := by
      simp [TimeOfDay.text]
    rw [htext, hblank fun c hc => by grind, colonParts,
      List.splitOn_append_cons_self_of_not_mem hhour,
      List.splitOn_append_cons_self_of_not_mem hminute, List.splitOn_eq_singleton hsecond]
    rfl

theorem isStable_timeOfDay : IsStable timeOfDay fun t => .text t.text := by
  intro v t h
  obtain ⟨hfit, hclock⟩ := fit_of_timeOfDay h
  have hdigits : timeDigits? (Text.trimChars t.text.toList) = some t :=
    timeDigits?_eq_some.2 ⟨colonParts_text hfit, hfit⟩
  exact timeOfDay_eq_valid.2 ⟨t.text, rfl, hdigits, hclock⟩

theorem dayNames_dayItems (days : List Weekday) :
    dayNames (Trigger.dayItems days) = some (days.map Weekday.name) := by
  have hname (day : Weekday) : Text.lower (Text.trim day.name) = day.name := by
    cases day <;> decide +kernel
  induction days with
  | nil => rfl
  | cons day rest ih =>
    change (dayNames (Trigger.dayItems rest)).map (Text.lower (Text.trim day.name) :: ·) = _
    rw [ih, hname, Option.map_some, List.map_cons]

theorem mem_names_iff {days : List Weekday} {day : Weekday} :
    day.name ∈ days.map Weekday.name ↔ day ∈ days := by
  refine List.mem_map_of_injective fun (a b : Weekday) h => ?_
  revert h
  cases a <;> cases b <;> decide

/-- Weekdays in the order of the week stay as they are. -/
theorem isStable_weekdays : IsStable weekdays Value.ofWeekdays := by
  intro v days h
  obtain ⟨_, names, -, -, rfl⟩ := weekdays_eq_valid.1 h
  refine weekdays_eq_valid.2 ⟨_, _, rfl, dayNames_dayItems _, ?_⟩
  refine List.filter_congr fun day hday => ?_
  rw [List.contains_eq_mem, List.contains_eq_mem]
  refine decide_eq_decide.2 (mem_names_iff.trans ?_)
  simp [List.mem_filter, hday]

theorem commandId_name (c : CommandId) : commandId (.text c.name) = .valid c := by
  rcases c with c | c <;> cases c <;> rfl

/-- Every command takes a number that a draft may hold. -/
theorem commandValue_toValue {n : Number} (h : n.IsBounded) (c : CommandId) :
    commandValue (.valid c) n.toValue = .valid (some (.number n)) := by
  refine Checked.andThen_eq_valid.2 ⟨_, (orNull_eq_some (number_ne_null n)).2 (setting_number h), ?_⟩
  cases c <;> rfl

theorem isStable_commandValue (c : CommandId) :
    IsStable (commandValue (.valid c)) (Value.ofOption Setting.toValue) := by
  intro v value h
  obtain ⟨found, hfound, hvalue⟩ := Checked.andThen_eq_valid.1 h
  have hagain := isStable_setting.orNull setting_ne_null hfound
  have hkept : found = value →
      commandValue (.valid c) (Value.ofOption Setting.toValue value) = .valid value := by
    rintro rfl
    exact Checked.andThen_eq_valid.2 ⟨found, hagain, hvalue⟩
  cases c with
  | plain c => exact hkept (by simpa using hvalue)
  | level c =>
    match found with
    | none => exact hkept (by simpa using hvalue)
    | some (.number n) => exact hkept (by simpa using hvalue)
    | some (.text s) =>
      -- A text is replaced by its number, which is kept from then on.
      dsimp only at hvalue
      split at hvalue
      · simp [Checked.refuse] at hvalue
      · obtain ⟨n, hn, rfl⟩ := Checked.map_eq_valid.1 hvalue
        exact commandValue_toValue (isBounded_of_number hn) (.level c)

end Field

end HomePortal

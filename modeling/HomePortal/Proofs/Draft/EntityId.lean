import HomePortal.Proofs.Config.Reference
import HomePortal.Proofs.Config.Template
import HomePortal.Proofs.Draft.Reading
import HomePortal.Proofs.Text.Folded
/-!
The entity ids of a draft: each is kept in a form that is a reference to itself and to nothing else.
-/

namespace HomePortal

open Finding

structure IsEntityId (e : String) : Prop where
  dotted : '.' ∈ e.toList
  chars : ∀ c ∈ e.toList, (Field.isIdChar c = true ∨ c = '.') ∧ c.toLower = c

namespace Field

/-- The characters of an id, before it is put in lower case. -/
theorem mem_of_isEntityId {cs : List Char} (h : isEntityId cs = true) :
    '.' ∈ cs ∧ ∀ c ∈ cs, isIdChar c = true ∨ c = '.' := by
  unfold isEntityId at h
  dsimp only at h
  split at h
  · rename_i name hdrop
    simp only [Bool.and_eq_true, List.all_eq_true] at h
    have hcs : cs = cs.takeWhile Text.isAsciiWord ++ '.' :: name := by
      rw [← hdrop, List.takeWhile_append_dropWhile]
    have hword : ∀ c ∈ cs.takeWhile Text.isAsciiWord, Text.isAsciiWord c = true := fun c hc =>
      List.all_eq_true.1 List.all_takeWhile c hc
    rw [hcs]
    refine ⟨List.mem_append.2 (.inr List.mem_cons_self), fun c hc => ?_⟩
    cases List.mem_append.1 hc with
    | inl hc =>
      left
      simp [isIdChar, hword c hc]
    | inr hc =>
      obtain rfl | hc := List.mem_cons.1 hc
      · exact .inr rfl
      · exact .inl (h.2 c hc)
  · cases h

/-- Characters of ids are ASCII. -/
theorem toNat_lt_of_isIdChar {c : Char} (h : isIdChar c = true ∨ c = '.') : c.toNat < 128 := by
  obtain h | rfl := h
  · cases Bool.or_eq_true_iff.1 h with
    | inl hword => exact Text.toNat_lt_of_isAsciiWord hword
    | inr hhyphen =>
      obtain rfl := eq_of_beq hhyphen
      decide
  · decide

/-- What holds of each character of ASCII that may be in an id holds of all that may. -/
theorem forall_idChar {P : Char → Prop}
    (hP : ∀ n : Fin 128, (isIdChar (Char.ofNat n) = true ∨ Char.ofNat n = '.') → P (Char.ofNat n))
    {c : Char} (h : isIdChar c = true ∨ c = '.') : P c := by
  have hself := hP ⟨c.toNat, toNat_lt_of_isIdChar h⟩
  rw [Char.ofNat_toNat] at hself
  exact hself h

/-- Characters of ids stay such in lower case, which no longer changes then. -/
theorem toLower_of_isIdChar {c : Char} (h : isIdChar c = true ∨ c = '.') :
    (isIdChar c.toLower = true ∨ c.toLower = '.') ∧ c.toLower.toLower = c.toLower :=
  forall_idChar (P := fun c => (isIdChar c.toLower = true ∨ c.toLower = '.') ∧
    c.toLower.toLower = c.toLower) (by decide) h

theorem isEntityId_of_read {v : Value} {e : String} (h : entityId v = .valid e) :
    IsEntityId e := by
  obtain ⟨s, -, h⟩ := Checked.andThen_eq_valid.1 h
  dsimp only at h
  split at h
  · rename_i hid
    obtain ⟨hdot, hchars⟩ := mem_of_isEntityId hid
    obtain rfl : String.ofList ((Text.trimChars s.toList).map Char.toLower) = e := by simpa using h
    constructor
    · rw [String.toList_ofList]
      exact List.mem_map.2 ⟨'.', hdot, by decide⟩
    · intro c hc
      rw [String.toList_ofList] at hc
      obtain ⟨x, hx, rfl⟩ := List.mem_map.1 hc
      exact toLower_of_isIdChar (hchars x hx)
  · simp [Checked.refuse] at h

end Field

namespace IsEntityId

variable {e : String}

theorem forall_chars {P : Char → Prop} (h : IsEntityId e)
    (hP : ∀ n : Fin 128, (Field.isIdChar (Char.ofNat n) = true ∨ Char.ofNat n = '.') →
      P (Char.ofNat n)) : ∀ c ∈ e.toList, P c :=
  fun c hc => Field.forall_idChar hP (h.chars c hc).1

theorem folded_eq (h : IsEntityId e) : folded e.toList = e := by
  have hblank : ∀ c ∈ e.toList, Text.isBlank c = false := h.forall_chars (by decide)
  have hlower : ∀ c ∈ e.toList, c.toNat < 128 ∧ c.toLower = c := fun c hc =>
    ⟨Field.toNat_lt_of_isIdChar (h.chars c hc).1, (h.chars c hc).2⟩
  rw [folded, Text.trimChars, Text.stripChars_eq_self hblank, String.ofList_toList, Text.lower,
    Text.lowerAfter_eq_self hlower, String.ofList_toList]

/-- A reference to an entity finds it and nothing else. -/
theorem namesItself (h : IsEntityId e) : NamesItself e := by
  have hcomma : ∀ c ∈ e.toList, (c == ',') = false := h.forall_chars (by decide)
  have hbrace : ∀ c ∈ e.toList, c ≠ '\x7b' := h.forall_chars (by decide)
  have hsplit : e.toList.splitOn ',' = [e.toList] := List.splitOnP_eq_singleton hcomma
  have hplain := Template.isTemplate_of_not_mem fun hmem => hbrace _ hmem rfl
  have hdot : e ≠ "all" ∧ e ≠ "" ∧ e ≠ "none" := by
    refine ⟨?_, ?_, ?_⟩
    all_goals
      intro heq
      subst heq
      exact absurd h.dotted (by decide)
  simp [NamesItself, ofReference, hplain, hsplit, ofPart, h.folded_eq, hdot]

end IsEntityId

theorem Field.isEntityId_of_required {fields : Entries} {name : String} {others : List String}
    {e : String} (h : fields.required name others entityId = .valid e) : IsEntityId e := by
  obtain ⟨used, v, -, hv⟩ := Entries.required_eq_valid.1 h
  exact isEntityId_of_read hv

theorem Trigger.isEntityId_of_read {v : Value} {t : Trigger}
    (h : Field.tagged kinds v = .valid t) : ∀ e ∈ t.entity?, IsEntityId e := by
  obtain ⟨fields, -, hstate | hdevice | hschedule⟩ := read_of_tagged h
  · obtain ⟨s, rfl, hentity, -⟩ := ofStateFields_eq_valid.1 hstate
    intro e he
    cases he
    exact Field.isEntityId_of_required hentity
  · obtain ⟨d, rfl, hentity, -⟩ := ofDeviceFields_eq_valid.1 hdevice
    intro e he
    cases he
    exact Field.isEntityId_of_required hentity
  · obtain ⟨s, rfl, -⟩ := ofScheduleFields_eq_valid.1 hschedule
    nofun

theorem Action.isEntityId_of_read {v : Value} {a : Action}
    (h : Field.tagged kinds v = .valid a) : IsEntityId a.entity := by
  obtain ⟨fields, -, ⟨p, hpower⟩ | ⟨l, hlevel⟩ | hcommand⟩ := read_of_tagged h
  · obtain ⟨entity, rfl, hentity⟩ := ofPowerFields_eq_valid.1 hpower
    exact Field.isEntityId_of_required hentity
  · obtain ⟨entity, value, rfl, hentity, -⟩ := ofLevelFields_eq_valid.1 hlevel
    exact Field.isEntityId_of_required hentity
  · obtain ⟨entity, c, value, hentity, -, -, hwith⟩ := ofCommandFields_eq_valid.1 hcommand
    obtain ⟨found, rfl, -⟩ := commandWith_eq_valid.1 hwith
    exact Field.isEntityId_of_required hentity

/-- The entities of a draft are ids in the form that they are kept in. -/
theorem Draft.isEntityId_of_read {raw : Value} {d : Draft} (h : Draft.read raw = .valid d) :
    (∀ e ∈ d.trigger.entity?, IsEntityId e) ∧ IsEntityId d.action.entity := by
  obtain ⟨fields, -, -, -, -, -, htrigger, haction⟩ := Draft.read_eq_valid.1 h
  obtain ⟨_, _, -, htrigger⟩ := Entries.required_eq_valid.1 htrigger
  obtain ⟨_, _, -, haction⟩ := Entries.required_eq_valid.1 haction
  exact ⟨Trigger.isEntityId_of_read htrigger, Action.isEntityId_of_read haction⟩

end HomePortal

import HomePortal.Proofs.Draft.Expression
import HomePortal.Proofs.Draft.Scoping
/-!
Templates in compiled drafts. The only texts that reach a config as they were entered are the states
of a trigger; all else that is written there is seen through.
-/

namespace HomePortal

open Finding Place

def Setting.isTemplate : Setting → Bool
  | text s => Template.isTemplate s
  | number _ => false

def Trigger.isTemplated : Trigger → Bool
  | state t => t.after.any Setting.isTemplate || t.before.any Template.isTemplate
  | device t =>
    match t.change with
    | .stateEquals after _ _ => after.isTemplate
    | _ => false
  | schedule _ => false

def Draft.isTemplated (d : Draft) : Bool :=
  d.trigger.isTemplated

namespace Finding

theorem unseen_mem_walk_text {s : String} :
    unseen ∈ (Value.text s).walk (one .data) ↔ Template.isTemplate s = true := by
  rw [Value.walk_text, show (one .data).role.ofScalar (.text s) = Finding.ofScalar (.text s) from rfl,
    Finding.ofScalar]
  split
  · simp_all
  · simp_all

theorem unseen_not_mem_walk_number (n : Number) : unseen ∉ n.toValue.walk (one .data) := by
  cases n with
  | int n => exact List.not_mem_nil
  | real x => exact List.not_mem_nil

theorem unseen_mem_walk_setting {s : Setting} :
    unseen ∈ s.toValue.walk (one .data) ↔ s.isTemplate = true := by
  cases s with
  | text s => exact unseen_mem_walk_text
  | number n => exact iff_of_false (unseen_not_mem_walk_number n) nofun

theorem unseen_not_mem_ofField (fields : Entries) (name : String) :
    unseen ∉ ofField fields name := by
  intro h
  obtain ⟨v, -, hv⟩ := List.mem_flatMap.1 h
  unfold ofLiteral at hv
  split at hv
  · dsimp only at hv
    split at hv <;> simp at hv
  · simp at hv

theorem unseen_not_mem_ofTargets {fields : List (String × Value)}
    (h : ∀ field ∈ fields, field.1 ∉ targetKeys) :
    unseen ∉ ofTargets (fields.map fun field => (.text field.1, field.2)) := by
  intro hunseen
  obtain ⟨name, hname, v, hmem, -⟩ := unseen_mem_ofTargets.1 hunseen
  obtain ⟨field, hfield, heq⟩ := List.mem_map.1 hmem
  simp only [Prod.mk.injEq, Scalar.text.injEq] at heq
  obtain ⟨rfl, rfl⟩ := heq
  exact h field hfield hname

theorem unseen_not_mem_walk_entityId {name : String} (hname : IsEntityId name) :
    unseen ∉ (Value.text name).walk (each .reference) := by
  rw [Value.walk_text, show (each .reference).role.ofScalar (.text name) = ofReference name from rfl,
    show ofReference name = [entity name] from hname.namesItself]
  simp

end Finding

namespace Item

variable {name : String}

/-- A state trigger hides what its attribute and its states hide. -/
theorem unseen_mem_walk_state {attr after before forSeconds : Option Value}
    (hname : IsEntityId name) (hfor : ∀ v ∈ forSeconds, unseen ∉ v.walk (one .data)) :
    unseen ∈ (Item.state (.text name) attr after before forSeconds).walk (one .trigger) ↔
      ∃ v, (v ∈ attr ∨ v ∈ after ∨ v ∈ before) ∧ unseen ∈ v.walk (one .data) := by
  obtain ⟨rest, hstate, hrest⟩ := state_eq (.text name) attr after before forSeconds
  rw [hstate, Value.mem_walk_record_iff]
  have htargets : unseen ∉ ofTargets ((("trigger", Value.text "state") ::
      ("entity_id", .text name) :: rest).map fun field => (.text field.1, field.2)) := by
    refine unseen_not_mem_ofTargets fun field hmem => ?_
    obtain ⟨key, v⟩ := field
    simp only [List.mem_cons, Prod.mk.injEq, hrest] at hmem
    dsimp only
    obtain ⟨rfl, -⟩ | ⟨rfl, -⟩ | ⟨rfl, -⟩ | ⟨rfl, -⟩ | ⟨rfl, -⟩ | ⟨rfl, -⟩ := hmem <;> decide
  constructor
  · intro h
    obtain hown | ⟨-, key, v, hmem, hv⟩ := h
    · exact absurd hown htargets
    · simp only [List.mem_cons, Prod.mk.injEq, hrest] at hmem
      obtain ⟨rfl, rfl⟩ | ⟨rfl, rfl⟩ | ⟨rfl, hgiven⟩ | ⟨rfl, hgiven⟩ | ⟨rfl, hgiven⟩ |
        ⟨rfl, seconds, hseconds, rfl⟩ := hmem
      · exact absurd (unseen_mem_walk_text.1 hv) (by decide)
      · exact absurd hv (unseen_not_mem_walk_entityId hname)
      · exact ⟨v, .inl hgiven, hv⟩
      · exact ⟨v, .inr (.inl hgiven), hv⟩
      · exact ⟨v, .inr (.inr hgiven), hv⟩
      · obtain hown | ⟨-, key, w, hmem, hw⟩ := Value.mem_walk_record_iff.1 hv
        · exact absurd hown (unseen_not_mem_ofTargets (by simp [targetKeys]))
        · obtain ⟨rfl, rfl⟩ := Prod.mk.inj (List.mem_singleton.1 hmem)
          exact absurd hw (hfor w hseconds)
  · intro h
    obtain ⟨v, hgiven, hv⟩ := h
    have hfield : ∃ key, (key, v) ∈ rest ∧ ofKey (.text key) = one .data := by
      obtain hgiven | hgiven | hgiven := hgiven
      · exact ⟨"attribute", (hrest _ _).2 (.inl ⟨rfl, hgiven⟩), by decide⟩
      · exact ⟨"to", (hrest _ _).2 (.inr (.inl ⟨rfl, hgiven⟩)), by decide⟩
      · exact ⟨"from", (hrest _ _).2 (.inr (.inr (.inl ⟨rfl, hgiven⟩))), by decide⟩
    obtain ⟨key, hmem, hkey⟩ := hfield
    refine .inr ⟨rfl, key, v, .tail _ (.tail _ hmem), ?_⟩
    rw [show among _ (.text key) = ofKey (.text key) from rfl, hkey]
    exact hv

theorem unseen_not_mem_walk_time {at_ : String} (hbrace : '\x7b' ∉ at_.toList) :
    unseen ∉ (Item.time at_).walk (one .trigger) := by
  intro h
  obtain hown | ⟨-, key, v, hmem, hv⟩ := Value.mem_walk_record_iff.1 h
  · cases List.mem_append.1 hown with
    | inl htrigger => exact unseen_not_mem_ofField _ "at" htrigger
    | inr htargets =>
      exact unseen_not_mem_ofTargets (by simp [targetKeys]) htargets
  · simp only [List.mem_cons, List.not_mem_nil, or_false, Prod.mk.injEq] at hmem
    obtain ⟨rfl, rfl⟩ | ⟨rfl, rfl⟩ := hmem
    · exact absurd (unseen_mem_walk_text.1 hv) (by decide)
    · have htemplate := unseen_mem_walk_text.1 hv
      rw [Template.isTemplate_of_not_mem hbrace] at htemplate
      cases htemplate

theorem unseen_not_mem_walk_onWeekdays (days : List Weekday) :
    unseen ∉ (Item.onWeekdays (Trigger.dayItems days)).walk (one .condition) := by
  intro h
  obtain hown | ⟨-, key, v, hmem, hv⟩ := Value.mem_walk_record_iff.1 h
  · cases List.mem_append.1 hown with
    | inl hcondition =>
      cases List.mem_append.1 hcondition with
      | inl hafter => exact unseen_not_mem_ofField _ "after" hafter
      | inr hbefore => exact unseen_not_mem_ofField _ "before" hbefore
    | inr htargets => exact unseen_not_mem_ofTargets (by simp [targetKeys]) htargets
  · simp only [List.mem_cons, List.not_mem_nil, or_false, Prod.mk.injEq] at hmem
    obtain ⟨rfl, rfl⟩ | ⟨rfl, rfl⟩ := hmem
    · exact absurd (unseen_mem_walk_text.1 hv) (by decide)
    · obtain ⟨item, hitem, hf⟩ := Value.mem_walkItems.1 hv
      obtain ⟨day, -, rfl⟩ := List.mem_map.1 hitem
      have htemplate := unseen_mem_walk_text.1 hf
      cases day <;> exact absurd htemplate (by decide)

theorem unseen_not_mem_walk_template {body : String}
    (hbody : Template.isContextOnly (Item.expression body) = true) :
    unseen ∉ (Item.template body).walk (one .condition) := by
  intro h
  obtain hown | ⟨-, key, v, hmem, hv⟩ := Value.mem_walk_record_iff.1 h
  · cases List.mem_append.1 hown with
    | inl hcondition =>
      have hfield : unseen ∈ (if Template.isContextOnly (Item.expression body) then []
        else [unseen]) := hcondition
      rw [if_pos hbody] at hfield
      exact List.not_mem_nil hfield
    | inr htargets =>
      exact unseen_not_mem_ofTargets (by simp [targetKeys]) htargets
  · simp only [List.mem_cons, List.not_mem_nil, or_false, Prod.mk.injEq] at hmem
    obtain ⟨rfl, rfl⟩ | ⟨rfl, rfl⟩ := hmem
    · exact absurd (unseen_mem_walk_text.1 hv) (by decide)
    · exact List.not_mem_nil hv

theorem unseen_not_mem_walk_call {domain service : String} {data : List (String × Value)}
    (hname : IsEntityId name)
    (hservice : Service.isTargeted (Text.trim (domain ++ "." ++ service)) = true)
    (hplain : Template.isTemplate (domain ++ "." ++ service) = false)
    (hdata : unseen ∉ (Value.record data).walk (one .data)) :
    unseen ∉ (Item.call domain service (.text name) data).walk (one .step) := by
  obtain ⟨rest, hcall, hrest⟩ := call_eq domain service (.text name) data
  rw [hcall]
  intro h
  obtain hown | ⟨-, key, v, hmem, hv⟩ := Value.mem_walk_record_iff.1 h
  · cases List.mem_append.1 hown with
    | inl hstep =>
      have hfield : unseen ∈ (if Service.isTargeted (Text.trim (domain ++ "." ++ service)) then []
        else [unseen]) := hstep
      rw [if_pos hservice] at hfield
      exact List.not_mem_nil hfield
    | inr htargets =>
      refine unseen_not_mem_ofTargets (fun field hmem => ?_) htargets
      obtain ⟨key, v⟩ := field
      simp only [List.mem_cons, Prod.mk.injEq] at hmem
      dsimp only
      obtain ⟨rfl, -⟩ | ⟨rfl, -⟩ | hmem := hmem
      · decide
      · decide
      · obtain ⟨rfl, -⟩ := hrest key v hmem
        decide
  · simp only [List.mem_cons, Prod.mk.injEq] at hmem
    obtain ⟨rfl, rfl⟩ | ⟨rfl, rfl⟩ | hmem := hmem
    · have htemplate := unseen_mem_walk_text.1 hv
      rw [hplain] at htemplate
      cases htemplate
    · obtain hown | ⟨-, key, w, hmem, hw⟩ := Value.mem_walk_record_iff.1 hv
      · exact unseen_not_mem_ofTargets (by simp [targetKeys]) hown
      · obtain ⟨rfl, rfl⟩ := Prod.mk.inj (List.mem_singleton.1 hmem)
        exact unseen_not_mem_walk_entityId hname hw
    · obtain ⟨rfl, rfl⟩ := hrest key v hmem
      exact hdata hv

end Item

theorem brace_not_mem_paddedDigits (width n : Nat) : '\x7b' ∉ (paddedDigits 10 width n).toList := by
  intro h
  rw [paddedDigits, String.toList_ofList] at h
  cases List.mem_append.1 h with
  | inl hzero => exact absurd (List.eq_of_mem_replicate hzero) (by decide)
  | inr hdigit =>
    exact absurd (Nat.isDigit_of_mem_toDigits (by decide) (by decide) hdigit) (by decide)

theorem TimeOfDay.brace_not_mem_compiled {t : TimeOfDay}
    (h : ∀ c ∈ t.minute ++ t.second.getD [], Text.isDigit c = true) :
    '\x7b' ∉ t.compiled.toList := by
  have hbrace : Text.isDigit '\x7b' = false := by decide
  have hminute : '\x7b' ∉ t.minute := by
    intro hc
    rw [h _ (List.mem_append.2 (.inl hc))] at hbrace
    cases hbrace
  have hsecond : '\x7b' ∉ t.second.getD ['0', '0'] := by
    intro hc
    cases hs : t.second with
    | none =>
      rw [hs] at hc
      exact absurd hc (by decide)
    | some second =>
      rw [hs] at hc h
      rw [h _ (List.mem_append.2 (.inr hc))] at hbrace
      cases hbrace
  simp [compiled, String.toList_append, brace_not_mem_paddedDigits, hminute, hsecond]

namespace Trigger

/-- The trigger of the hub hides something exactly if one of its states is a template. -/
theorem unseen_mem_walk_item {t : Trigger} (hentity : ∀ name ∈ t.entity?, IsEntityId name)
    (hwell : t.IsWellFormed) :
    unseen ∈ t.item.walk (one .trigger) ↔ t.isTemplated = true := by
  have hnone : ∀ v ∈ (none : Option Value), unseen ∉ v.walk (one .data) := by simp
  cases t with
  | state t =>
    refine (Item.unseen_mem_walk_state (hentity _ rfl) ?_).trans ?_
    · simp [unseen_not_mem_walk_number]
    · obtain ⟨name, after, before, forSeconds⟩ := t
      cases after <;> cases before <;>
        simp [isTemplated, unseen_mem_walk_setting, unseen_mem_walk_text, or_and_right, exists_or]
  | device t =>
    have hname := hentity _ rfl
    obtain ⟨name, change, weekdays⟩ := t
    cases change with
    | stateEquals after _ _ =>
      refine (Item.unseen_mem_walk_state hname hnone).trans ?_
      simp [isTemplated, unseen_mem_walk_setting]
    | attributeDelta attr _ _ =>
      have hattr := Item.isTemplate_attribute (hwell attr rfl)
      refine (Item.unseen_mem_walk_state hname hnone).trans ?_
      simp [isTemplated, unseen_mem_walk_text, hattr]
    | positionEquals attr after _ =>
      have hattr := Item.isTemplate_attribute (hwell attr rfl)
      refine (Item.unseen_mem_walk_state hname hnone).trans ?_
      simp [isTemplated, unseen_mem_walk_text, unseen_not_mem_walk_number, hattr, or_and_right,
        exists_or]
  | schedule t =>
    have htime := TimeOfDay.brace_not_mem_compiled hwell
    exact iff_of_false (Item.unseen_not_mem_walk_time htime) nofun

theorem unseen_not_mem_conditions {t : Trigger} (hwell : t.IsWellFormed) :
    ∀ v ∈ t.conditions, unseen ∉ v.walk (one .condition) := by
  intro v hv
  cases t with
  | state t => exact absurd hv List.not_mem_nil
  | device t =>
    obtain ⟨name, change, weekdays⟩ := t
    cases List.mem_append.1 hv with
    | inl hv =>
      cases change with
      | attributeDelta attr direction _ =>
        obtain rfl := List.mem_singleton.1 hv
        exact Item.unseen_not_mem_walk_template (Item.isContextOnly_changeBody (hwell attr rfl) _)
      | stateEquals => exact absurd hv List.not_mem_nil
      | positionEquals => exact absurd hv List.not_mem_nil
    | inr hv =>
      split at hv
      · obtain rfl := List.mem_singleton.1 hv
        exact Item.unseen_not_mem_walk_onWeekdays _
      · exact absurd hv List.not_mem_nil
  | schedule t =>
    obtain ⟨days, time⟩ := t
    cases days with
    | daily => exact absurd hv List.not_mem_nil
    | weekly weekdays _ =>
      obtain rfl := List.mem_singleton.1 hv
      exact Item.unseen_not_mem_walk_onWeekdays _
    | monthly day _ =>
      obtain rfl := List.mem_singleton.1 hv
      exact Item.unseen_not_mem_walk_template (Item.isContextOnly_onDay fun _ => Item.mem_toString_int)

end Trigger

structure Setter.IsSeen (s : Setter) : Prop where
  targeted : Service.isTargeted (Text.trim (s.domain ++ "." ++ s.service)) = true
  plain : Template.isTemplate (s.domain ++ "." ++ s.service) = false
  field : s.field ∉ targetKeys ∧ ofKey (.text s.field) = one .data

theorem Level.isSeen_setter (l : Level) : l.setter.IsSeen := by
  cases l <;> exact ⟨by decide +kernel, by decide +kernel, by decide⟩

theorem LevelCommand.isSeen_setter (c : LevelCommand) : c.setter.IsSeen := by
  cases c <;> exact ⟨by decide +kernel, by decide +kernel, by decide⟩

theorem Setter.unseen_not_mem_walk_call {s : Setter} {name : String} {value : Number}
    (hs : s.IsSeen) (hname : IsEntityId name) :
    unseen ∉ (s.call name value).walk (one .step) := by
  refine Item.unseen_not_mem_walk_call hname hs.targeted hs.plain fun h => ?_
  obtain hown | ⟨-, key, v, hmem, hv⟩ := Value.mem_walk_record_iff.1 h
  · exact unseen_not_mem_ofTargets (by simp [hs.field.1]) hown
  · obtain ⟨rfl, rfl⟩ := Prod.mk.inj (List.mem_singleton.1 hmem)
    rw [show among _ (.text s.field) = ofKey (.text s.field) from rfl, hs.field.2] at hv
    exact unseen_not_mem_walk_number _ hv

theorem Action.unseen_not_mem_walk_item {a : Action} (ha : IsEntityId a.entity) :
    unseen ∉ a.item.walk (one .step) := by
  have hnone : unseen ∉ (Value.record []).walk (one .data) := by decide
  cases a with
  | power p name =>
    refine Item.unseen_not_mem_walk_call ha ?_ ?_ hnone
    · cases p <;> decide +kernel
    · cases p <;> decide +kernel
  | level l name value => exact Setter.unseen_not_mem_walk_call l.isSeen_setter ha
  | command c name =>
    cases c with
    | plain c _ =>
      refine Item.unseen_not_mem_walk_call ha ?_ ?_ hnone
      · cases c <;> decide +kernel
      · cases c <;> decide +kernel
    | level c value => exact Setter.unseen_not_mem_walk_call c.isSeen_setter ha

namespace Draft

/-- The config of a draft that was read hides something exactly if a state of its trigger is a
template. -/
theorem hasTemplates_compile {raw : Value} {d : Draft} (h : Draft.read raw = .valid d)
    (id : String) : (d.compile id).references.hasTemplates = d.isTemplated := by
  obtain ⟨htrigger, haction⟩ := isEntityId_of_read h
  have hwell := isWellFormed_of_read h
  have hitem := Trigger.unseen_mem_walk_item htrigger hwell
  have hone {role : Role} {v : Value} : unseen ∈ Value.walkItems role [v] ↔
      unseen ∈ v.walk (one role) := by
    simp [Value.mem_walkItems]
  have hfalse : (d.compile id).references.hasTemplates = false ↔ d.isTemplated = false := by
    rw [References.hasTemplates_eq_false]
    constructor
    · intro hseen
      cases htemplated : d.isTemplated with
      | false => rfl
      | true => exact absurd (hone.2 (hitem.2 htemplated)) (hseen .triggers)
    · intro hplain part
      cases part with
      | triggers =>
        intro hunseen
        rw [isTemplated, hitem.1 (hone.1 hunseen)] at hplain
        cases hplain
      | conditions =>
        intro hunseen
        obtain ⟨v, hv, hf⟩ := Value.mem_walkItems.1 hunseen
        exact Trigger.unseen_not_mem_conditions hwell v hv hf
      | actions => exact fun hunseen => Action.unseen_not_mem_walk_item haction (hone.1 hunseen)
  rw [Bool.eq_iff_iff, ← Bool.not_eq_false, ← Bool.not_eq_false, hfalse]

end Draft

end HomePortal

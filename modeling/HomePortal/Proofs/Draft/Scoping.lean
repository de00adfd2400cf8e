import HomePortal.Draft.Compile
import HomePortal.Portal
import HomePortal.Proofs.Config.Id
import HomePortal.Proofs.Config.Mention
import HomePortal.Proofs.Draft.EntityId
import HomePortal.Proofs.EntitySet
/-!
The entities of a compiled draft are those of the draft, whatever its other texts hold; so a request
is denied exactly if one of them is out of scope.
-/

namespace HomePortal

open Finding Place

namespace Finding

variable {e : String} {place : Place}

def IsSilent (v : Value) : Prop :=
  ∀ (place : Place) (e : String), place.role ≠ .reference → entity e ∉ v.walk place

theorem isSilent_scalar (s : Scalar) : IsSilent (.scalar s) := by
  intro place e hplace h
  simp only [Value.walk] at h
  split at h
  · exact absurd h List.not_mem_nil
  · exact not_mem_ofScalar hplace h

theorem isSilent_list {items : List Value} (hitems : ∀ v ∈ items, IsSilent v) :
    IsSilent (.list items) := by
  intro place e hplace h
  simp only [Value.walk] at h
  split at h
  · obtain ⟨v, hv, hf⟩ := Value.mem_walkItems.1 h
    exact hitems v hv (one place.role) e hplace hf
  · have hgo := (List.mem_append.1 h).resolve_left not_mem_ofOther
    split at hgo
    · obtain ⟨v, hv, hf⟩ := Value.mem_walkItems.1 hgo
      exact hitems v hv (one .data) e (by decide) hf
    · exact absurd hgo List.not_mem_nil

/-- An entity found in a record is a literal, or part of a reference, or found further inside. -/
theorem entity_of_walk_record {fields : List (String × Value)}
    (h : entity e ∈ (Value.record fields).walk place) : ∃ name v, (name, v) ∈ fields ∧
      ((name ∈ literalKeys ∧ ∃ s, .text s ∈ v.asList ∧ e = folded s.toList ∧
          Text.IsName e.toList) ∨
        (name ∈ entityKeys ∧ entity e ∈ v.walk (each .reference)) ∨
        name ∉ entityKeys ∧ ∃ q : Place, q.role ≠ .reference ∧ entity e ∈ v.walk q) := by
  obtain hown | ⟨-, name, v, hmem, hv⟩ := Value.mem_walk_record_iff.1 h
  · obtain ⟨name, hname, w, s, hmem, hs⟩ := suggests_of_ofFields hown
    obtain ⟨field, hfield, heq⟩ := List.mem_map.1 hmem
    simp only [Prod.mk.injEq, Scalar.text.injEq] at heq
    obtain ⟨rfl, rfl⟩ := heq
    exact ⟨field.1, field.2, hfield, .inl ⟨hname, s, hs⟩⟩
  · refine ⟨name, v, hmem, .inr ?_⟩
    by_cases hname : name ∈ entityKeys
    · exact .inl ⟨hname, by rwa [among_entityKey hname] at hv⟩
    · refine .inr ⟨hname, _, fun hrole => hname ?_, hv⟩
      obtain ⟨-, key, hentity, heq⟩ := among_reference hrole
      rwa [Scalar.text.inj heq]

/-- Where no key has a meaning for entities, an entity is found further inside. -/
theorem entity_of_walk_plain {fields : List (String × Value)}
    (hkeys : ∀ name v, (name, v) ∈ fields → name ∉ literalKeys ∧ name ∉ entityKeys)
    (h : entity e ∈ (Value.record fields).walk place) : ∃ name v, (name, v) ∈ fields ∧
      ∃ q : Place, q.role ≠ .reference ∧ entity e ∈ v.walk q := by
  obtain ⟨name, v, hmem, ⟨hliteral, -⟩ | ⟨hkey, -⟩ | ⟨-, hv⟩⟩ := entity_of_walk_record h
  · exact absurd hliteral (hkeys name v hmem).1
  · exact absurd hkey (hkeys name v hmem).2
  · exact ⟨name, v, hmem, hv⟩

structure IsSilentField (name : String) (v : Value) : Prop where
  literal : name ∉ literalKeys
  entity : name ∉ entityKeys
  value : IsSilent v

theorem isSilent_record {fields : List (String × Value)}
    (h : ∀ name v, (name, v) ∈ fields → IsSilentField name v) : IsSilent (.record fields) := by
  intro place e hplace hf
  obtain ⟨name, v, hmem, q, hq, hv⟩ := entity_of_walk_plain
    (fun name v hmem => ⟨(h name v hmem).literal, (h name v hmem).entity⟩) hf
  exact (h name v hmem).value q e hq hv

theorem isSilent_number (n : Number) : IsSilent n.toValue := by
  cases n <;> exact isSilent_scalar _

theorem isSilent_setting (s : Setting) : IsSilent s.toValue := by
  cases s with
  | text s => exact isSilent_scalar _
  | number n => exact isSilent_number n

theorem mem_walk_namesItself {name : String} (hname : NamesItself name) :
    entity e ∈ (Value.text name).walk (each .reference) ↔ e = name := by
  rw [Value.walk_text, show (each .reference).role.ofScalar (.text name) = ofReference name from rfl,
    show ofReference name = [entity name] from hname]
  simp

/-- A record with one reference and nothing else that names entities. -/
theorem eq_of_walk_record {fields : List (String × Value)} {name : String}
    (hname : NamesItself name) (hrest : ∀ key v, (key, v) ∈ fields →
      key = "entity_id" ∧ v = .text name ∨ IsSilentField key v)
    (h : entity e ∈ (Value.record fields).walk place) : e = name := by
  obtain ⟨key, v, hmem, hcase⟩ := entity_of_walk_record h
  obtain ⟨rfl, rfl⟩ | hsilent := hrest key v hmem
  · obtain ⟨hliteral, -⟩ | ⟨-, hv⟩ | ⟨hkey, -⟩ := hcase
    · exact absurd hliteral (by decide)
    · exact (mem_walk_namesItself hname).1 hv
    · exact absurd (by decide) hkey
  · obtain ⟨hliteral, -⟩ | ⟨hkey, -⟩ | ⟨-, q, hq, hv⟩ := hcase
    · exact absurd hliteral hsilent.literal
    · exact absurd hkey hsilent.entity
    · exact absurd hv (hsilent.value q e hq)

theorem mem_walk_record {fields : List (String × Value)} {name : String} (hname : NamesItself name)
    (hgo : place.role.goesOn = true) (hentity : ("entity_id", .text name) ∈ fields) :
    entity name ∈ (Value.record fields).walk place := by
  refine Value.mem_walk_record_iff.2 (.inr ⟨hgo, "entity_id", .text name, hentity, ?_⟩)
  rw [among_entityKey (by decide)]
  exact (mem_walk_namesItself hname).2 rfl

end Finding

namespace Item

variable {e name : String}

/-- The fields of a state trigger: its kind, its entity, and those that are given. -/
theorem state_eq (entity : Value) (attr after before forSeconds : Option Value) :
    ∃ rest, Item.state entity attr after before forSeconds =
      .record (("trigger", .text "state") :: ("entity_id", entity) :: rest) ∧
      ∀ key v, (key, v) ∈ rest ↔ (key = "attribute" ∧ v ∈ attr) ∨ (key = "to" ∧ v ∈ after) ∨
        (key = "from" ∧ v ∈ before) ∨
        (key = "for" ∧ ∃ seconds ∈ forSeconds, v = .record [("seconds", seconds)]) := by
  refine ⟨(attr.map fun v => ("attribute", v)).toList ++ (after.map fun v => ("to", v)).toList ++
    (before.map fun v => ("from", v)).toList ++ ((forSeconds.map fun seconds =>
      .record [("seconds", seconds)]).map fun v => ("for", v)).toList, rfl, fun key v => ?_⟩
  simp only [List.mem_append, Option.mem_toList, Option.map_eq_some_iff, Prod.mk.injEq]
  constructor
  · intro h
    obtain ((⟨w, hw, rfl, rfl⟩ | ⟨w, hw, rfl, rfl⟩) | ⟨w, hw, rfl, rfl⟩) |
      ⟨_, ⟨w, hw, rfl⟩, rfl, rfl⟩ := h
    · exact .inl ⟨rfl, hw⟩
    · exact .inr (.inl ⟨rfl, hw⟩)
    · exact .inr (.inr (.inl ⟨rfl, hw⟩))
    · exact .inr (.inr (.inr ⟨rfl, w, hw, rfl⟩))
  · intro h
    obtain ⟨rfl, hv⟩ | ⟨rfl, hv⟩ | ⟨rfl, hv⟩ | ⟨rfl, w, hw, rfl⟩ := h
    · exact .inl (.inl (.inl ⟨v, hv, rfl, rfl⟩))
    · exact .inl (.inl (.inr ⟨v, hv, rfl, rfl⟩))
    · exact .inl (.inr ⟨v, hv, rfl, rfl⟩)
    · exact .inr ⟨_, ⟨w, hw, rfl⟩, rfl, rfl⟩

/-- A state trigger names its entity only. -/
theorem mem_walk_state {attr after before forSeconds : Option Value} (hname : NamesItself name)
    (hattr : ∀ v ∈ attr, IsSilent v) (hafter : ∀ v ∈ after, IsSilent v)
    (hbefore : ∀ v ∈ before, IsSilent v) (hfor : ∀ v ∈ forSeconds, IsSilent v) :
    entity e ∈ (Item.state (.text name) attr after before forSeconds).walk (one .trigger) ↔
      e = name := by
  obtain ⟨rest, hstate, hrest⟩ := state_eq (.text name) attr after before forSeconds
  rw [hstate]
  constructor
  case mpr =>
    intro heq
    subst heq
    exact mem_walk_record hname rfl (.tail _ (.head _))
  refine eq_of_walk_record hname fun key v hmem => ?_
  simp only [List.mem_cons, Prod.mk.injEq, hrest] at hmem
  obtain ⟨rfl, rfl⟩ | ⟨rfl, rfl⟩ | ⟨rfl, hv⟩ | ⟨rfl, hv⟩ | ⟨rfl, hv⟩ |
    ⟨rfl, seconds, hseconds, rfl⟩ := hmem
  · exact .inr ⟨by decide, by decide, isSilent_scalar _⟩
  · exact .inl ⟨rfl, rfl⟩
  · exact .inr ⟨by decide, by decide, hattr v hv⟩
  · exact .inr ⟨by decide, by decide, hafter v hv⟩
  · exact .inr ⟨by decide, by decide, hbefore v hv⟩
  · refine .inr ⟨by decide, by decide, isSilent_record fun key w hmem => ?_⟩
    obtain ⟨rfl, rfl⟩ := Prod.mk.inj (List.mem_singleton.1 hmem)
    exact ⟨by decide, by decide, hfor w hseconds⟩

/-- A time of day is no name, because of its colons. -/
theorem not_mem_walk_time {at_ : String} (hcolon : ':' ∈ at_.toList) :
    entity e ∉ (Item.time at_).walk (one .trigger) := by
  intro h
  obtain ⟨key, v, hmem, hcase⟩ := entity_of_walk_record h
  simp only [List.mem_cons, List.not_mem_nil, or_false, Prod.mk.injEq] at hmem
  obtain ⟨rfl, rfl⟩ | ⟨rfl, rfl⟩ := hmem
  · obtain ⟨hliteral, -⟩ | ⟨hkey, -⟩ | ⟨-, q, hq, hv⟩ := hcase
    · exact absurd hliteral (by decide)
    · exact absurd hkey (by decide)
    · exact isSilent_scalar _ q e hq hv
  · obtain ⟨-, s, hs, heq, hdotted⟩ | ⟨hkey, -⟩ | ⟨-, q, hq, hv⟩ := hcase
    · obtain rfl : s = at_ := by simpa [Value.asList] using hs
      have hmem := mem_folded (by decide) (by decide) hcolon
      rw [← heq] at hmem
      exact absurd (hdotted.isPlain_of_mem hmem) (by decide)
    · exact absurd hkey (by decide)
    · exact isSilent_scalar _ q e hq hv

/-- The fields of a call: the service, the target, and the data if there is any. -/
theorem call_eq (domain service : String) (entity : Value) (data : List (String × Value)) :
    ∃ rest, Item.call domain service entity data =
      .record (("action", .text (domain ++ "." ++ service)) ::
        ("target", .record [("entity_id", entity)]) :: rest) ∧
      ∀ key v, (key, v) ∈ rest → key = "data" ∧ v = .record data := by
  cases data with
  | nil => exact ⟨[], rfl, nofun⟩
  | cons first more =>
    refine ⟨[("data", .record (first :: more))], rfl, fun key v hmem => ?_⟩
    exact Prod.mk.inj (List.mem_singleton.1 hmem)

/-- A call names its target only. -/
theorem mem_walk_call {domain service : String} {data : List (String × Value)}
    (hname : NamesItself name) (hdata : IsSilent (.record data)) :
    entity e ∈ (Item.call domain service (.text name) data).walk (one .step) ↔ e = name := by
  obtain ⟨rest, hcall, hrest⟩ := call_eq domain service (.text name) data
  rw [hcall]
  constructor
  · intro h
    have hmembers : ∀ key v, (key, v) ∈ ("action", .text (domain ++ "." ++ service)) ::
        ("target", .record [("entity_id", .text name)]) :: rest →
        key = "target" ∧ v = .record [("entity_id", .text name)] ∨ IsSilentField key v := by
      intro key v hmem
      simp only [List.mem_cons, Prod.mk.injEq] at hmem
      obtain ⟨rfl, rfl⟩ | ⟨rfl, rfl⟩ | hmem := hmem
      · exact .inr ⟨by decide, by decide, isSilent_scalar _⟩
      · exact .inl ⟨rfl, rfl⟩
      · obtain ⟨rfl, rfl⟩ := hrest key v hmem
        exact .inr ⟨by decide, by decide, hdata⟩
    have hkeys : ∀ key v, (key, v) ∈ ("action", .text (domain ++ "." ++ service)) ::
        ("target", .record [("entity_id", .text name)]) :: rest →
        key ∉ literalKeys ∧ key ∉ entityKeys := by
      intro key v hmem
      obtain ⟨rfl, -⟩ | hsilent := hmembers key v hmem
      · decide
      · exact ⟨hsilent.literal, hsilent.entity⟩
    obtain ⟨key, v, hmem, q, hq, hv⟩ := entity_of_walk_plain hkeys h
    obtain ⟨-, rfl⟩ | hsilent := hmembers key v hmem
    · refine eq_of_walk_record hname (fun key v hmem => ?_) hv
      exact .inl (Prod.mk.inj (List.mem_singleton.1 hmem))
    · exact absurd hv (hsilent.value q e hq)
  · intro heq
    subst heq
    refine Value.walk_subset_of_mem rfl (.tail _ (.head _)) ?_
    exact mem_walk_record hname rfl (List.mem_singleton_self _)

theorem isSilent_onWeekdays (days : List Weekday) :
    IsSilent (Item.onWeekdays (Trigger.dayItems days)) := by
  refine isSilent_record fun name v hmem => ?_
  simp only [List.mem_cons, List.not_mem_nil, or_false, Prod.mk.injEq] at hmem
  obtain ⟨rfl, rfl⟩ | ⟨rfl, rfl⟩ := hmem
  · exact ⟨by decide, by decide, isSilent_scalar _⟩
  · refine ⟨by decide, by decide, isSilent_list fun v hv => ?_⟩
    obtain ⟨day, -, rfl⟩ := List.mem_map.1 hv
    exact isSilent_scalar _

theorem isSilent_template (body : String) : IsSilent (Item.template body) := by
  refine isSilent_record fun name v hmem => ?_
  simp only [List.mem_cons, List.not_mem_nil, or_false, Prod.mk.injEq] at hmem
  obtain ⟨rfl, rfl⟩ | ⟨rfl, rfl⟩ := hmem
  · exact ⟨by decide, by decide, isSilent_scalar _⟩
  · exact ⟨by decide, by decide, isSilent_scalar _⟩

end Item

variable {e : String}

theorem TimeOfDay.colon_mem_compiled (t : TimeOfDay) : ':' ∈ t.compiled.toList := by
  simp [compiled, String.toList_append]

namespace Trigger

/-- The trigger of the hub names the entity that fires it, if there is one. -/
theorem mem_walk_item {t : Trigger} (ht : ∀ name ∈ t.entity?, IsEntityId name) :
    entity e ∈ t.item.walk (one .trigger) ↔ e ∈ t.entity? := by
  have hself {name : String} : e = name ↔ e ∈ some name := by
    rw [Option.mem_some, eq_comm]
  have hnone : ∀ v ∈ (none : Option Value), IsSilent v := by simp
  cases t with
  | state t =>
    refine (Item.mem_walk_state (ht _ rfl).namesItself hnone ?_ ?_ ?_).trans hself
    · simp [isSilent_setting]
    · simp [isSilent_scalar]
    · simp [isSilent_number]
  | device t =>
    have hname := (ht _ rfl).namesItself
    obtain ⟨name, change, weekdays⟩ := t
    cases change with
    | stateEquals after _ _ =>
      refine (Item.mem_walk_state hname hnone ?_ hnone hnone).trans hself
      simp [isSilent_setting]
    | attributeDelta attr _ _ =>
      refine (Item.mem_walk_state hname ?_ hnone hnone hnone).trans hself
      simp [isSilent_scalar]
    | positionEquals attr after _ =>
      refine (Item.mem_walk_state hname ?_ ?_ hnone hnone).trans hself
      · simp [isSilent_scalar]
      · simp [isSilent_number]
  | schedule t =>
    exact iff_of_false (Item.not_mem_walk_time t.time.colon_mem_compiled) nofun

theorem isSilent_conditions (t : Trigger) : ∀ v ∈ t.conditions, IsSilent v := by
  intro v hv
  cases t with
  | state t => exact absurd hv List.not_mem_nil
  | device t =>
    cases List.mem_append.1 hv with
    | inl hv =>
      split at hv
      · obtain rfl := List.mem_singleton.1 hv
        exact Item.isSilent_template _
      · exact absurd hv List.not_mem_nil
    | inr hv =>
      split at hv
      · obtain rfl := List.mem_singleton.1 hv
        exact Item.isSilent_onWeekdays _
      · exact absurd hv List.not_mem_nil
  | schedule t =>
    obtain ⟨days, time⟩ := t
    cases days with
    | daily => exact absurd hv List.not_mem_nil
    | weekly weekdays _ =>
      obtain rfl := List.mem_singleton.1 hv
      exact Item.isSilent_onWeekdays _
    | monthly day _ =>
      obtain rfl := List.mem_singleton.1 hv
      exact Item.isSilent_template _

end Trigger

/-- A call that sets a number names its target only. -/
theorem Setter.mem_walk_call {s : Setter} {name : String} {value : Number}
    (hname : NamesItself name) (hfield : s.field ∉ literalKeys ∧ s.field ∉ entityKeys) :
    entity e ∈ (s.call name value).walk (one .step) ↔ e = name := by
  refine Item.mem_walk_call hname (isSilent_record fun key v hmem => ?_)
  obtain ⟨rfl, rfl⟩ := Prod.mk.inj (List.mem_singleton.1 hmem)
  exact ⟨hfield.1, hfield.2, isSilent_number _⟩

/-- The action of the hub names the entity that it acts on. -/
theorem Action.mem_walk_item {a : Action} (ha : IsEntityId a.entity) :
    .entity e ∈ a.item.walk (one .step) ↔ e = a.entity := by
  have hnone : IsSilent (.record []) := isSilent_record (by simp)
  cases a with
  | power p name => exact Item.mem_walk_call ha.namesItself hnone
  | level l name value =>
    refine Setter.mem_walk_call ha.namesItself ?_
    cases l <;> decide
  | command c name =>
    cases c with
    | plain c _ => exact Item.mem_walk_call ha.namesItself hnone
    | level c value =>
      refine Setter.mem_walk_call ha.namesItself ?_
      cases c <;> decide

namespace Draft

/-- Under an id that can be kept every draft has its config. -/
theorem compileAs?_eq_some {d : Draft} {existing : Option String}
    (hid : AutomationId.IsUsable existing) (mark : String) (token : Nat) :
    ∃ id, d.compileAs? existing mark token = some (d.compile id) := by
  obtain ⟨id, hchoose⟩ := Option.isSome_iff_exists.1 (AutomationId.isSome_choose? hid mark token)
  exact ⟨id, by rw [compileAs?, hchoose, Option.map_some]⟩

/-- The entities of a compiled draft are those of its trigger and of its action. -/
theorem references_compile {d : Draft} (htrigger : ∀ name ∈ d.trigger.entity?, IsEntityId name)
    (haction : IsEntityId d.action.entity) (id : String) :
    (d.compile id).references.triggers = EntitySet.ofList d.trigger.entity?.toList ∧
      (d.compile id).references.conditions = EntitySet.empty ∧
      (d.compile id).references.actions = EntitySet.ofList [d.action.entity] := by
  have hmem (part : Config.Part) (e : String) :
      e ∈ (d.compile id).references.ofPart part ↔
        ∃ v ∈ (d.compile id).items part, entity e ∈ v.walk (one part.role) := by
    rw [References.mem_ofPart, Value.mem_walkItems]
  refine ⟨EntitySet.ext fun e => ?_, EntitySet.eq_empty fun e he => ?_, EntitySet.ext fun e => ?_⟩
  · refine (hmem .triggers e).trans ?_
    simp only [compile, Config.items, List.mem_singleton, exists_eq_left, Config.Part.role,
      Trigger.mem_walk_item htrigger, EntitySet.mem_ofList, Option.mem_toList,
      Option.mem_def]
  · obtain ⟨v, hv, hf⟩ := (hmem .conditions e).1 he
    exact d.trigger.isSilent_conditions v hv (one .condition) e (by simp [one]) hf
  · refine (hmem .actions e).trans ?_
    simp only [compile, Config.items, List.mem_singleton, exists_eq_left, Config.Part.role,
      Action.mem_walk_item haction, EntitySet.mem_ofList]

end Draft

end HomePortal

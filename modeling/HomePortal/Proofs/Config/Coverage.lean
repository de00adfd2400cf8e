import HomePortal.Proofs.Config.Position
/-!
Coverage: the walk visits every value of a section outside pairs and sets, in a place that fits its
position. Where the walk sees everything, nothing of what it says there is that more may be reached.
-/

namespace HomePortal

open Finding Place

namespace Role

def position? : Role → Option Position
  | trigger => some .trigger
  | condition => some .condition
  | step => some .step
  | option => some .option
  | loop => some .loop
  | data | reference | read => none

/-- A condition without conditions of its own has its kind under `condition`. -/
theorem conditionKind_eq_plain_iff {fields : Entries} {kind : String} :
    conditionKind fields = .plain kind ↔
      fields.get? "condition" = some (.text kind) ∧ kind ∈ plainKinds := by
  constructor
  · intro h
    unfold conditionKind at h
    split at h
    · split at h <;> cases h
    · rename_i name hcondition
      split at h
      · cases h
      · split at h
        · rename_i hplain
          obtain rfl := ConditionKind.plain.inj h
          cases hget : fields.get? "condition" with
          | none =>
            rw [hget] at hcondition
            cases hcondition
          | some v =>
            rw [hget, Option.getD_some] at hcondition
            exact ⟨congrArg some hcondition, List.contains_iff_mem.1 hplain⟩
        · cases h
    · cases h
  · intro ⟨hget, hkind⟩
    have hlogical : kind ∉ logicalKinds :=
      (by decide : ∀ kind ∈ plainKinds, kind ∉ logicalKinds) kind hkind
    simp [conditionKind, hget, hlogical, hkind]

theorem isTemplateCondition_of_kind {fields : Entries}
    (h : conditionKind fields = .plain "template") :
    Position.isTemplateCondition fields = true := by
  obtain ⟨hget, -⟩ := conditionKind_eq_plain_iff.1 h
  simp [Position.isTemplateCondition, hget]

/-- Inside a condition stand conditions, and the template of a template condition. -/
theorem mem_conditionPlaces {fields : Entries} {name : String} {q : Place}
    (h : (name, q) ∈ conditionPlaces fields) :
    q = each .condition ∧ name ∈ Position.conditionNames ∨
      q = one .read ∧ name = "value_template" ∧ conditionKind fields = .plain "template" := by
  unfold conditionPlaces at h
  split at h
  · rename_i key hkind
    obtain ⟨rfl, rfl⟩ : name = key ∧ q = each .condition := by simpa using h
    have hlogical : name ∈ logicalKinds := by
      unfold conditionKind at hkind
      split at hkind
      · split at hkind
        · rename_i found hfound
          obtain rfl : found = name := by simpa using hkind
          exact List.mem_of_find?_eq_some hfound
        · simp at hkind
      · split at hkind
        · simp at hkind
        · split at hkind <;> simp at hkind
      · simp at hkind
    refine .inl ⟨rfl, ?_⟩
    simp only [logicalKinds, List.mem_cons, List.not_mem_nil, or_false] at hlogical
    obtain rfl | rfl | rfl := hlogical <;> decide
  · obtain ⟨rfl, rfl⟩ : name = "conditions" ∧ q = each .condition := by simpa using h
    exact .inl ⟨rfl, by decide⟩
  · rename_i hkind
    obtain ⟨rfl, rfl⟩ : name = "value_template" ∧ q = one .read := by simpa using h
    exact .inr ⟨rfl, rfl, hkind⟩
  · exact absurd h List.not_mem_nil

theorem ofCondition_of_template {fields : Entries}
    (h : conditionKind fields = .plain "template") :
    ofCondition fields = ofTemplateField fields := by
  simp [ofCondition, h]

theorem contextOnly_of_seen {fields : Entries} (h : unseen ∉ ofTemplateField fields) :
    ∃ s, fields.get? "value_template" = some (.text s) ∧ Template.isContextOnly s = true := by
  unfold ofTemplateField at h
  split at h
  · rename_i s hget
    by_cases hs : Template.isContextOnly s = true
    · exact ⟨s, hget, hs⟩
    · simp [hs] at h
  · exact absurd (List.mem_singleton_self _) h

theorem group_of_stepKind {fields : Entries} {key : String} (h : stepKind fields = .group key) :
    key = "parallel" ∨ key = "sequence" := by
  unfold stepKind at h
  repeat' split at h
  all_goals cases h
  · exact .inl rfl
  · exact .inr rfl

/-- A place listed for a key is that of the key's position. Only the template of a template
condition is not walked, and is looked at by itself. -/
theorem position_of_mem_places {role : Role} {fields : Entries} {name : String} {q : Place}
    {pos : Position} (hrole : role.position? = some pos) (h : (name, q) ∈ role.places fields) :
    q.role.position? = some (pos.underName fields name) ∨
      q = one .read ∧ name = "value_template" ∧ pos.underName fields name = .template ∧
        ofTemplateField fields ⊆ role.ofFields fields := by
  cases role with
  | data | reference | read => cases hrole
  | trigger => exact absurd h List.not_mem_nil
  | condition =>
    obtain rfl : Position.condition = pos := by simpa [position?] using hrole
    obtain ⟨rfl, hname⟩ | ⟨rfl, rfl, hkind⟩ := mem_conditionPlaces h
    · exact .inl (by simp [Position.underName, hname, position?, each])
    · refine .inr ⟨rfl, rfl, ?_, ?_⟩
      · simp [Position.underName, Position.conditionNames, isTemplateCondition_of_kind hkind]
      · simp [ofFields, ofCondition_of_template hkind]
  | step =>
    obtain rfl : Position.step = pos := by simpa [position?] using hrole
    simp only [places, stepPlaces] at h
    split at h
    · obtain ⟨rfl, rfl⟩ | ⟨rfl, rfl⟩ :
        name = "choose" ∧ q = each .option ∨ name = "default" ∧ q = each .step := by simpa using h
      all_goals exact .inl rfl
    · obtain ⟨rfl, rfl⟩ | ⟨rfl, rfl⟩ | ⟨rfl, rfl⟩ :
        name = "if" ∧ q = each .condition ∨ name = "then" ∧ q = each .step ∨
          name = "else" ∧ q = each .step := by simpa using h
      all_goals exact .inl rfl
    · obtain ⟨rfl, rfl⟩ : name = "repeat" ∧ q = one .loop := by simpa using h
      exact .inl rfl
    · rename_i key hkind
      obtain ⟨rfl, rfl⟩ : name = key ∧ q = each .step := by simpa using h
      obtain rfl | rfl := group_of_stepKind hkind <;> exact .inl rfl
    · obtain ⟨rfl, rfl⟩ : name = "wait_for_trigger" ∧ q = each .trigger := by simpa using h
      exact .inl rfl
    · rename_i hstep
      obtain ⟨rfl, hname⟩ | ⟨rfl, rfl, hkind⟩ := mem_conditionPlaces h
      · have hother : name ∉ Position.stepNames := by
          simp only [Position.conditionNames, List.mem_cons, List.not_mem_nil, or_false] at hname
          obtain rfl | rfl | rfl | rfl := hname <;> decide
        exact .inl (by simp [Position.underName, hname, hother, position?, each])
      · refine .inr ⟨rfl, rfl, ?_, ?_⟩
        · simp [Position.underName, Position.stepNames, Position.conditionNames,
            isTemplateCondition_of_kind hkind, hstep]
        · simp [ofFields, ofStep, hstep, ofCondition_of_template hkind]
    · exact absurd h List.not_mem_nil
  | option =>
    obtain rfl : Position.option = pos := by simpa [position?] using hrole
    obtain ⟨rfl, rfl⟩ | ⟨rfl, rfl⟩ :
      name = "conditions" ∧ q = each .condition ∨ name = "sequence" ∧ q = each .step := by
        simpa [places] using h
    all_goals exact .inl rfl
  | loop =>
    obtain rfl : Position.loop = pos := by simpa [position?] using hrole
    obtain ⟨rfl, rfl⟩ | ⟨rfl, rfl⟩ | ⟨rfl, rfl⟩ :
      name = "while" ∧ q = each .condition ∨ name = "until" ∧ q = each .condition ∨
        name = "sequence" ∧ q = each .step := by simpa [places] using h
    all_goals exact .inl rfl

/-- Only roles that stand for a position list places of their own. -/
theorem position?_of_mem_places {role : Role} {fields : Entries} {name : String} {q : Place}
    (h : (name, q) ∈ role.places fields) : ∃ pos, role.position? = some pos := by
  cases role with
  | data | reference | read => exact absurd h List.not_mem_nil
  | trigger | condition | step | option | loop => exact ⟨_, rfl⟩

/-- No role lists a place for a key that names entities. -/
theorem not_mem_places {role : Role} {fields : Entries} {name : String} {q : Place}
    (hname : name ∈ entityKeys) : (name, q) ∉ role.places fields := by
  intro h
  obtain ⟨pos, hpos⟩ := position?_of_mem_places h
  have hplain : pos.underName fields name = .data ∨ pos.underName fields name = .hidden := by
    simp only [entityKeys, List.mem_cons, List.not_mem_nil, or_false] at hname
    obtain rfl | rfl := hname
    all_goals cases pos <;> simp [Position.underName, Position.stepNames, Position.conditionNames]
  obtain hq | ⟨-, rfl, -⟩ := position_of_mem_places hpos h
  · generalize q.role = r at hq
    cases hplain with
    | inl hdata =>
      rw [hdata] at hq
      cases r <;> cases hq
    | inr hhidden =>
      rw [hhidden] at hq
      cases r <;> cases hq
  · exact absurd hname (by decide)

def Settled (pos : Position) (v : Value) : Prop :=
  v.isTruthy = false ∨ pos = .template ∧ ∃ s, v = .text s ∧ Template.isContextOnly s = true

theorem not_settled_list {pos : Position} {items : List Value} {v : Value} (hv : v ∈ items) :
    ¬ Settled pos (.list items) := by
  intro h
  obtain h | ⟨-, s, h, -⟩ := h
  · cases items with
    | nil => exact absurd hv List.not_mem_nil
    | cons _ _ => cases h
  · cases h

theorem not_settled_mapping {pos : Position} {fields : Entries} {entry : Scalar × Value}
    (h : entry ∈ fields) : ¬ Settled pos (.mapping fields) := by
  intro h
  obtain hfalse | ⟨-, s, heq, -⟩ := h
  · cases fields with
    | nil => exact absurd h List.not_mem_nil
    | cons _ _ => cases hfalse
  · cases heq

structure Suits (role : Role) (pos : Position) (v : Value) : Prop where
  position : ∀ p, role.position? = some p → pos = p
  read : role = .read → Settled pos v

theorem suits_data {pos : Position} {v : Value} : Suits .data pos v :=
  ⟨nofun, nofun⟩

/-- Where nothing unseen is told of a mapping with entries, it is walked through. -/
theorem Suits.goesOn {place : Place} {pos : Position} {fields : Entries} {entry : Scalar × Value}
    (h : place.role.Suits pos (.mapping fields)) (hentry : entry ∈ fields)
    (hseen : unseen ∉ (Value.mapping fields).walk place) : place.role.goesOn = true := by
  obtain ⟨role, many⟩ := place
  cases role with
  | reference => exact absurd (Value.ofFields_subset_walk (by simp [ofFields])) hseen
  | read => exact absurd (h.read rfl) (not_settled_mapping hentry)
  | _ => rfl

/-- The place of a key suits the value under it. -/
theorem Suits.among {place : Place} {pos : Position} {fields : Entries} {key : Scalar} {w : Value}
    (h : place.role.Suits pos (.mapping fields)) (hkey : (key, w) ∈ fields)
    (hd : (Entries.names fields).Nodup) (hseen : unseen ∉ (Value.mapping fields).walk place) :
    (Place.among (place.role.places fields) key).role.Suits (pos.under fields key) w := by
  have hgo := h.goesOn hkey hseen
  have hfields : unseen ∉ place.role.ofFields fields := fun hf =>
    hseen (Value.ofFields_subset_walk hf)
  obtain hplace | ⟨name, rfl, hmem⟩ := Place.among_cases (place.role.places fields) key
  · rw [hplace, ofKey]
    split
    · exact ⟨nofun, nofun⟩
    · split
      · rename_i htarget
        obtain ⟨name, hname, rfl⟩ := isKey_iff.1 htarget
        refine ⟨nofun, fun _ => .inl ?_⟩
        have hnot := fun ht => hfields (ofTargets_subset hgo ht)
        rw [unseen_mem_ofTargets] at hnot
        exact Bool.eq_false_iff.2 fun ht => hnot ⟨name, hname, w, hkey, ht⟩
      · exact suits_data
  · obtain ⟨p, hp⟩ := position?_of_mem_places hmem
    obtain rfl := h.position p hp
    obtain hq | ⟨hq, rfl, htemplate, hsub⟩ := position_of_mem_places hp hmem
    · refine ⟨fun p' hp' => Option.some.inj (hq.symm.trans hp'), fun hread => ?_⟩
      rw [hread] at hq
      cases hq
    · rw [hq]
      refine ⟨nofun, fun _ => .inr ⟨htemplate, ?_⟩⟩
      obtain ⟨s, hget, hs⟩ := contextOnly_of_seen fun hf => hfields (hsub hf)
      rw [Entries.get?_of_mem hd hkey] at hget
      exact ⟨s, Option.some.inj hget, hs⟩

end Role

namespace Place

/-- A key for entities has a reference under it, in every role that is walked through. -/
theorem among_entityKey {role : Role} {fields : Entries} {name : String}
    (hname : name ∈ entityKeys) : among (role.places fields) (.text name) = each .reference := by
  obtain heq | ⟨listed, heq, hlisted⟩ := among_cases (role.places fields) (.text name)
  · rw [heq, ofKey, if_pos (isKey_iff.2 ⟨name, hname, rfl⟩)]
  · obtain rfl : name = listed := by simpa using heq
    exact absurd hlisted (Role.not_mem_places hname)

structure Covers (place : Place) (found : List Finding) (pos : Position) (v : Value) : Prop where
  suits : place.role.Suits pos v
  single : ∀ items, v = .list items → place.many = false
  walked : v.walk place ⊆ found

/-- A value under a key is covered, or the items of the list that stands there. -/
theorem covers_asList {place : Place} {found : List Finding} {pos : Position} {v w : Value}
    (h : place.role.Suits pos w) (hsub : w.walk place ⊆ found) (hseen : unseen ∉ found)
    (hv : v ∈ w.asList) : ∃ q : Place, q.Covers found pos v := by
  have hnot : unseen ∉ w.walk place := fun hf => hseen (hsub hf)
  obtain ⟨rfl, hsingle⟩ | ⟨items, rfl, hmem⟩ := Value.mem_asList hv
  · exact ⟨place, h, fun items heq => absurd heq (hsingle items), hsub⟩
  · obtain ⟨role, many⟩ := place
    cases many with
    | true =>
      have hread : role = .read → Role.Settled pos v := fun hr =>
        absurd (h.read hr) (Role.not_settled_list hmem)
      exact ⟨one role, ⟨h.position, hread⟩, fun _ _ => rfl,
        fun _ hf => hsub (Value.walk_subset_of_mem_many hmem hf)⟩
    | false =>
      cases role with
      | data =>
        exact ⟨one .data, Role.suits_data, fun _ _ => rfl,
          fun _ hf => hsub (Value.walk_subset_of_mem_one rfl hmem hf)⟩
      | read => exact absurd (h.read rfl) (Role.not_settled_list hmem)
      | _ => exact absurd (by simp [Value.walk, Role.ofOther]) hnot

/-- An item of a list that is itself an item is covered as data. -/
theorem Covers.item {place : Place} {found : List Finding} {pos : Position} {xs : List Value}
    {v : Value} (h : place.Covers found pos (.list xs)) (hseen : unseen ∉ found) (hv : v ∈ xs) :
    ∃ q : Place, q.Covers found pos.inside v := by
  obtain ⟨role, many⟩ := place
  obtain rfl : many = false := h.single xs rfl
  have hnot : unseen ∉ (Value.list xs).walk (one role) := fun hf => hseen (h.walked hf)
  cases role with
  | data =>
    exact ⟨one .data, Role.suits_data, fun _ _ => rfl,
      fun _ hf => h.walked (Value.walk_subset_of_mem_one rfl hv hf)⟩
  | read => exact absurd (h.suits.read rfl) (Role.not_settled_list hv)
  | _ => exact absurd (by simp [Value.walk, Role.ofOther, one]) hnot

end Place

/-- Where nothing unseen is found, the walk visits every value that is not hidden. -/
theorem Position.Occurs.covered {start pos : Position} {role : Role} {items : List Value}
    {v : Value} (h : Occurs start items pos v) (hrole : role.position? = some start)
    (hd : Value.allDistinct items = true) (hseen : unseen ∉ Value.walkItems role items)
    (hpos : pos ≠ hidden) : ∃ place : Place, place.Covers (Value.walkItems role items) pos v := by
  -- On where the value stands. The place goes along with it: its role always suits the position.
  induction h with
  | top hv =>
    refine ⟨one role, ⟨fun p hp => Option.some.inj (hrole.symm.trans hp), fun hr => ?_⟩,
      fun _ _ => rfl, fun f hf => Value.mem_walkItems.2 ⟨_, hv, hf⟩⟩
    rw [show role = .read from hr] at hrole
    cases hrole
  | entry hmapping hkey hv ih =>
    obtain ⟨place, hplace⟩ := ih fun hh => hpos (under_eq_hidden.2 hh)
    have hnot := fun hf => hseen (hplace.walked hf)
    have hnames := Value.nodup_names (hmapping.isDistinct hd)
    have hgo := hplace.suits.goesOn hkey hnot
    exact Place.covers_asList (hplace.suits.among hkey hnames hnot)
      (fun f hf => hplace.walked (Value.walk_subset_of_mem hgo hkey hf)) hseen hv
  | item _ hv ih =>
    obtain ⟨place, hplace⟩ := ih fun hh => hpos (inside_eq_hidden.2 hh)
    exact hplace.item hseen hv
  | first | second | member => exact absurd rfl hpos

namespace Config

variable {c : Config} {part : Part} {pos : Position} {v : Value}

theorem covered_of_seen (hd : c.isDistinct = true) (h : c.references.hasTemplates = false)
    (hv : c.Occurs part pos v) (hpos : pos ≠ .hidden) : ∃ place : Place,
      place.Covers (Value.walkItems part.role (c.items part)) pos v := by
  have hrole : part.role.position? = some part.position := by cases part <;> rfl
  have hseen := References.hasTemplates_eq_false.1 h part
  exact hv.covered hrole (allDistinct_items hd part) hseen hpos

/-- What holds of all that is not hidden holds of everything, exactly if it holds of what is. -/
theorem forall_occurs_iff {P : Part → Position → Value → Prop}
    (hvisible : ∀ part pos v, c.Occurs part pos v → pos ≠ .hidden → P part pos v) :
    (∀ part pos v, c.Occurs part pos v → P part pos v) ↔
      ∀ part v, c.Occurs part .hidden v → P part .hidden v := by
  constructor
  · intro hall part v hv
    exact hall part .hidden v hv
  · intro hhidden part pos v hv
    by_cases hpos : pos = .hidden
    · subst hpos
      exact hhidden part v hv
    · exact hvisible part pos v hv hpos

end Config

end HomePortal

import HomePortal.Proofs.Config.Walk
/-!
Where a value stands in a config, by the keys that lead to it, whatever else stands beside them: as
a trigger, a condition, a step or a part of one, or as plain data. `Occurs` lists every value of a
section with its position, at any depth.
-/

namespace HomePortal

inductive Position where
  | trigger
  | condition
  | step
  | option
  | loop
  | template
  | data
  | hidden
  deriving DecidableEq

namespace Position

def conditionNames : List String :=
  ["conditions", "and", "or", "not"]

def stepNames : List String :=
  ["sequence", "parallel", "default", "then", "else"]

def isTemplateCondition (fields : Entries) : Bool :=
  match fields.get? "condition" with
  | some (.text kind) => kind == "template"
  | _ => false

def underName (pos : Position) (fields : Entries) (name : String) : Position :=
  match pos with
  | hidden => hidden
  | trigger | template | data => data
  | condition =>
    if conditionNames.contains name then condition
    else if name = "value_template" ∧ isTemplateCondition fields then template
    else data
  | step =>
    if stepNames.contains name then step
    else if name = "if" ∨ conditionNames.contains name then condition
    else if name = "choose" then option
    else if name = "repeat" then loop
    else if name = "wait_for_trigger" then trigger
    else if name = "value_template" ∧ isTemplateCondition fields ∧
        Finding.stepKind fields = .condition then template
    else data
  | option =>
    if name = "sequence" then step
    else if name = "conditions" then condition
    else data
  | loop =>
    if name = "sequence" then step
    else if name = "while" ∨ name = "until" then condition
    else data

def inside : Position → Position
  | hidden => hidden
  | _ => data

def under (pos : Position) (fields : Entries) : Scalar → Position
  | .text name => pos.underName fields name
  | _ => pos.inside

/-- The values at any depth of a list of items, each with its position. A list under a key stands
for its items, and what pairs and sets hold is hidden. -/
inductive Occurs (start : Position) (items : List Value) : Position → Value → Prop
  | top {v : Value} (h : v ∈ items) : Occurs start items start v
  | entry {pos : Position} {fields : Entries} {key : Scalar} {w v : Value}
      (h : Occurs start items pos (.mapping fields)) (hkey : (key, w) ∈ fields)
      (hv : v ∈ w.asList) : Occurs start items (pos.under fields key) v
  | item {pos : Position} {xs : List Value} {v : Value} (h : Occurs start items pos (.list xs))
      (hv : v ∈ xs) : Occurs start items pos.inside v
  | first {pos : Position} {a b : Value} (h : Occurs start items pos (.pair a b)) :
      Occurs start items hidden a
  | second {pos : Position} {a b : Value} (h : Occurs start items pos (.pair a b)) :
      Occurs start items hidden b
  | member {pos : Position} {members : List Scalar} {s : Scalar}
      (h : Occurs start items pos (.set members)) (hs : s ∈ members) :
      Occurs start items hidden (.scalar s)

theorem inside_eq_hidden {pos : Position} : pos.inside = hidden ↔ pos = hidden := by
  cases pos <;> simp [inside]

/-- No key hides what stands under it. -/
theorem under_eq_hidden {pos : Position} {fields : Entries} {key : Scalar} :
    pos.under fields key = hidden ↔ pos = hidden := by
  unfold under
  split
  · unfold underName
    cases pos <;> grind
  · exact inside_eq_hidden

theorem Occurs.isDistinct {start pos : Position} {items : List Value} {v : Value}
    (h : Occurs start items pos v) (hd : Value.allDistinct items = true) :
    v.isDistinct = true := by
  induction h with
  | top h => exact Value.isDistinct_of_mem hd h
  | entry _ hkey hv ih =>
    have hw := Value.isDistinct_of_mem_entries (Bool.and_eq_true_iff.1 ih).2 hkey
    exact Value.isDistinct_of_mem_asList hw hv
  | item _ hv ih => exact Value.isDistinct_of_mem ih hv
  | first _ ih => exact (Bool.and_eq_true_iff.1 ih).1
  | second _ ih => exact (Bool.and_eq_true_iff.1 ih).2
  | member _ _ _ => rfl

end Position

namespace Config

inductive Part where
  | triggers
  | conditions
  | actions
  deriving DecidableEq

def Part.position : Part → Position
  | triggers => .trigger
  | conditions => .condition
  | actions => .step

def Part.role : Part → Role
  | triggers => .trigger
  | conditions => .condition
  | actions => .step

def items (c : Config) : Part → List Value
  | .triggers => c.triggers
  | .conditions => c.conditions
  | .actions => c.actions

abbrev Occurs (c : Config) (part : Part) : Position → Value → Prop :=
  Position.Occurs part.position (c.items part)

def isDistinct (c : Config) : Bool :=
  Value.allDistinct c.triggers && Value.allDistinct c.conditions && Value.allDistinct c.actions

theorem allDistinct_items {c : Config} (h : c.isDistinct = true) (part : Part) :
    Value.allDistinct (c.items part) = true := by
  obtain ⟨h, hactions⟩ := Bool.and_eq_true_iff.1 h
  obtain ⟨htriggers, hconditions⟩ := Bool.and_eq_true_iff.1 h
  cases part
  · exact htriggers
  · exact hconditions
  · exact hactions

end Config

def References.ofPart (r : References) : Config.Part → EntitySet
  | .triggers => r.triggers
  | .conditions => r.conditions
  | .actions => r.actions

theorem Finding.mem_entities {found : List Finding} {e : String} :
    e ∈ Finding.entities found ↔ .entity e ∈ found := by
  simp only [Finding.entities, EntitySet.mem_ofList, List.mem_filterMap]
  constructor
  · intro h
    obtain ⟨f, hf, heq⟩ := h
    cases f with
    | entity id =>
      simp only [Option.some.injEq] at heq
      exact heq ▸ hf
    | unseen => simp at heq
  · exact fun h => ⟨_, h, rfl⟩

namespace References

/-- A part's entities are those that the walk over it finds. -/
theorem mem_ofPart {c : Config} {part : Config.Part} {e : String} :
    e ∈ c.references.ofPart part ↔ .entity e ∈ Value.walkItems part.role (c.items part) := by
  cases part <;> exact Finding.mem_entities

theorem hasTemplates_eq_false {c : Config} : c.references.hasTemplates = false ↔
    ∀ part : Config.Part, Finding.unseen ∉ Value.walkItems part.role (c.items part) := by
  have hparts (P : Config.Part → Prop) :
      (∀ part, P part) ↔ P .triggers ∧ P .conditions ∧ P .actions :=
    ⟨fun h => ⟨h _, h _, h _⟩, fun ⟨ht, hc, ha⟩ part => by cases part <;> assumption⟩
  rw [hparts]
  simp [Config.references, Config.findings, Config.items, Config.Part.role]

end References

end HomePortal

import HomePortal.Proofs.Config.Nesting
import HomePortal.Proofs.Config.Reference
/-!
The values that a walk comes to, each with its role. What is found is what each of them tells by
itself, and so the entities of a section are those that its references list, part by part, and those
that the fields for names hold.
-/

namespace HomePortal

open Finding Place

def Place.spread (place : Place) (v : Value) : List Value :=
  if place.many then v.asList else [v]

def Role.tells (role : Role) : Value → List Finding
  | .scalar s => role.ofScalar s
  | .mapping fields => role.ofFields fields
  | .list _ | .pair .. | .set _ => role.ofOther

/-- The values that a walk over items comes to, each in the role that it is taken in. -/
inductive Role.Visits (start : Role) (items : List Value) : Role → Value → Prop
  | top {v : Value} (h : v ∈ items) : Visits start items start v
  | entry {role : Role} {fields : Entries} {key : Scalar} {w v : Value}
      (h : Visits start items role (.mapping fields)) (hgo : role.goesOn = true)
      (hmem : (key, w) ∈ fields) (hv : v ∈ (among (role.places fields) key).spread w) :
      Visits start items (among (role.places fields) key).role v
  | item {role : Role} {xs : List Value} {v : Value} (h : Visits start items role (.list xs))
      (hgo : role.goesOn = true) (hv : v ∈ xs) : Visits start items .data v

namespace Value

variable {place : Place} {role start : Role} {items : List Value} {v w : Value} {f : Finding}

theorem mem_spread (h : v ∈ place.spread w) : v = w ∨ ∃ xs, w = list xs ∧ v ∈ xs := by
  unfold spread at h
  split at h
  · exact (mem_asList h).imp_left And.left
  · exact .inl (List.mem_singleton.1 h)

/-- A walk over what stands in a place takes its values one by one. -/
theorem mem_walk_spread : f ∈ w.walk place ↔
    ∃ v ∈ place.spread w, f ∈ v.walk (one place.role) := by
  obtain ⟨role, many⟩ := place
  cases many with
  | false => simp [spread, one]
  | true =>
    cases w with
    | scalar s =>
      cases s <;> simp [spread, asList, walk, one]
    | list xs => simp [spread, asList, walk, one, mem_walkItems]
    | _ => simp [spread, asList, walk, one]

/-- A list where one value is asked for tells of itself, and its items are walked as data. -/
theorem mem_walk_list : f ∈ (list items).walk (one role) ↔
    f ∈ role.ofOther ∨ role.goesOn = true ∧ ∃ v ∈ items, f ∈ v.walk (one .data) := by
  by_cases hgo : role.goesOn = true
  · simp [walk, one, hgo, mem_walkItems]
  · simp [walk, one, hgo]

/-- What a value tells is found by a walk that takes it alone. -/
theorem tells_subset_walk : role.tells v ⊆ v.walk (one role) := by
  cases v with
  | scalar s => simp [Role.tells, walk, one]
  | list xs => simp [Role.tells, walk, one]
  | mapping fields => exact fun f hf => ofFields_subset_walk hf
  | _ => exact List.Subset.refl _

end Value

namespace Role.Visits

variable {start role : Role} {items : List Value} {v : Value} {f : Finding}

theorem walk_subset (h : start.Visits items role v) :
    v.walk (one role) ⊆ Value.walkItems start items := by
  induction h with
  | top h => exact fun f hf => Value.mem_walkItems.2 ⟨_, h, hf⟩
  | entry _ hgo hmem hv ih =>
    intro f hf
    exact ih (Value.walk_subset_of_mem hgo hmem (Value.mem_walk_spread.2 ⟨_, hv, hf⟩))
  | item _ hgo hv ih => exact fun f hf => ih (Value.walk_subset_of_mem_one hgo hv hf)

/-- All that is found at a value is told by a value that the walk comes to from there. -/
theorem exists_tells {place : Place} (h : ∀ u ∈ place.spread v, start.Visits items place.role u)
    (hf : f ∈ v.walk place) : ∃ role u, start.Visits items role u ∧ f ∈ role.tells u := by
  -- On the value, in any place: where there are many, a list is no value, but its items are.
  induction v using Value.treeInduction generalizing place with
  | list xs ih =>
    obtain ⟨u, hu, hfu⟩ := Value.mem_walk_spread.1 hf
    have hvisit := h u hu
    obtain rfl | ⟨_, heq, hmem⟩ := Value.mem_spread hu
    · obtain hfu | ⟨hgo, x, hx, hfx⟩ := Value.mem_walk_list.1 hfu
      · exact ⟨place.role, _, hvisit, hfu⟩
      · have hitem : ∀ y ∈ (one .data).spread x, start.Visits items .data y :=
          List.forall_mem_singleton.2 (.item hvisit hgo hx)
        exact ih x hx hitem hfx
    · obtain rfl := Value.list.inj heq
      have hitem : ∀ y ∈ (one place.role).spread u, start.Visits items place.role y :=
        List.forall_mem_singleton.2 hvisit
      exact ih u hmem hitem hfu
  | mapping fields ih =>
    obtain ⟨u, hu, hfu⟩ := Value.mem_walk_spread.1 hf
    have hvisit := h u hu
    obtain rfl | ⟨_, heq, -⟩ := Value.mem_spread hu
    · obtain hfu | ⟨hgo, key, w, hmem, hfw⟩ := Value.mem_walk_mapping.1 hfu
      · exact ⟨place.role, _, hvisit, hfu⟩
      · exact ih key w hmem (fun y hy => .entry hvisit hgo hmem hy) hfw
    · cases heq
  | _ =>
    obtain ⟨u, hu, hfu⟩ := Value.mem_walk_spread.1 hf
    obtain rfl | ⟨_, heq, -⟩ := Value.mem_spread hu
    · exact ⟨place.role, _, h _ hu, by simpa [Role.tells, Value.walk, one] using hfu⟩
    · cases heq

/-- What is found in a section is what the values tell that the walk comes to. -/
theorem mem_walkItems_iff : f ∈ Value.walkItems start items ↔
    ∃ role v, start.Visits items role v ∧ f ∈ role.tells v := by
  constructor
  · intro hf
    obtain ⟨v, hv, hfv⟩ := Value.mem_walkItems.1 hf
    exact exists_tells (List.forall_mem_singleton.2 (.top hv)) hfv
  · intro ⟨role, v, hvisit, hf⟩
    exact hvisit.walk_subset (Value.tells_subset_walk hf)

end Role.Visits

/-! ### Fields for names -/

def Role.TakesCondition (role : Role) (fields : Entries) : Prop :=
  role = .condition ∨ role = .step ∧ stepKind fields = .condition

inductive Role.NamesUnder : Role → Entries → String → Prop
  | timeTrigger {fields : Entries}
      (h : either fields "trigger" "platform" = some (.text "time")) :
      NamesUnder .trigger fields "at"
  | zoneTrigger {fields : Entries}
      (h : either fields "trigger" "platform" = some (.text "zone")) :
      NamesUnder .trigger fields "zone"
  | timeCondition {role : Role} {fields : Entries} {key : String}
      (hrole : role.TakesCondition fields) (h : fields.get? "condition" = some (.text "time"))
      (hkey : key = "after" ∨ key = "before") : NamesUnder role fields key
  | zoneCondition {role : Role} {fields : Entries} (hrole : role.TakesCondition fields)
      (h : fields.get? "condition" = some (.text "zone")) : NamesUnder role fields "zone"
  | scene {fields : Entries} (h : stepKind fields = .scene) : NamesUnder .step fields "scene"

namespace Finding

variable {fields : Entries} {key e : String}

theorem entity_mem_ofTrigger : entity e ∈ ofTrigger fields ↔
    ∃ key, Role.NamesUnder .trigger fields key ∧ fields.Names key e := by
  constructor
  · intro he
    unfold ofTrigger at he
    split at he
    · rename_i platform hplatform
      split at he
      · simp at he
      · split at he
        · rename_i htime
          rw [beq_iff_eq.1 htime] at hplatform
          exact ⟨"at", .timeTrigger hplatform, Entries.entity_mem_ofField.1 he⟩
        · split at he
          · rename_i hzone
            rw [beq_iff_eq.1 hzone] at hplatform
            exact ⟨"zone", .zoneTrigger hplatform, Entries.entity_mem_ofField.1 he⟩
          · exact absurd he List.not_mem_nil
    · simp at he
  · intro ⟨key, hkey, hname⟩
    cases hkey with
    | timeTrigger h | zoneTrigger h =>
      simpa [ofTrigger, h, platforms] using Entries.entity_mem_ofField.2 hname
    | timeCondition hrole | zoneCondition hrole => simp [Role.TakesCondition] at hrole

theorem entity_mem_ofCondition {role : Role} (hrole : role.TakesCondition fields) :
    entity e ∈ ofCondition fields ↔ ∃ key, role.NamesUnder fields key ∧ fields.Names key e := by
  constructor
  · intro he
    unfold ofCondition at he
    split at he
    · exact absurd he List.not_mem_nil
    · exact absurd he List.not_mem_nil
    · simp at he
    · rename_i kind hkind
      obtain ⟨hget, -⟩ := Role.conditionKind_eq_plain_iff.1 hkind
      split at he
      · rename_i htime
        rw [beq_iff_eq.1 htime] at hget
        obtain he | he := List.mem_append.1 he
        · exact ⟨"after", .timeCondition hrole hget (.inl rfl), Entries.entity_mem_ofField.1 he⟩
        · exact ⟨"before", .timeCondition hrole hget (.inr rfl), Entries.entity_mem_ofField.1 he⟩
      · split at he
        · rename_i hzone
          rw [beq_iff_eq.1 hzone] at hget
          exact ⟨"zone", .zoneCondition hrole hget, Entries.entity_mem_ofField.1 he⟩
        · split at he
          · unfold ofTemplateField at he
            split at he
            · split at he <;> simp at he
            · simp at he
          · exact absurd he List.not_mem_nil
  · intro ⟨key, hkey, hname⟩
    have he := Entries.entity_mem_ofField.2 hname
    cases hkey with
    | timeTrigger | zoneTrigger => simp [Role.TakesCondition] at hrole
    | timeCondition _ h hkey =>
      have hkind := Role.conditionKind_eq_plain_iff.2 ⟨h, by decide⟩
      obtain rfl | rfl := hkey <;> simp [ofCondition, hkind, he]
    | zoneCondition _ h =>
      have hkind := Role.conditionKind_eq_plain_iff.2 ⟨h, by decide⟩
      simpa [ofCondition, hkind] using he
    | scene h =>
      obtain hrole | ⟨-, hcondition⟩ := hrole
      · cases hrole
      · rw [h] at hcondition
        cases hcondition

theorem entity_mem_ofStep : entity e ∈ ofStep fields ↔
    ∃ key, Role.NamesUnder .step fields key ∧ fields.Names key e := by
  constructor
  · intro he
    unfold ofStep at he
    split at he
    · unfold ofService at he
      split at he
      · split at he <;> simp at he
      · simp at he
    · rename_i hkind
      exact (entity_mem_ofCondition (.inr ⟨rfl, hkind⟩)).1 he
    · rename_i hkind
      exact ⟨"scene", .scene hkind, Entries.entity_mem_ofField.1 he⟩
    · simp at he
    · exact absurd he List.not_mem_nil
  · intro ⟨key, hkey, hname⟩
    have hcondition (hrole : Role.TakesCondition .step fields) : entity e ∈ ofStep fields := by
      have he := (entity_mem_ofCondition hrole).2 ⟨key, hkey, hname⟩
      obtain hrole | ⟨-, hkind⟩ := hrole
      · cases hrole
      · simpa [ofStep, hkind] using he
    cases hkey with
    | timeCondition hrole _ _ | zoneCondition hrole _ => exact hcondition hrole
    | scene h => simpa [ofStep, h] using Entries.entity_mem_ofField.2 hname

/-- The entities that a mapping itself tells of are those in its fields for names. -/
theorem entity_mem_ofFields {role : Role} : entity e ∈ role.ofFields fields ↔
    ∃ key, role.NamesUnder fields key ∧ fields.Names key e := by
  cases role with
  | trigger =>
    rw [Role.ofFields, List.mem_append, or_iff_left entity_not_mem_ofTargets, entity_mem_ofTrigger]
  | condition =>
    rw [Role.ofFields, List.mem_append, or_iff_left entity_not_mem_ofTargets,
      entity_mem_ofCondition (.inl rfl)]
  | step =>
    rw [Role.ofFields, List.mem_append, or_iff_left entity_not_mem_ofTargets, entity_mem_ofStep]
  | reference | read | data | option | loop =>
    refine iff_of_false (by simp [Role.ofFields, entity_not_mem_ofTargets]) fun h => ?_
    obtain ⟨key, hkey, -⟩ := h
    cases hkey with
    | timeCondition hrole | zoneCondition hrole => simp [Role.TakesCondition] at hrole

theorem entity_mem_ofReference {s : String} : entity e ∈ ofReference s ↔
    Template.isTemplate s = false ∧
      ∃ p ∈ s.toList.splitOn ',', e = folded p ∧ e ≠ "all" ∧ e ≠ "" ∧ e ≠ "none" := by
  cases h : Template.isTemplate s with
  | true => simp [ofReference_template h]
  | false => simp only [mem_ofReference h, entity_mem_ofPart, true_and]

/-- A value tells of an entity by itself if it is a reference that lists it, or a mapping with the
entity in a field for names. -/
theorem entity_mem_tells {role : Role} {v : Value} : entity e ∈ role.tells v ↔
    (∃ s, role = .reference ∧ v = .text s ∧ entity e ∈ ofReference s) ∨
      ∃ fields : Entries, v = .mapping fields ∧
        ∃ key, role.NamesUnder fields key ∧ fields.Names key e := by
  cases v with
  | mapping fields =>
    rw [Role.tells, entity_mem_ofFields]
    simp
  | scalar s =>
    rw [Role.tells]
    cases role <;> cases s <;> simp [Role.ofScalar, Finding.ofScalar]
  | list | pair | set =>
    rw [Role.tells]
    cases role <;> simp [Role.ofOther]

end Finding

namespace Config

/-- The values that the walk over a part comes to. -/
abbrev Visits (c : Config) (part : Part) : Role → Value → Prop :=
  part.role.Visits (c.items part)

/-- A reference in a part lists an entity, with commas between those that it lists. -/
def ReferenceLists (c : Config) (part : Part) (e : String) : Prop :=
  ∃ s, c.Visits part .reference (.text s) ∧ Template.isTemplate s = false ∧
    ∃ p ∈ s.toList.splitOn ',', e = folded p ∧ e ≠ "all" ∧ e ≠ "" ∧ e ≠ "none"

def FieldHolds (c : Config) (part : Part) (e : String) : Prop :=
  ∃ role key, ∃ fields : Entries, c.Visits part role (.mapping fields) ∧
    role.NamesUnder fields key ∧ fields.Names key e

variable {c : Config} {part : Part} {e : String}

theorem mem_ofPart_iff :
    e ∈ c.references.ofPart part ↔ c.ReferenceLists part e ∨ c.FieldHolds part e := by
  rw [References.mem_ofPart, Role.Visits.mem_walkItems_iff]
  simp only [entity_mem_tells, entity_mem_ofReference]
  constructor
  · intro ⟨role, v, hvisit, h⟩
    obtain ⟨s, rfl, rfl, hs⟩ | ⟨fields, rfl, key, hkey, hname⟩ := h
    · exact .inl ⟨s, hvisit, hs⟩
    · exact .inr ⟨role, key, fields, hvisit, hkey, hname⟩
  · intro h
    obtain ⟨s, hvisit, hs⟩ | ⟨role, key, fields, hvisit, hkey, hname⟩ := h
    · exact ⟨.reference, .text s, hvisit, .inl ⟨s, rfl, rfl, hs⟩⟩
    · exact ⟨role, .mapping fields, hvisit, .inr ⟨fields, rfl, key, hkey, hname⟩⟩

/-- The entities of a part are those that its references list and those that its fields for names
hold. Such a field holds what a text in it names if the text has no comma; a text with a comma
names nothing. -/
theorem entities_exact (c : Config) (part : Part) :
    (∀ e, e ∈ c.references.ofPart part ↔ c.ReferenceLists part e ∨ c.FieldHolds part e) ∧
      ∀ role key (fields : Entries) w s, c.Visits part role (.mapping fields) →
        role.NamesUnder fields key → fields.get? key = some w → .text s ∈ w.asList →
          (',' ∉ s.toList → ∀ p ∈ s.toList.splitOn ',', Text.IsName (folded p).toList →
            folded p ∈ c.references.ofPart part) ∧
          (',' ∈ s.toList → ¬ Text.IsName (folded s.toList).toList) := by
  refine ⟨fun e => mem_ofPart_iff, fun role key fields w s hvisit hkey hget hs => ⟨?_, ?_⟩⟩
  · intro hcomma p hp hname
    rw [List.splitOn_eq_singleton hcomma] at hp
    obtain rfl := List.mem_singleton.1 hp
    exact mem_ofPart_iff.2 (.inr ⟨role, key, fields, hvisit, hkey, w, s, hget, hs, rfl, hname⟩)
  · intro hcomma hname
    have hplain := hname.isPlain_of_mem (mem_folded (by decide) (by decide) hcomma)
    exact absurd hplain (by decide)

def commute : Config :=
  ⟨"commute", "Commute", none, "single", [],
    [.record [("condition", .text "zone"), ("entity_id", .text "person.anna"),
      ("zone", .text "zone.home, zone.work")]], []⟩

def arrival : Config :=
  ⟨"arrival", "Arrival", none, "single",
    [.record [("trigger", .text "zone"), ("entity_id", .text "person.anna"),
      ("zone", .text "Zone.Work ")]], [], []⟩

theorem entities_exact_arrival : "zone.work" ∈ arrival.references.triggers ∧
    ¬ Text.IsName (folded "zone.home, zone.work".toList).toList := by
  have harrival := ((entities_exact arrival .triggers).2 .trigger "zone" _ _ "Zone.Work "
    (.top (List.mem_singleton_self _)) (.zoneTrigger rfl) rfl (List.mem_singleton_self _)).1
    (by decide) "Zone.Work ".toList (by decide +kernel)
    ⟨"zone".toList, "work".toList, by decide, by decide, List.all_eq_true.1 (by decide),
      List.all_eq_true.1 (by decide), by decide +kernel⟩
  have hcommute := ((entities_exact commute .conditions).2 .condition "zone" _ _
    "zone.home, zone.work" (.top (List.mem_singleton_self _)) (.zoneCondition (.inl rfl) rfl) rfl
    (List.mem_singleton_self _)).2 (by decide)
  have hfolded : folded "Zone.Work ".toList = "zone.work" := by decide +kernel
  exact ⟨hfolded ▸ harrival, hcommute⟩

/-- Zones with a comma between them are not listed, though all is taken to be seen. -/
theorem not_listed_commute : ¬ ∀ c : Config, c.references.hasTemplates = false →
    ∀ part role key (fields : Entries) w s, c.Visits part role (.mapping fields) →
      role.NamesUnder fields key → fields.get? key = some w → .text s ∈ w.asList →
        ∀ p ∈ s.toList.splitOn ',', Text.IsName (folded p).toList →
          folded p ∈ c.references.ofPart part := by
  intro hall
  have hlisted := hall commute (by decide +kernel) .conditions .condition "zone" _ _
    "zone.home, zone.work" (.top (List.mem_singleton_self _)) (.zoneCondition (.inl rfl) rfl) rfl
    (List.mem_singleton_self _) "zone.home".toList (by decide +kernel)
    ⟨"zone".toList, "home".toList, by decide, by decide, List.all_eq_true.1 (by decide),
      List.all_eq_true.1 (by decide), by decide +kernel⟩
  exact absurd hlisted (by decide +kernel)

end Config

end HomePortal

import HomePortal.Proofs.Config.Analyzable
import HomePortal.Proofs.Text.Folded
/-!
The entities of a part of a config are those that it mentions: none is lost where all is seen, and
none is made up.
-/

namespace HomePortal

open Finding Place

namespace Finding

def literalKeys : List String :=
  ["at", "zone", "after", "before", "scene"]

end Finding

namespace Entries

def RefersTo (fields : Entries) (e : String) : Prop :=
  ∃ name ∈ entityKeys, ∃ w, (.text name, w) ∈ fields ∧
    ∃ part, w.HasPart part ∧ e = folded part ∧ e ≠ "" ∧ e ≠ "none"

def Suggests (fields : Entries) (e : String) : Prop :=
  ∃ name ∈ literalKeys, ∃ w s, (.text name, w) ∈ fields ∧ .text s ∈ w.asList ∧
    e = folded s.toList ∧ Text.IsName e.toList

end Entries

namespace Finding

variable {e : String}

theorem suggests_of_ofField {fields : Entries} {name : String} (hname : name ∈ literalKeys)
    (h : entity e ∈ ofField fields name) : fields.Suggests e := by
  obtain ⟨v, hv, he⟩ := List.mem_flatMap.1 h
  cases hget : fields.get? name with
  | none =>
    rw [hget] at hv
    exact absurd hv List.not_mem_nil
  | some w =>
    rw [hget] at hv
    cases v with
    | scalar s =>
      cases s with
      | text s =>
        simp only [ofLiteral] at he
        split at he
        · rename_i hdotted
          obtain rfl : e = folded s.toList := by simpa using he
          exact ⟨name, hname, w, s, Entries.mem_of_get? hget, hv, rfl, isName_folded hdotted⟩
        · exact absurd he List.not_mem_nil
      | _ => exact absurd he List.not_mem_nil
    | _ => exact absurd he List.not_mem_nil

theorem suggests_of_ofTrigger {fields : Entries} (h : entity e ∈ ofTrigger fields) :
    fields.Suggests e := by
  unfold ofTrigger at h
  split at h
  · split at h
    · simp at h
    · split at h
      · exact suggests_of_ofField (by decide) h
      · split at h
        · exact suggests_of_ofField (by decide) h
        · exact absurd h List.not_mem_nil
  · simp at h

theorem suggests_of_ofCondition {fields : Entries} (h : entity e ∈ ofCondition fields) :
    fields.Suggests e := by
  unfold ofCondition at h
  split at h
  · exact absurd h List.not_mem_nil
  · exact absurd h List.not_mem_nil
  · simp at h
  · split at h
    · cases List.mem_append.1 h with
      | inl h => exact suggests_of_ofField (by decide) h
      | inr h => exact suggests_of_ofField (by decide) h
    · split at h
      · exact suggests_of_ofField (by decide) h
      · split at h
        · unfold ofTemplateField at h
          repeat' split at h
          all_goals simp at h
        · exact absurd h List.not_mem_nil

theorem suggests_of_ofStep {fields : Entries} (h : entity e ∈ ofStep fields) :
    fields.Suggests e := by
  unfold ofStep at h
  split at h
  · unfold ofService at h
    repeat' split at h
    all_goals simp at h
  · exact suggests_of_ofCondition h
  · exact suggests_of_ofField (by decide) h
  · simp at h
  · exact absurd h List.not_mem_nil

/-- By itself a mapping tells of entities in literals only. -/
theorem suggests_of_ofFields {role : Role} {fields : Entries} (h : entity e ∈ role.ofFields fields) :
    fields.Suggests e := by
  cases role with
  | reference => simp [Role.ofFields] at h
  | trigger => exact suggests_of_ofTrigger ((List.mem_append.1 h).resolve_right entity_not_mem_ofTargets)
  | condition =>
    exact suggests_of_ofCondition ((List.mem_append.1 h).resolve_right entity_not_mem_ofTargets)
  | step => exact suggests_of_ofStep ((List.mem_append.1 h).resolve_right entity_not_mem_ofTargets)
  | data | option | loop => exact absurd h entity_not_mem_ofTargets
  | read => exact absurd h List.not_mem_nil

/-- A scalar names entities under the keys for them only. -/
theorem not_mem_ofScalar {role : Role} {s : Scalar} (hrole : role ≠ .reference) :
    entity e ∉ role.ofScalar s := by
  unfold Role.ofScalar Finding.ofScalar
  cases role with
  | reference => exact absurd rfl hrole
  | _ => grind

theorem not_mem_ofOther {role : Role} : entity e ∉ role.ofOther := by
  unfold Role.ofOther
  split <;> simp

/-- An entity found in one value of a reference is a part of its text. -/
theorem text_of_walk_reference {v : Value} (h : entity e ∈ v.walk (one .reference)) :
    ∃ s, v = .text s ∧ entity e ∈ ofReference s := by
  cases v with
  | scalar s =>
    cases s with
    | text s => exact ⟨s, rfl, by rwa [Value.walk_text] at h⟩
    | _ => simp [Value.walk, one, Role.ofScalar] at h
  | mapping fields => simp [Value.walk, one, Role.ofFields, Role.goesOn] at h
  | _ => simp [Value.walk, one, Role.ofOther, Role.goesOn] at h

theorem text_of_walk_references {w : Value} (h : entity e ∈ w.walk (each .reference)) :
    ∃ s, .text s ∈ w.asList ∧ entity e ∈ ofReference s := by
  cases w with
  | list items =>
    simp only [Value.walk, each, if_true] at h
    obtain ⟨v, hv, he⟩ := Value.mem_walkItems.1 h
    obtain ⟨s, rfl, hs⟩ := text_of_walk_reference he
    exact ⟨s, hv, hs⟩
  | scalar s =>
    cases s with
    | text s => exact ⟨s, List.mem_singleton_self _, by rwa [Value.walk_text] at h⟩
    | _ => simp [Value.walk, each, Role.ofScalar] at h
  | mapping fields => simp [Value.walk, each, Role.ofFields, Role.goesOn] at h
  | _ => simp [Value.walk, each, Role.ofOther] at h

/-- Entities of references are parts of their texts, also where a part beside them is unseen. -/
theorem refersTo_of_walk {fields : Entries} {name : String} {w : Value} (hname : name ∈ entityKeys)
    (hmem : (.text name, w) ∈ fields) (h : entity e ∈ w.walk (each .reference)) :
    fields.RefersTo e := by
  obtain ⟨s, hs, he⟩ := text_of_walk_references h
  have hplain : Template.isTemplate s = false := by
    refine Bool.eq_false_iff.2 fun ht => ?_
    rw [ofReference_template ht] at he
    simp at he
  obtain ⟨part, hpart, he⟩ := (mem_ofReference hplain).1 he
  obtain ⟨heq, -, hempty, hnone⟩ := entity_mem_ofPart.1 he
  exact ⟨name, hname, w, hmem, part, ⟨s, hs, hpart⟩, heq, hempty, hnone⟩

end Finding

namespace Place

/-- References stand under the keys for entities only. -/
theorem among_reference {role : Role} {fields : Entries} {key : Scalar}
    (h : (among (role.places fields) key).role = .reference) :
    among (role.places fields) key = each .reference ∧ ∃ name ∈ entityKeys, key = .text name := by
  obtain heq | ⟨name, rfl, hmem⟩ := among_cases (role.places fields) key
  · rw [heq, ofKey] at h ⊢
    by_cases hkey : isKey entityKeys key = true
    · rw [if_pos hkey]
      exact ⟨rfl, isKey_iff.1 hkey⟩
    · rw [if_neg hkey] at h
      split at h <;> cases h
  · obtain ⟨pos, hpos⟩ := Role.position?_of_mem_places hmem
    obtain hq | ⟨hq, -⟩ := Role.position_of_mem_places hpos hmem
    · rw [h] at hq
      cases hq
    · rw [hq] at h
      cases h

end Place

namespace Position

variable {start : Position} {items : List Value} {e : String}

def Reached (start : Position) (items : List Value) (v : Value) : Prop :=
  ∃ pos, Occurs start items pos v ∨ ∀ x ∈ v.asList, Occurs start items pos x

theorem Reached.item {xs : List Value} {v : Value} (h : Reached start items (.list xs))
    (hv : v ∈ xs) : Reached start items v := by
  obtain ⟨pos, h | h⟩ := h
  · exact ⟨pos.inside, .inl (h.item hv)⟩
  · exact ⟨pos, .inl (h v hv)⟩

theorem Reached.mapping {fields : Entries} (h : Reached start items (.mapping fields)) :
    ∃ pos, Occurs start items pos (.mapping fields) := by
  obtain ⟨pos, h | h⟩ := h
  · exact ⟨pos, h⟩
  · exact ⟨pos, h _ (List.mem_singleton_self _)⟩

/-- An entity that a walk finds is mentioned by a mapping that the walk came through. -/
theorem mention_of_walk {v : Value} {place : Place} (hv : Reached start items v)
    (hplace : place.role ≠ .reference) (h : entity e ∈ v.walk place) :
    ∃ pos, ∃ fields : Entries, Occurs start items pos (.mapping fields) ∧
      (fields.RefersTo e ∨ fields.Suggests e) := by
  -- On the tree. The walk turns to a reference only under a key for entities, where it ends.
  induction v using Value.treeInduction generalizing place with
  | scalar s =>
    simp only [Value.walk] at h
    split at h
    · exact absurd h List.not_mem_nil
    · exact absurd h (not_mem_ofScalar hplace)
  | list xs ih =>
    simp only [Value.walk] at h
    split at h
    · obtain ⟨x, hx, he⟩ := Value.mem_walkItems.1 h
      exact ih x hx (hv.item hx) (show (one place.role).role ≠ .reference from hplace) he
    · have hgo := (List.mem_append.1 h).resolve_left not_mem_ofOther
      split at hgo
      · obtain ⟨x, hx, he⟩ := Value.mem_walkItems.1 hgo
        exact ih x hx (hv.item hx) (by simp [one]) he
      · exact absurd hgo List.not_mem_nil
  | pair | set =>
    simp only [Value.walk] at h
    exact absurd h not_mem_ofOther
  | mapping fields ih =>
    obtain ⟨pos, hocc⟩ := hv.mapping
    obtain hown | ⟨-, key, w, hmem, he⟩ := Value.mem_walk_mapping.1 h
    · exact ⟨pos, fields, hocc, .inr (suggests_of_ofFields hown)⟩
    · by_cases hrole : (among (place.role.places fields) key).role = .reference
      · obtain ⟨heq, name, hname, rfl⟩ := among_reference hrole
        rw [heq] at he
        exact ⟨pos, fields, hocc, .inl (refersTo_of_walk hname hmem he)⟩
      · exact ih key w hmem ⟨_, .inr fun x hx => hocc.entry hmem hx⟩ hrole he

end Position

namespace Config

/-- Every entity that a mapping refers to is among those of the part. -/
def Lists (c : Config) (part : Part) : Value → Prop
  | .mapping fields => ∀ e, Entries.RefersTo fields e → e ∈ c.references.ofPart part
  | _ => True

/-- What a mapping refers to is listed, where all is seen and no pair is around it. -/
theorem lists_of_seen {c : Config} {part : Part} {pos : Position} {v : Value}
    (hd : c.isDistinct = true) (h : c.references.hasTemplates = false)
    (hv : c.Occurs part pos v) (hpos : pos ≠ .hidden) : c.Lists part v := by
  have hseen := References.hasTemplates_eq_false.1 h part
  obtain ⟨place, hplace⟩ := covered_of_seen hd h hv hpos
  cases v with
  | mapping fields =>
    intro e ⟨name, hname, w, hmem, cs, hpart, heq, hempty, hnone⟩
    have hwalk := hplace.reference hseen hname hmem
    have hsub := ofPart_subset_walk (fun hf => hseen (hwalk hf)) hpart
    have hall : e ≠ "all" := fun hall =>
      hseen (hwalk (hsub (unseen_mem_ofPart.2 (heq.symm.trans hall))))
    have hentity := hsub (entity_mem_ofPart.2 ⟨heq, hall, hempty, hnone⟩)
    exact References.mem_ofPart.2 (hwalk hentity)
  | _ => trivial

/-- The entities of a part are mentioned in it, whatever is seen. -/
theorem mention_of_mem {c : Config} {part : Part} {e : String}
    (he : e ∈ c.references.ofPart part) : ∃ pos, ∃ fields : Entries,
      c.Occurs part pos (.mapping fields) ∧ (fields.RefersTo e ∨ fields.Suggests e) := by
  obtain ⟨v, hv, hfound⟩ := Value.mem_walkItems.1 (References.mem_ofPart.1 he)
  have hrole : (one part.role).role ≠ .reference := by cases part <;> nofun
  exact Position.mention_of_walk ⟨_, .inl (.top hv)⟩ hrole hfound

/-- Where all is seen, no reference outside pairs and sets is lost; so none is at all, exactly if
none is in them. No entity is made up, whatever is seen. -/
theorem references_exact (c : Config) :
    (c.isDistinct = true → c.references.hasTemplates = false →
      (∀ part pos v, c.Occurs part pos v → pos ≠ .hidden → c.Lists part v) ∧
      ((∀ part pos v, c.Occurs part pos v → c.Lists part v) ↔
        ∀ part v, c.Occurs part .hidden v → c.Lists part v)) ∧
    ∀ part e, e ∈ c.references.ofPart part → ∃ pos, ∃ fields : Entries,
      c.Occurs part pos (.mapping fields) ∧ (fields.RefersTo e ∨ fields.Suggests e) := by
  constructor
  · intro hd h
    have hvisible : ∀ part pos v, c.Occurs part pos v → pos ≠ .hidden → c.Lists part v :=
      fun part pos v hv hpos => lists_of_seen hd h hv hpos
    exact ⟨hvisible, forall_occurs_iff hvisible⟩
  · intro part e he
    exact mention_of_mem he

theorem references_exact_monthly : monthly.isDistinct = true ∧
    monthly.references.hasTemplates = false ∧
      monthly.Lists .actions (.record [("entity_id", .text "light.kitchen")]) :=
  have hd : monthly.isDistinct = true := by decide +kernel
  have h : monthly.references.hasTemplates = false := by decide +kernel
  have hv : monthly.Occurs .actions .data (.record [("entity_id", .text "light.kitchen")]) :=
    .entry (.top (List.mem_singleton_self _)) (.tail _ (.head _)) (List.mem_singleton_self _)
  ⟨hd, h, ((references_exact monthly).1 hd h).1 .actions .data _ hv nofun⟩

/-- A reference in a pair is lost. -/
theorem not_lists_ofPair : ¬ ∀ c : Config, c.isDistinct = true →
    c.references.hasTemplates = false → ∀ part pos v, c.Occurs part pos v → c.Lists part v := by
  intro hall
  have hv : (ofPair [("entity_id", .text "light.bedroom")]).Occurs .actions .hidden
      (.record [("entity_id", .text "light.bedroom")]) :=
    .second (.entry (.top (List.mem_singleton_self _)) (.tail _ (.tail _ (.head _)))
      (List.mem_singleton_self _))
  have hlists := hall _ (by decide +kernel) (by decide +kernel) .actions .hidden _ hv
  refine absurd (hlists "light.bedroom" ?_) (by decide +kernel)
  refine ⟨"entity_id", by decide, _, List.mem_singleton_self _, "light.bedroom".toList, ?_⟩
  exact ⟨⟨_, List.mem_singleton_self _, by decide⟩, by decide +kernel, by decide, by decide⟩

end Config

end HomePortal

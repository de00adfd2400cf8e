import HomePortal.Config.Item
import HomePortal.Proofs.Config.Coverage
import HomePortal.Proofs.Config.Reference
/-!
What the absence of unseen entities certifies: outside pairs and sets every template is one of the
trigger and the clock and stands where it may, and every target is named by its entities.
-/

namespace HomePortal

open Finding Place

/-- Nothing more can be reached through a value at a position. A template reads the context only
and is a condition; a mapping has no targets but entities, which it names one by one. -/
def Value.IsAccounted (pos : Position) : Value → Prop
  | .text s => Template.isTemplate s = true →
      Template.isContextOnly s = true ∧ (pos = .condition ∨ pos = .template)
  | .mapping fields =>
      (∀ name ∈ targetKeys, ∀ w, (.text name, w) ∈ fields → w.isTruthy = false) ∧
      ∀ name ∈ entityKeys, ∀ w, (.text name, w) ∈ fields →
        w.IsReference ∧ ∀ part, w.HasPart part → folded part ≠ "all"
  | _ => True

namespace Place

variable {place : Place} {found : List Finding} {pos : Position}

theorem Covers.accounted_text {s : String} (h : place.Covers found pos (.text s))
    (hseen : unseen ∉ found) : (Value.text s).IsAccounted pos := by
  intro htemplate
  have hnot : unseen ∉ place.role.ofScalar (.text s) := fun hf =>
    hseen (h.walked (by rwa [Value.walk_text]))
  have hsuits := h.suits
  generalize place.role = role at hnot hsuits
  cases role with
  | data => exact absurd (by simp [Role.ofScalar, Finding.ofScalar, htemplate]) hnot
  | reference => exact absurd (by simp [Role.ofScalar, ofReference_template htemplate]) hnot
  | condition =>
    by_cases hs : Template.isContextOnly s = true
    · exact ⟨hs, .inl (hsuits.position _ rfl)⟩
    · exact absurd (by simp [Role.ofScalar, hs]) hnot
  | read =>
    obtain hfalse | ⟨rfl, t, heq, ht⟩ := hsuits.read rfl
    · have hempty : s = "" := by simpa [Value.isTruthy, Scalar.isTruthy] using hfalse
      subst hempty
      exact absurd htemplate (by decide)
    · obtain rfl : s = t := by simpa using heq
      exact ⟨ht, .inr rfl⟩
  | _ => exact absurd (by simp [Role.ofScalar]) hnot

/-- The value under a key that names entities is walked as a reference. -/
theorem Covers.reference {fields : Entries} {name : String} {w : Value}
    (h : place.Covers found pos (.mapping fields)) (hseen : unseen ∉ found)
    (hname : name ∈ entityKeys) (hmem : (.text name, w) ∈ fields) :
    w.walk (each .reference) ⊆ found := by
  have hnot := fun hf => hseen (h.walked hf)
  have hgo := h.suits.goesOn hmem hnot
  intro f hf
  rw [← among_entityKey hname] at hf
  exact h.walked (Value.walk_subset_of_mem hgo hmem hf)

theorem Covers.accounted_mapping {fields : Entries} (h : place.Covers found pos (.mapping fields))
    (hseen : unseen ∉ found) : (Value.mapping fields).IsAccounted pos := by
  have hnot := fun hf => hseen (h.walked hf)
  constructor
  · intro name hname w hmem
    have hgo := h.suits.goesOn hmem hnot
    refine Bool.eq_false_iff.2 fun ht => hnot (Value.ofFields_subset_walk ?_)
    exact Role.ofTargets_subset hgo (unseen_mem_ofTargets.2 ⟨name, hname, w, hmem, ht⟩)
  · intro name hname w hmem
    have hwalk := h.reference hseen hname hmem
    have hw : unseen ∉ w.walk (each .reference) := fun hf => hseen (hwalk hf)
    refine ⟨isReference_of_seen hw, fun part hpart hall => hw ?_⟩
    exact ofPart_subset_walk hw hpart (unseen_mem_ofPart.2 hall)

end Place

namespace Config

theorem isAccounted_of_seen {c : Config} {part : Part} {pos : Position} {v : Value}
    (hd : c.isDistinct = true) (h : c.references.hasTemplates = false)
    (hv : c.Occurs part pos v) (hpos : pos ≠ .hidden) : v.IsAccounted pos := by
  have hseen := References.hasTemplates_eq_false.1 h part
  obtain ⟨place, hplace⟩ := covered_of_seen hd h hv hpos
  cases v with
  | scalar s =>
    cases s with
    | text s => exact hplace.accounted_text hseen
    | _ => trivial
  | mapping fields => exact hplace.accounted_mapping hseen
  | _ => trivial

/-- Without unseen entities, all that is not hidden is accounted for. So the whole config is,
exactly if what its pairs and sets hold is. -/
theorem accounted_of_seen {c : Config} (hd : c.isDistinct = true)
    (h : c.references.hasTemplates = false) :
    (∀ part pos v, c.Occurs part pos v → pos ≠ .hidden → v.IsAccounted pos) ∧
      ((∀ part pos v, c.Occurs part pos v → v.IsAccounted pos) ↔
        ∀ part v, c.Occurs part .hidden v → v.IsAccounted .hidden) := by
  have hvisible : ∀ part pos v, c.Occurs part pos v → pos ≠ .hidden → v.IsAccounted pos :=
    fun part pos v hv hpos => isAccounted_of_seen hd h hv hpos
  exact ⟨hvisible, forall_occurs_iff hvisible⟩

def monthly : Config where
  id := "monthly"
  title := "Monthly"
  description := none
  mode := "single"
  triggers := [Item.time "08:00:00"]
  conditions := [Item.onDay "3"]
  actions := [Item.call "light" "turn_on" (.text "light.kitchen") []]

theorem accounted_monthly : monthly.isDistinct = true ∧ monthly.references.hasTemplates = false ∧
    (Value.text (Item.expression "now().day == 3")).IsAccounted .template :=
  have hd : monthly.isDistinct = true := by decide +kernel
  have h : monthly.references.hasTemplates = false := by decide +kernel
  have hv : monthly.Occurs .conditions .template (.text (Item.expression "now().day == 3")) :=
    .entry (.top (List.mem_singleton_self (Item.onDay "3"))) (.tail _ (.head _))
      (List.mem_singleton_self _)
  ⟨hd, h, (accounted_of_seen hd h).1 .conditions .template _ hv nofun⟩

def ofPair (fields : List (String × Value)) : Config where
  id := "evening"
  title := "Evening"
  description := none
  mode := "single"
  triggers := []
  conditions := []
  actions := [.record [("action", .text "light.turn_on"),
    ("target", .record [("entity_id", .text "light.kitchen")]),
    ("data", .list [.pair (.text "extra") (.record fields)])]]

/-- What a pair holds is not looked at. -/
theorem not_accounted_ofPair : ¬ ∀ c : Config, c.isDistinct = true →
    c.references.hasTemplates = false →
      ∀ part pos v, c.Occurs part pos v → v.IsAccounted pos := by
  intro hall
  have hv : (ofPair [("area_id", .text "bedroom")]).Occurs .actions .hidden
      (.record [("area_id", .text "bedroom")]) :=
    .second (.entry (.top (List.mem_singleton_self _)) (.tail _ (.tail _ (.head _)))
      (List.mem_singleton_self _))
  have harea := hall _ (by decide +kernel) (by decide +kernel) .actions .hidden _ hv
  exact absurd (harea.1 "area_id" (by decide) _ (List.mem_singleton_self _)) (by decide)

end Config

end HomePortal
